import AccelProbe.Decimal.Fixed
import AccelProbe.Decimal.Numeral
import AccelProbe.Value.Text

/-!
# Using a value as a collection, a number or an object

A value of any kind may arrive where a collection, a number or an object of a library is needed. Each use of a value is a function
that succeeds for the kinds that allow it and names the fault for all others.
-/

namespace AccelProbe

namespace Value

/-- Why a value could not be used as it was needed. -/
inductive Fault where
  /-- A value of this kind has no items to go through. -/
  | notIterable (kind : String)
  /-- A value of this kind has no length. -/
  | noLength (kind : String)
  /-- A value of this kind has no such attribute. -/
  | noAttribute (kind field : String)
  /-- A value of this kind does not count as an integer. -/
  | notAnInteger (kind : String)
  /-- A value of this kind does not count as a number. -/
  | notANumber (kind : String)
  /-- This text is no numeral. -/
  | noNumeral (text : String)
  /-- The integer is beyond the finite doubles. -/
  | integerTooLarge
  /-- An integer in the value has more digits than the limit. -/
  | integerTooLong
  /-- The collections in the value lie too deep in each other. -/
  | tooDeep
  /-- A text cannot be written with fixed places. -/
  | textWithPlaces
  /-- A value of this kind cannot be written with fixed places. -/
  | noPlaces (kind : String)
deriving DecidableEq, Repr

/-- The wording of a fault. -/
def Fault.message : Fault → String
  | notIterable kind => "'" ++ kind ++ "' object is not iterable"
  | noLength kind => "object of type '" ++ kind ++ "' has no len()"
  | noAttribute kind field => "'" ++ kind ++ "' object has no attribute '" ++ field ++ "'"
  | notAnInteger kind => "'" ++ kind ++ "' object cannot be interpreted as an integer"
  | notANumber kind => "float() argument must be a string or a real number, not '" ++ kind ++ "'"
  | noNumeral text => "could not convert string to float: " ++ Text.quote text
  | integerTooLarge => "int too large to convert to float"
  | integerTooLong => Digits.limitMessage none
  | tooDeep => "maximum recursion depth exceeded while getting the repr of an object"
  | textWithPlaces => "Unknown format code 'f' for object of type 'str'"
  | noPlaces kind => "unsupported format string passed to " ++ kind ++ ".__format__"

/-- The items of a collection: the characters of a text, the keys of a dictionary. -/
def items : Value → Except Fault (List Value)
  | list vs => .ok vs
  | tuple vs => .ok vs
  | str s => .ok (s.toList.map fun c => str (String.ofList [c]))
  | dictionary es => .ok (es.map fun e => str e.1)
  | v => .error (.notIterable v.kind)

/-- The number of items of a collection. -/
def length : Value → Except Fault Nat
  | list vs => .ok vs.length
  | tuple vs => .ok vs.length
  | str s => .ok s.length
  | dictionary es => .ok es.length
  | v => .error (.noLength v.kind)

/-- The entries of a dictionary. -/
def entries : Value → Except Fault (List (String × Value))
  | dictionary es => .ok es
  | v => .error (.noAttribute v.kind "items")

/-- The entry of a dictionary under a key, or else what `fallback` gives. The fallback is worked out first, and its fault is the
fault of the whole. -/
def detail (v : Value) (key : String) (fallback : Except Fault Value) : Except Fault Value :=
  match v with
  | dictionary es => fallback.map fun other => (es.lookup key).getD other
  | v => .error (.noAttribute v.kind "get")

/-- The sizes of a tensor. -/
def shape : Value → Except Fault (List Value)
  | tensor sizes _ _ => .ok sizes
  | v => .error (.noAttribute v.kind "shape")

/-- The device that holds a tensor. -/
def heldBy : Value → Except Fault Value
  | tensor _ place _ => .ok place
  | v => .error (.noAttribute v.kind "device")

/-- The name of a listed device. -/
def deviceName : Value → Except Fault Value
  | device name => .ok name
  | v => .error (.noAttribute v.kind "name")

/-- The type that a device specification names. -/
def deviceType : Value → Except Fault Value
  | spec type _ => .ok type
  | v => .error (.noAttribute v.kind "device_type")

/-- The index that a device specification names. -/
def deviceIndex : Value → Except Fault Value
  | spec _ index => .ok index
  | v => .error (.noAttribute v.kind "device_index")

/-- The integer that a value counts as. -/
def toInteger (v : Value) : Except Fault Int :=
  match v.integer? with
  | some n => .ok n
  | none => .error (.notAnInteger v.kind)

/-- The double that an integer counts as. -/
def integerToDouble (n : Int) : Except Fault Double :=
  match Double.ofInt? n with
  | some x => .ok x
  | none => .error .integerTooLarge

/-- The double that a value counts as; a text is read as a numeral. -/
def toDouble : Value → Except Fault Double
  | float x => .ok x
  | bool b => integerToDouble (if b then 1 else 0)
  | int n => integerToDouble n
  | str s =>
    match Numeral.read? s with
    | some x => .ok x
    | none => .error (.noNumeral s)
  | v => .error (.notANumber v.kind)

/-- A number written with a fixed count of places after the point. -/
def withPlaces (places : Nat) : Value → Except Fault String
  | float x => .ok (Fixed.text places x)
  | bool b => (integerToDouble (if b then 1 else 0)).map (Fixed.text places)
  | int n => (integerToDouble n).map (Fixed.text places)
  | str _ => .error .textWithPlaces
  | v => .error (.noPlaces v.kind)

end Value

end AccelProbe
