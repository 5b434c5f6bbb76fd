import AccelProbe.Calendar
import AccelProbe.Decimal.Double

/-!
# Values

A configuration document, a tensor library and a caller may hand the diagnostic a value of any kind, and much of its work is to
tell the kinds apart. `Value` has one constructor per kind. Integers have any size; a truth value is not an integer; a list is not
a tuple; the entries of a dictionary keep their order.

Three kinds belong to tensor libraries: tensors, the devices that a library lists, and device specifications read from a device
name. Of a tensor the diagnostic knows its shape, its device and its printed text, never its elements.
-/

namespace AccelProbe

/-- A value of any kind. -/
inductive Value where
  /-- The absent value. -/
  | null
  /-- A truth value. -/
  | bool (b : Bool)
  /-- An integer of any size. -/
  | int (n : Int)
  /-- A double precision number. -/
  | float (x : Double)
  /-- A text. -/
  | str (s : String)
  /-- A list. -/
  | list (items : List Value)
  /-- A tuple. -/
  | tuple (items : List Value)
  /-- A dictionary with text keys, in the order of insertion. -/
  | dictionary (entries : List (String × Value))
  /-- A date. -/
  | date (d : Date)
  /-- A time of day. -/
  | time (t : TimeOfDay)
  /-- A date with a time of day, and its distance from universal time in minutes if it is known. -/
  | datetime (d : Date) (t : TimeOfDay) (offset : Option Int)
  /-- A tensor: its shape, the device that holds it, and its printed text. -/
  | tensor (shape : List Value) (device : Value) (text : String)
  /-- A device that a library lists, by its name. -/
  | device (name : Value)
  /-- What a library reads from a device name: the type and the index of the device. -/
  | spec (type index : Value)
deriving Inhabited, Repr

namespace Value

/-- The name of a value's kind, as messages give it. -/
def kind : Value → String
  | null => "NoneType"
  | bool _ => "bool"
  | int _ => "int"
  | float _ => "float"
  | str _ => "str"
  | list _ => "list"
  | tuple _ => "tuple"
  | dictionary _ => "dict"
  | date _ => "datetime.date"
  | time _ => "datetime.time"
  | datetime .. => "datetime.datetime"
  | tensor .. => "Tensor"
  | device _ => "PhysicalDevice"
  | spec .. => "DeviceSpec"

/-- Whether a value counts as true: the absent value, zero and everything empty do not, and all else does. -/
def isTruthy : Value → Bool
  | null => false
  | bool b => b
  | int n => n != 0
  | float x => !x.isZero
  | str s => !s.isEmpty
  | list items => !items.isEmpty
  | tuple items => !items.isEmpty
  | dictionary entries => !entries.isEmpty
  | _ => true

/-- Whether a value is the absent one. -/
def isNull : Value → Bool
  | null => true
  | _ => false

/-- The integer that a truth value or an integer counts as in a comparison of numbers. -/
def integer? : Value → Option Int
  | bool b => some (if b then 1 else 0)
  | int n => some n
  | _ => none

mutual

/-- Equality as the diagnostic compares values. Numbers of different kinds are compared by their exact value, a list never
equals a tuple, dictionaries are equal when they have equal entries in any order, and a NaN equals nothing. Tensors and devices
are objects of a library and equal only themselves, which two values made apart never are. -/
def same : Value → Value → Bool
  | null, w => w.isNull
  | bool b, w =>
    match w with
    | float y => y.isInt (if b then 1 else 0)
    | w => w.integer? == some (if b then 1 else 0)
  | int n, w =>
    match w with
    | float y => y.isInt n
    | w => w.integer? == some n
  | float x, w =>
    match w with
    | float y => x.sameNumber y
    | w => (w.integer?.map x.isInt).getD false
  | str s, w =>
    match w with
    | str t => s == t
    | _ => false
  | list items, w =>
    match w with
    | list others => sameEach items others
    | _ => false
  | tuple items, w =>
    match w with
    | tuple others => sameEach items others
    | _ => false
  | dictionary entries, w =>
    match w with
    | dictionary others => entries.length == others.length && sameEntries entries others
    | _ => false
  | date d, w =>
    match w with
    | date e => d == e
    | _ => false
  | time t, w =>
    match w with
    | time u => t == u
    | _ => false
  | datetime d t o, w =>
    match w with
    | datetime e u p => d == e && t == u && o == p
    | _ => false
  | tensor .., _ => false
  | device _, _ => false
  | spec .., _ => false

/-- Equality of two lists, item by item. -/
def sameEach : List Value → List Value → Bool
  | [], others => others.isEmpty
  | v :: rest, others =>
    match others with
    | w :: rest' => same v w && sameEach rest rest'
    | [] => false

/-- Whether every entry of the first list has an equal one under its key in the second. -/
def sameEntries : List (String × Value) → List (String × Value) → Bool
  | [], _ => true
  | (key, v) :: rest, others =>
    (match others.lookup key with
      | some w => same v w
      | none => false) && sameEntries rest others

end

end Value

end AccelProbe
