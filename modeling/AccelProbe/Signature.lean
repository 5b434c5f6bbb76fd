import AccelProbe.Value.Writing

/-!
# Records built from named arguments

A record is built from named arguments in any order. Its signature lists the fields in their order, each with its default if it
may be left out. The first argument that is no field is refused, and so is the record's own name for itself, `self`; only when
there is no such argument is a missing field looked for.
-/

namespace AccelProbe

/-- Named values, in the order in which they were given. -/
abbrev Fields := List (String × Value)

/-- The names and defaults of a record's fields. -/
structure Signature where
  /-- The name of the record in messages. -/
  title : String
  /-- The fields in order, each with its default if it has one. -/
  parameters : List (String × Option Value)

namespace Signature

/-- Why a record could not be built from named arguments, or changed. -/
inductive Fault where
  /-- The record itself was given as an argument. -/
  | selfGiven (title : String)
  /-- An argument is no field of the record. -/
  | unexpected (title name : String)
  /-- These fields were left out and have no default. -/
  | missing (title : String) (names : List String)
  /-- What was given in place of named arguments is of another kind. -/
  | notNamed (title kind : String)
  /-- The fields of the record cannot be assigned. -/
  | frozen (name : String)
deriving DecidableEq, Repr

/-- Names between quotes, with commas between them and "and" before the last. -/
def nameList : List String → String
  | [] => ""
  | [a] => a
  | [a, b] => a ++ " and " ++ b
  | names => String.intercalate ", " names.dropLast ++ ", and " ++ names.getLast?.getD ""

/-- A name between single quotes. -/
def quoted (name : String) : String := "'" ++ name ++ "'"

/-- The wording of a fault. -/
def Fault.message : Fault → String
  | selfGiven title => title ++ ".__init__() got multiple values for argument 'self'"
  | unexpected title name => title ++ ".__init__() got an unexpected keyword argument '" ++ name ++ "'"
  | missing title names =>
    title ++ ".__init__() missing " ++ natText names.length ++ " required positional argument" ++
      (if names.length = 1 then "" else "s") ++ ": " ++ nameList (names.map quoted)
  | notNamed title kind => title ++ "() argument after ** must be a mapping, not " ++ kind
  | frozen name => "cannot assign to field " ++ Text.quote name

/-- The names of the fields. -/
def names (s : Signature) : List String := s.parameters.map (·.1)

/-- The fields that have no default and are not among the given names. -/
def missingFrom (s : Signature) (given : Fields) : List String :=
  (s.parameters.filter fun p => p.2.isNone && !given.any (·.1 == p.1)).map (·.1)

/-- The first of the given arguments that the record does not take. -/
def stranger? (s : Signature) (given : Fields) : Option String :=
  (given.find? fun f => !s.names.contains f.1).map (·.1)

/-- Whether a record can be built from these named arguments. -/
def check (s : Signature) (given : Fields) : Except Fault Unit :=
  match s.stranger? given with
  | some name => .error (if name = "self" then .selfGiven s.title else .unexpected s.title name)
  | none =>
    match s.missingFrom given with
    | [] => .ok ()
    | names => .error (.missing s.title names)

/-- The value of a field: the given one, or else its default. -/
def value (s : Signature) (given : Fields) (name : String) : Value :=
  match given.lookup name with
  | some v => v
  | none => ((s.parameters.lookup name).join).getD .null

/-- A field with its value, as messages show it. -/
def fieldSource (f : String × Value) : Except Value.Fault String := f.2.toSource.map fun text => f.1 ++ "=" ++ text

/-- A record as messages show it: its name, and its fields with their values between parentheses. -/
def source (s : Signature) (fields : Fields) : Except Value.Fault String :=
  (fields.mapM fieldSource).map fun texts => s.title ++ "(" ++ String.intercalate ", " texts ++ ")"

end Signature

namespace Fields

/-- Fields with some of their values replaced; names that were not there come after the others. -/
def replace (fields changes : Fields) : Fields :=
  (fields.map fun f => (f.1, (changes.lookup f.1).getD f.2)) ++
    changes.filter fun c => !fields.any (·.1 == c.1)

/-- Whether two lists of fields have equal values, field by field. -/
def same (xs ys : Fields) : Bool := Value.sameEach (xs.map (·.2)) (ys.map (·.2))

end Fields

end AccelProbe
