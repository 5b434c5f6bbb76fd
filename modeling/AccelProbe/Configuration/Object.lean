import AccelProbe.Configuration.Validation

/-!
# A configuration as an object

A configuration can be changed one attribute after the other. A value under the name of a field takes the field's place, unchecked;
any other name is kept beside the fields. Three names are special: the kind of the object stays what it is, what the object
is watched by is not for others to set, and all attributes together can be replaced by those of a dictionary, which gives every
field that it leaves out its default. Two names that are no fields take the place of something that the object's kind has: its
check and its list of fields.
-/

namespace AccelProbe

/-- A configuration whose attributes can be assigned. -/
structure Configuration.Object where
  /-- The fields. -/
  fields : Configuration := {}
  /-- The attributes that are no fields. -/
  others : Fields := []

namespace Configuration.Object

/-- The attribute that is the kind of an object. -/
def kindAttribute : String := "__class__"

/-- The attribute that holds what watches an object. -/
def watchAttribute : String := "__weakref__"

/-- The attribute that holds all attributes that were assigned. -/
def allAttribute : String := "__dict__"

/-- The attribute that checks the fields. -/
def checkAttribute : String := "__post_init__"

/-- The attribute that lists the fields. -/
def listAttribute : String := "__dataclass_fields__"

/-- Why an attribute could not be assigned, or the fields not be checked. -/
inductive Fault where
  /-- A value of this kind is no kind of objects. -/
  | notAKind (kind : String)
  /-- A value of this kind holds no attributes. -/
  | noAttributes (kind : String)
  /-- The attribute cannot be set. -/
  | readOnly (name : String)
  /-- A value of this kind cannot check anything. -/
  | notCallable (kind : String)
  /-- A field cannot be used. -/
  | field (fault : Configuration.Fault)

/-- The wording of a fault. -/
def Fault.message : Fault → Except Value.Fault String
  | notAKind kind => .ok ("__class__ must be set to a class, not '" ++ kind ++ "' object")
  | noAttributes kind => .ok ("__dict__ must be set to a dictionary, not a '" ++ kind ++ "'")
  | readOnly name => .ok ("attribute '" ++ name ++ "' of '" ++ signature.title ++ "' objects is not writable")
  | notCallable kind => .ok ("'" ++ kind ++ "' object is not callable")
  | field fault => fault.message

/-- An object with a value under an ordinary name. -/
def put (o : Object) (name : String) (v : Value) : Object :=
  if signature.names.contains name then { o with fields := o.fields.assign name v }
  else { o with others := (name, v) :: o.others.filter (·.1 != name) }

/-- An object with a value under a name. -/
def assign (o : Object) (name : String) (v : Value) : Except Fault Object :=
  if name = kindAttribute then .error (.notAKind v.kind)
  else if name = watchAttribute then .error (.readOnly name)
  else if name = allAttribute then
    match v with
    | .dictionary entries => .ok (entries.foldl (fun o e => o.put e.1 e.2) {})
    | v => .error (.noAttributes v.kind)
  else .ok (o.put name v)

/-- The fields by name, as the object's list of fields tells them. -/
def listing (o : Object) : Except Value.Fault Fields :=
  match o.others.lookup listAttribute with
  | none => .ok o.fields.fields
  | some (.dictionary []) => .ok []
  | some (.dictionary ((_, v) :: _)) => .error (.noAttribute v.kind "_field_type")
  | some v => .error (.noAttribute v.kind "values")

/-- Checks the fields as `Configuration.validate` does, unless a value has taken the place of the check. -/
def validate (o : Object) : Object × Option Fault :=
  match o.others.lookup checkAttribute with
  | some v => (o, some (.notCallable v.kind))
  | none =>
    let (c, fault?) := o.fields.validate
    ({ o with fields := c }, fault?.map .field)

end Configuration.Object

end AccelProbe
