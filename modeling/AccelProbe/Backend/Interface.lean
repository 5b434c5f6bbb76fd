import AccelProbe.Backend.Basic
import AccelProbe.Signature

/-!
# What makes a backend and a tensor

A kind of backend is complete when it answers every required question for itself; only then can there be a backend of that kind.
An object is a tensor when it has a shape and a device, whatever they are, or when its kind is declared to be one of tensors.
-/

namespace AccelProbe

namespace Query

/-- The required questions that are not among the answered ones. -/
def unanswered (answered : List String) : List String := required.filter (!answered.contains ·)

/-- The wording of the refusal to make a backend of an incomplete kind. -/
def incompleteMessage (kind : String) (missing : List String) : String :=
  "Can't instantiate abstract class " ++ kind ++ " with abstract method" ++ (if missing.length = 1 then " " else "s ") ++
    String.intercalate ", " missing

/-- The answer that serves as the start of every kind of backend: none to a required question, and the printed tensor. -/
def plainAnswer : Query → Except Value.Fault Value
  | formatTensor tensor => Backend.printed tensor
  | _ => .ok .null

end Query

/-- An object of any kind, by its attributes. -/
structure Instance where
  /-- The attributes with their values. -/
  attributes : Fields
  /-- Whether its kind is declared to be one of tensors. -/
  declaredTensor : Bool

namespace Instance

/-- The attributes that make an object a tensor. -/
def tensorAttributes : List String := ["shape", "device"]

/-- The value of an attribute. An object declared to be a tensor has its two attributes, without a value where it gives none. -/
def attribute? (x : Instance) (name : String) : Option Value :=
  match x.attributes.lookup name with
  | some v => some v
  | none => if x.declaredTensor && tensorAttributes.contains name then some .null else none

/-- Whether an object is a tensor. -/
def isTensor (x : Instance) : Bool := tensorAttributes.all fun name => (x.attribute? name).isSome

end Instance

end AccelProbe
