import AccelProbe.Text.LetterCase

/-!
# The tensor libraries

The libraries whose accelerators can be probed, and the names under which they are chosen. Letter case does not matter in such a
name.
-/

namespace AccelProbe

/-- A tensor library. -/
inductive Library where
  /-- Torch, with its CUDA runtime. -/
  | torch
  /-- TensorFlow, with its GPU devices. -/
  | tensorflow
deriving DecidableEq, Repr, Inhabited

namespace Library

/-- All libraries, in the order in which messages list them. -/
def all : List Library := [.torch, .tensorflow]

/-- The name under which a library is chosen. -/
def key : Library → String
  | torch => "torch"
  | tensorflow => "tensorflow"

/-- The names under which libraries are chosen. -/
def keys : List String := all.map key

/-- The library of an exact name. -/
def ofKey? (s : String) : Option Library := all.find? (·.key == s)

/-- The library of a name in any letter case. -/
def named? (s : String) : Option Library := ofKey? (Text.lower s)

/-- The library found under an exact name has that name. -/
theorem ofKey?_eq_some_iff {s : String} {l : Library} : ofKey? s = some l ↔ s = l.key := by
  constructor
  · intro h
    have := List.find?_some h
    simpa using (beq_iff_eq.mp this).symm
  · rintro rfl
    cases l <;> rfl

end Library

end AccelProbe
