import AccelProbe.Backend.Basic
import AccelProbe.Rehearsal.Script

/-!
# A rehearsed backend

A backend of which the script answers the questions themselves. Usually it has no accelerator; a tensor that is moved to one all
the same lies on a device of its own kind. A script that only names the question of how a tensor prints has an empty text for it.
-/

namespace AccelProbe

namespace Rehearsal.Backend

/-- The usual answer to a question. -/
def usual (_ : History Query) : Query → Reply
  | .version => .ok (.str "0.1.0")
  | .isAvailable => .ok (.bool false)
  | .deviceCount => .ok (.int 0)
  | .randomTensor shape => do
    let sizes ← ofValue shape.items
    tensor sizes (.str "cpu")
  | .toAccelerator t index => do
    let index ← ofValue index.toText
    moved t (.str ("fgpu:" ++ index))
  | .matmulTransposed t => do
    let sizes ← ofValue t.shape
    let n ← first sizes
    let place ← ofValue t.heldBy
    tensor [n, n] place
  | .toHost t => moved t (.str "cpu")
  | .statistics _ => .ok (.dictionary [("Mean", mean), ("Max", greatest), ("Min", least)])
  | .formatTensor _ => .ok (.str "")
  | .buildInfo => .ok (.dictionary [])
  | .deviceNames => .ok (.list [])

/-- The answer to a question by a script. -/
def answer (s : Script) : History Query → Query → Reply := Rehearsal.answer s Query.name usual

/-- How the backend is asked. It is asked how a tensor prints only where the script has an answer to that. -/
def perform (s : Script) : Query → Program Query Value
  | .formatTensor t =>
    match s.lookup Query.optional with
    | some _ => Program.ask (.formatTensor t)
    | none => Program.ofValue (Backend.printed t)
  | q => Program.ask q

end Rehearsal.Backend

end AccelProbe
