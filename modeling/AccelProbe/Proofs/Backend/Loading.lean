import AccelProbe.Backend.Loading
import AccelProbe.Proofs.Backend.TensorFlow
import AccelProbe.Proofs.Backend.Torch

/-!
# The backends that are loaded

A library is loaded by one call. What comes of it is a backend that is `Plain`: it answers each question by calls alone, and every
tensor prints as something.
-/

namespace AccelProbe

namespace Backend

open Program

/-- Whether a backend answers questions by calls alone, and the one for what a tensor prints as with something. -/
structure Plain {Call : Type} (b : Backend Call) : Prop where
  /-- A question leaves neither lines nor records. -/
  quiet : ∀ q, (b.perform q).Quiet
  /-- A tensor prints as something. -/
  prints : ∀ tensor h text, (b.perform (.formatTensor tensor)).Trace h (.ok text) → text.isNull = false

/-- What a tensor prints as, where the library has nothing of its own to say, is a text. -/
theorem isNull_of_printed {Call : Type} {tensor text : Value} {h : History Call}
    (ht : (ofValue (printed tensor)).Trace h (.ok text)) : text.isNull = false := by
  obtain ⟨-, hx⟩ := trace_ofValue_iff.mp ht
  unfold printed at hx
  cases hs : tensor.toText with
  | ok s =>
    rw [hs] at hx
    cases hx
    rfl
  | error fault =>
    rw [hs] at hx
    cases hx

theorem plain_torch (version : Value) : (Torch.backend version).Plain where
  quiet := Torch.quiet_perform version
  prints := fun _ _ _ => isNull_of_printed

theorem plain_tensorflow (version : Value) : (TensorFlow.backend version).Plain where
  quiet := TensorFlow.quiet_perform version
  prints := fun _ _ _ => isNull_of_printed

/-- A plain backend is plain under other names of its calls. -/
theorem Plain.rename {Call Call' : Type} {b : Backend Call} (hb : b.Plain) (f : Call → Call') : (b.rename f).Plain where
  quiet := fun q => (hb.quiet q).rename f
  prints := fun tensor h text ht => by
    obtain ⟨h, ht, -⟩ := trace_rename ht
    exact hb.prints tensor h text ht

/-- The call that loads a library on a host. -/
def loadCall (h : Host) : Library → LibraryCall
  | .torch => .torch (.load (h.environment.value? Environment.minLogLevel))
  | .tensorflow => .tensorflow (.load (h.environment.value? Environment.minLogLevel))

/-- The backend of a library that gave this version when it was loaded. -/
def loaded (version : Value) : Library → Backend LibraryCall
  | .torch => (Torch.backend version).rename .torch
  | .tensorflow => (TensorFlow.backend version).rename .tensorflow

/-- A library is loaded by one call, after a record. -/
theorem load_eq (h : Host) (l : Library) :
    load h l = (note (loadingRecord l)).bind fun _ => (ask (loadCall h l)).bind fun version => done (loaded version l) := by
  cases l with
  | torch => rfl
  | tensorflow => rfl

/-- The loading of a library is a record and one call, and what comes of the call is what comes of the loading. -/
theorem trace_load {h : Host} {l : Library} {events : History LibraryCall} {r : Except Failure (Backend LibraryCall)}
    (ht : (load h l).Trace events r) :
    ∃ reply, events = [.logged (loadingRecord l), .called (loadCall h l) reply] ∧ r = reply.map fun version => loaded version l := by
  rw [load_eq] at ht
  obtain ⟨_, rfl, hrest⟩ := trace_note_bind ht
  rcases trace_ask_bind hrest with ⟨version, _, rfl, hend⟩ | ⟨e, rfl, rfl⟩
  · obtain ⟨rfl, rfl⟩ := trace_done_iff.mp hend
    exact ⟨.ok version, rfl, rfl⟩
  · exact ⟨.error e, rfl, rfl⟩

/-- A loaded backend is plain. -/
theorem plain_loaded (version : Value) (l : Library) : (loaded version l).Plain := by
  cases l with
  | torch => exact (plain_torch version).rename _
  | tensorflow => exact (plain_tensorflow version).rename _

end Backend

end AccelProbe
