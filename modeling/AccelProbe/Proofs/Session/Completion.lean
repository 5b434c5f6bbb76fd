import AccelProbe.Proofs.Basic
import AccelProbe.Proofs.Section.Records
import AccelProbe.Proofs.Session.Stages

/-!
# The records of a session

`Stage.Logs` lists the records that the stages of a session log, so what holds of the questions, of every line and of these records
holds of every event of a stage. A session says that it is done in a record of its own. No stage logs a record with the same message,
whatever the library, the accelerator and the failures are called, so that the record tells of the session and of nothing else.
-/

namespace AccelProbe

/-- Whether an event is anything but a record that says that a session is done. -/
def Event.Unfinished {Call : Type} : Event Call → Prop
  | .logged record => record.message ≠ "Diagnostic completed."
  | _ => True

namespace Session

open Program

section

variable {accelerator : String} {record : LogRecord}

theorem unfinished_allocationRecord {sizes : List Value} {index : Value}
    (h : Section.Diagnostic.allocationRecord accelerator sizes index = .ok record) : record.message ≠ "Diagnostic completed." := by
  obtain ⟨shape, -, h⟩ := exists_of_bind_eq_ok h
  obtain ⟨text, -, h⟩ := exists_of_bind_eq_ok h
  cases h
  simp only [String.append_assoc]
  exact append_ne (by decide)

theorem unfinished_multiplicationRecord {size : Value}
    (h : Section.Compute.multiplicationRecord accelerator size = .ok record) : record.message ≠ "Diagnostic completed." := by
  obtain ⟨text, -, rfl⟩ := exists_of_map_eq_ok h
  simp only [String.append_assoc]
  exact append_ne (by decide)

theorem unfinished_allocation_failureRecord {e : Failure} (h : Section.Diagnostic.failureRecord accelerator e = .ok record) :
    record.message ≠ "Diagnostic completed." := by
  obtain ⟨text, -, rfl⟩ := exists_of_map_eq_ok h
  exact append_append_ne (by decide)

theorem unfinished_compute_failureRecord {e : Failure} (h : Section.Compute.failureRecord accelerator e = .ok record) :
    record.message ≠ "Diagnostic completed." := by
  obtain ⟨text, -, rfl⟩ := exists_of_map_eq_ok h
  exact append_append_ne (by decide)

end

section

variable {Call : Type} {c : Configuration} {env : Environment} {b : Backend Call}

/-- The records that the stages of a session log. -/
inductive Stage.Logs (c : Configuration) (b : Backend Call) : LogRecord → Prop where
  /-- The diagnostic begins. -/
  | start : Logs c b (Section.Diagnostic.startRecord b.name)
  /-- The diagnostic allocates nothing, because no device is there. -/
  | skipped : Logs c b (Section.Diagnostic.skippedRecord b.accelerator)
  /-- The diagnostic allocates a tensor. -/
  | allocation {sizes : List Value} {record : LogRecord}
      (hr : Section.Diagnostic.allocationRecord b.accelerator sizes c.deviceIndex = .ok record) : Logs c b record
  /-- No tensor was allocated. -/
  | unallocated {e : Failure} {record : LogRecord} (hr : Section.Diagnostic.failureRecord b.accelerator e = .ok record) :
      Logs c b record
  /-- Devices were counted. -/
  | count (n : Nat) : Logs c b (Section.Environment.countRecord b.accelerator n)
  /-- A matrix is multiplied. -/
  | multiplication {record : LogRecord} (hr : Section.Compute.multiplicationRecord b.accelerator c.computeSize = .ok record) :
      Logs c b record
  /-- No matrix was multiplied. -/
  | unmultiplied {e : Failure} {record : LogRecord} (hr : Section.Compute.failureRecord b.accelerator e = .ok record) :
      Logs c b record

/-- What holds of every event of a backend, of every line and of the records of the stages holds of every event of a stage. -/
theorem Stage.every_program {P : Event Call → Prop} (hb : ∀ q, (b.perform q).Every P) (hl : ∀ line taken, P (.wrote line taken))
    (hr : ∀ record, Stage.Logs c b record → P (.logged record)) (stage : Stage) : (stage.program c env b).Every P := by
  cases stage with
  | diagnostic =>
    refine Every.bind (Section.Diagnostic.every_run hb hl (hr _ .start) (hr _ .skipped) ?_ ?_) fun _ => trivial
    · exact fun _ record hrecord => hr record (.allocation hrecord)
    · exact fun _ record hrecord => hr record (.unallocated hrecord)
  | environment => exact Every.bind (Section.Environment.every_run hb hl fun n => hr _ (.count n)) fun _ => trivial
  | compute =>
    refine Every.bind (Section.Compute.every_run hb hl ?_ ?_) fun _ => trivial
    · exact fun record hrecord => hr record (.multiplication hrecord)
    · exact fun _ record hrecord => hr record (.unmultiplied hrecord)

/-- What holds of every event of the stages holds of every event of several of them. -/
theorem every_inOrder {P : Event Call → Prop} {program : Stage → Program Call Report} (hp : ∀ stage, (program stage).Every P)
    (stages : List Stage) : (inOrder program stages).Every P := by
  induction stages with
  | nil => exact trivial
  | cons stage stages ih => exact (hp stage).bind fun _ => ih

/-- No stage logs that the session is done. -/
theorem unfinished_of_logs {record : LogRecord} (hr : Stage.Logs c b record) : record.message ≠ "Diagnostic completed." := by
  cases hr with
  | start =>
    change _ ++ _ ++ _ ≠ _
    rw [String.append_assoc]
    exact append_ne (by decide)
  | skipped =>
    change _ ++ _ ++ _ ≠ _
    rw [String.append_assoc]
    exact append_ne (by decide)
  | allocation hr => exact unfinished_allocationRecord hr
  | unallocated hr => exact unfinished_allocation_failureRecord hr
  | count n =>
    change _ ++ _ ++ _ ++ _ ++ _ ≠ _
    simp only [String.append_assoc]
    exact append_ne (by decide)
  | multiplication hr => exact unfinished_multiplicationRecord hr
  | unmultiplied hr => exact unfinished_compute_failureRecord hr

/-- No event of a stage over a plain backend says that the session is done. -/
theorem unfinished_program (hb : b.Plain) (stage : Stage) : (stage.program c env b).Every Event.Unfinished :=
  stage.every_program (fun q => (hb.quiet q).every fun _ _ => trivial) (fun _ _ => trivial) fun _ => unfinished_of_logs

end

end Session

end AccelProbe
