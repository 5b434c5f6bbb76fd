import AccelProbe.Proofs.Program.Every
import AccelProbe.Section.Compute
import AccelProbe.Section.Diagnostic
import AccelProbe.Section.Environment

/-!
# The records of the sections

What holds of every event of a backend, of every line, and of the few records that a section logs, holds of every event of the
section.
-/

namespace AccelProbe

namespace Section

open Program

variable {Call : Type} {b : Backend Call} {P : Event Call → Prop}

theorem Diagnostic.every_run {shape index : Value} (hb : ∀ q, (b.perform q).Every P) (hl : ∀ line taken, P (.wrote line taken))
    (hstart : P (.logged (startRecord b.name))) (hskip : P (.logged (skippedRecord b.accelerator)))
    (hallocate : ∀ sizes record, allocationRecord b.accelerator sizes index = .ok record → P (.logged record))
    (hfail : ∀ e record, failureRecord b.accelerator e = .ok record → P (.logged record)) : (run b shape index).Every P := by
  refine (every_ofValue _).bind fun sizes => (every_note hstart).bind fun _ => ?_
  refine (hb _).bind fun version => (every_ofValue _).bind fun _ => (every_print (hl _)).bind fun _ => ?_
  refine (hb _).bind fun available => (every_ofValue _).bind fun _ => (every_print (hl _)).bind fun _ => ?_
  refine (hb _).bind fun count => (every_ofValue _).bind fun _ => (every_print (hl _)).bind fun _ => ?_
  split
  · refine every_ofValue_bind fun record hr => (every_note (hallocate sizes record hr)).bind fun _ => ?_
    have hmake : (allocate b sizes index).Every P :=
      (hb _).bind fun _ => (hb _).bind fun _ => (hb _).bind fun _ => trivial
    refine (hmake.reporting hfail).bind fun _ => (every_ofValue _).bind fun _ => ?_
    exact (every_print (hl _)).bind fun _ => (every_print (hl _)).bind fun _ => trivial
  · exact (every_note hskip).bind fun _ => trivial

theorem Environment.every_run {env : AccelProbe.Environment} (hb : ∀ q, (b.perform q).Every P)
    (hl : ∀ line taken, P (.wrote line taken)) (hcount : ∀ count, P (.logged (countRecord b.accelerator count))) :
    (run b env).Every P := by
  have hnames : (deviceNames b).Every P := by
    refine (hb _).bind fun available => ?_
    split
    · exact hb _
    · exact trivial
  refine (hb _).bind fun _ => hnames.bind fun _ => (every_ofValue _).bind fun count => ?_
  exact (every_note (hcount count)).bind fun _ => (every_ofValue _).bind fun _ => (every_printAll hl).bind fun _ => trivial

theorem Compute.every_run {size index : Value} (hb : ∀ q, (b.perform q).Every P) (hl : ∀ line taken, P (.wrote line taken))
    (hmultiply : ∀ record, multiplicationRecord b.accelerator size = .ok record → P (.logged record))
    (hfail : ∀ e record, failureRecord b.accelerator e = .ok record → P (.logged record)) : (run b size index).Every P := by
  refine (hb _).bind fun available => ?_
  dsimp only
  split
  · refine every_ofValue_bind fun record hr => (every_note (hmultiply record hr)).bind fun _ => ?_
    have hmake : (multiply b (.tuple [size, size]) index).Every P :=
      (hb _).bind fun _ => (hb _).bind fun _ => (hb _).bind fun _ => (hb _).bind fun _ => (hb _).bind fun _ => trivial
    refine (hmake.reporting hfail).bind fun _ => (every_ofValue _).bind fun _ => (every_ofValue _).bind fun _ => ?_
    exact (every_printAll hl).bind fun _ => trivial
  · exact (every_print (hl _)).bind fun _ => trivial

end Section

end AccelProbe
