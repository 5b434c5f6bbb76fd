import AccelProbe.Proofs.Backend.Loading
import AccelProbe.Proofs.Section.Compute
import AccelProbe.Proofs.Section.Diagnostic
import AccelProbe.Proofs.Section.Environment

/-!
# The sections over any backend

A section does not look at how a backend answers. Over any backend it is the section over a library that answers the questions
itself, with every question worked out; so each of its traces works out one of the ways of the section. Over a plain backend it then
has the lines and the records of that way.
-/

namespace AccelProbe

namespace Program

variable {Call Call' : Type}

/-- The sink took every line of a history when it took every line of the history with its calls worked out. -/
theorem Expands.printed {f : Call → Program Call' Value} {h : History Call} {h' : History Call'} (he : Expands f h h')
    (hp : h'.Printed) : h.Printed :=
  fun line taken hm => hp line taken (he.wrote_mem hm)

end Program

namespace Section

open Program

variable {Call : Type} {b : Backend Call} {h' : History Call}

namespace Diagnostic

variable {sizes : List Value} {index : Value}

theorem runWith_eq_expand (b : Backend Call) (sizes : List Value) (index : Value) :
    runWith b sizes index = (runWith (.direct b.name b.accelerator) sizes index).expand b.perform := by
  simp only [runWith, allocate, Backend.direct, bind_eq, pure_eq, expand_bind, expand_done, expand_note, expand_ask, expand_ofValue,
    expand_print, expand_reporting, expand_ite]

theorem run_eq_expand (b : Backend Call) (shape index : Value) :
    run b shape index = (run (.direct b.name b.accelerator) shape index).expand b.perform := by
  have hwith : runWith b = fun sizes index => (runWith (.direct b.name b.accelerator) sizes index).expand b.perform := by
    funext sizes index
    exact runWith_eq_expand b sizes index
  simp only [run, bind_eq, expand_bind, expand_ofValue, hwith]

/-- The section over a backend under other names of its calls is the section, under those names. -/
theorem run_rename {Call' : Type} (f : Call → Call') (b : Backend Call) (shape index : Value) :
    run (b.rename f) shape index = (run b shape index).rename f := by
  rw [run_eq_expand, run_eq_expand b]
  exact expand_rename f b.perform _

/-- A trace of the section over any backend works out one of its ways. -/
theorem exists_way {r : Except Failure DiagnosticReport} (ht : (runWith b sizes index).Trace h' r) :
    ∃ h, Way b.name b.accelerator sizes index h r ∧ Expands b.perform h h' := by
  rw [runWith_eq_expand] at ht
  obtain ⟨h, ht, he⟩ := trace_expand ht
  exact ⟨h, trace_runWith ht, he⟩

/-- Over a plain backend, the lines of the report are those that the section wrote. -/
theorem lines_of_trace (hb : b.Plain) {report : DiagnosticReport} (ht : (runWith b sizes index).Trace h' (.ok report)) :
    report.lines = .ok h'.lines := by
  obtain ⟨h, hway, he⟩ := exists_way ht
  rw [he.lines hb.quiet]
  refine hway.report_lines ?_
  intro tensor text hm
  obtain ⟨_, part, _, -, hpart⟩ := he.exists_part hm
  exact hb.prints tensor part text hpart

end Diagnostic

namespace Environment

variable {env : AccelProbe.Environment}

theorem run_eq_expand (b : Backend Call) (env : AccelProbe.Environment) :
    run b env = (run (.direct b.name b.accelerator) env).expand b.perform := by
  simp only [run, deviceNames, Backend.direct, bind_eq, pure_eq, expand_bind, expand_done, expand_note, expand_ask, expand_ofValue,
    expand_printAll, expand_ite]

/-- The section over a backend under other names of its calls is the section, under those names. -/
theorem run_rename {Call' : Type} (f : Call → Call') (b : Backend Call) (env : AccelProbe.Environment) :
    run (b.rename f) env = (run b env).rename f := by
  rw [run_eq_expand, run_eq_expand b]
  exact expand_rename f b.perform _

/-- A trace of the section over any backend works out one of its ways. -/
theorem exists_way {r : Except Failure EnvironmentReport} (ht : (run b env).Trace h' r) :
    ∃ h, Way b.accelerator env h r ∧ Expands b.perform h h' := by
  rw [run_eq_expand] at ht
  obtain ⟨h, ht, he⟩ := trace_expand ht
  exact ⟨h, trace_run ht, he⟩

/-- Over a plain backend, the lines of the section are those of its report. -/
theorem lines_of_trace (hb : b.Plain) {report : EnvironmentReport} (ht : (run b env).Trace h' (.ok report)) :
    report.lines.map (·.map .str) = .ok h'.lines := by
  obtain ⟨h, hway, he⟩ := exists_way ht
  rw [he.lines hb.quiet]
  exact hway.report_lines

/-- Over a plain backend, a section that fails leaves no line, as long as the sink takes every line. -/
theorem no_lines_of_trace (hb : b.Plain) {e : Failure} (ht : (run b env).Trace h' (.error e)) (hp : h'.Printed) :
    h'.lines = [] := by
  obtain ⟨h, hway, he⟩ := exists_way ht
  rw [he.lines hb.quiet]
  exact hway.no_lines (he.printed hp)

end Environment

namespace Compute

variable {size index : Value}

theorem run_eq_expand (b : Backend Call) (size index : Value) :
    run b size index = (run (.direct b.name b.accelerator) size index).expand b.perform := by
  simp only [run, multiply, Backend.direct, bind_eq, pure_eq, expand_bind, expand_done, expand_note, expand_ask, expand_ofValue,
    expand_print, expand_printAll, expand_reporting, expand_ite]

/-- The section over a backend under other names of its calls is the section, under those names. -/
theorem run_rename {Call' : Type} (f : Call → Call') (b : Backend Call) (size index : Value) :
    run (b.rename f) size index = (run b size index).rename f := by
  rw [run_eq_expand, run_eq_expand b]
  exact expand_rename f b.perform _

/-- A trace of the section over any backend works out one of its ways. -/
theorem exists_way {r : Except Failure (Option ComputeReport)} (ht : (run b size index).Trace h' r) :
    ∃ h, Way b.accelerator size index h r ∧ Expands b.perform h h' := by
  rw [run_eq_expand] at ht
  obtain ⟨h, ht, he⟩ := trace_expand ht
  exact ⟨h, trace_run ht, he⟩

/-- Over a plain backend, the lines of the section are those of its report. -/
theorem lines_of_trace (hb : b.Plain) {report : Option ComputeReport} (ht : (run b size index).Trace h' (.ok report)) :
    reportLines b.accelerator report = .ok h'.lines := by
  obtain ⟨h, hway, he⟩ := exists_way ht
  rw [he.lines hb.quiet]
  exact hway.report_lines

/-- Over a plain backend, a section that fails leaves no line, as long as the sink takes every line. -/
theorem no_lines_of_trace (hb : b.Plain) {e : Failure} (ht : (run b size index).Trace h' (.error e)) (hp : h'.Printed) :
    h'.lines = [] := by
  obtain ⟨h, hway, he⟩ := exists_way ht
  rw [he.lines hb.quiet]
  exact hway.no_lines (he.printed hp)

end Compute

end Section

end AccelProbe
