import AccelProbe.Proofs.Program.Course
import AccelProbe.Section.Environment

/-!
# The ways through the environment section

The section asks what the library was built with, whether there is an accelerator, and for the names of the devices if there is;
then it puts its report together and writes it. `Way` names everything that can come of it when a library answers the questions
itself, and `trace_run` says that nothing else can.
-/

namespace AccelProbe

namespace Section.Environment

open Program

/-- The course of the questions with these answers. -/
def inventory (buildInfo available names : Value) : History Query :=
  [.called .buildInfo (.ok buildInfo), .called .isAvailable (.ok available)] ++
    if available.isTruthy then [.called .deviceNames (.ok names)] else []

/-- The report of these answers. -/
def reportOn (env : AccelProbe.Environment) (buildInfo names : Value) : EnvironmentReport :=
  { settings := settings env, buildInfo, deviceNames := names }

/-- What can come of the section. Without an accelerator there are no names, and no question for them. -/
inductive Way (accelerator : String) (env : AccelProbe.Environment) :
    History Query → Except Failure EnvironmentReport → Prop where
  /-- A question fails. -/
  | unasked (buildInfo available names : Value) {h : History Query} {e : Failure}
      (hc : Cut (inventory buildInfo available names) h e) : Way accelerator env h (.error e)
  /-- The names cannot be counted. -/
  | uncounted (buildInfo available names : Value) {fault : Value.Fault}
      (hn : available.isTruthy = false → names = .list []) (hl : names.length = .error fault) :
      Way accelerator env (inventory buildInfo available names) (.error (.value fault))
  /-- The report cannot be written. -/
  | unwritable (buildInfo available names : Value) {count : Nat} {fault : Value.Fault}
      (hn : available.isTruthy = false → names = .list []) (hl : names.length = .ok count)
      (hr : (reportOn env buildInfo names).lines = .error fault) :
      Way accelerator env (inventory buildInfo available names ++ [.logged (countRecord accelerator count)])
        (.error (.value fault))
  /-- A line of the report is refused. -/
  | unreported (buildInfo available names : Value) {count : Nat} {lines : List String} {h : History Query} {e : Failure}
      (hn : available.isTruthy = false → names = .list []) (hl : names.length = .ok count)
      (hr : (reportOn env buildInfo names).lines = .ok lines) (hc : Cut (.ofLines (lines.map .str)) h e) :
      Way accelerator env (inventory buildInfo available names ++ .logged (countRecord accelerator count) :: h) (.error e)
  /-- The report is written. -/
  | reported (buildInfo available names : Value) {count : Nat} {lines : List String}
      (hn : available.isTruthy = false → names = .list []) (hl : names.length = .ok count)
      (hr : (reportOn env buildInfo names).lines = .ok lines) :
      Way accelerator env
        (inventory buildInfo available names ++
          .logged (countRecord accelerator count) :: History.ofLines (lines.map .str))
        (.ok (reportOn env buildInfo names))

variable {library accelerator : String} {env : AccelProbe.Environment} {h : History Query}

/-- A trace of the questions for the devices, after the one for the capabilities: their course, or that course cut at a question
that failed. -/
theorem trace_deviceNames {r : Except Failure Value} (buildInfo : Value)
    (ht : (deviceNames (.direct library accelerator)).Trace h r) :
    ∃ available names,
      (inventory buildInfo available names = .called .buildInfo (.ok buildInfo) :: h ∧ r = .ok names ∧
          (available.isTruthy = false → names = .list [])) ∨
        ∃ e, Cut (inventory buildInfo available names) (.called .buildInfo (.ok buildInfo) :: h) e ∧ r = .error e := by
  simp only [deviceNames, bind_eq, pure_eq, Backend.direct] at ht
  rcases trace_ask_bind ht with ⟨available, _, rfl, hrest⟩ | ⟨e, rfl, rfl⟩
  case inr => exact ⟨.null, .null, Or.inr ⟨e, (Cut.call ..).next _, rfl⟩⟩
  split at hrest
  · next ha =>
    obtain rfl := trace_ask_iff.mp hrest
    cases r with
    | ok names => exact ⟨available, names, Or.inl ⟨by simp [inventory, ha], rfl, fun hn => absurd (ha.symm.trans hn) nofun⟩⟩
    | error e =>
      refine ⟨available, .null, Or.inr ⟨e, ?_, rfl⟩⟩
      rw [inventory, if_pos ha]
      exact (Cut.call ..).append_left [_, _]
  · next ha =>
    obtain ⟨rfl, rfl⟩ := trace_done_iff.mp hrest
    exact ⟨available, .list [], Or.inl ⟨by simp [inventory, ha], rfl, fun _ => rfl⟩⟩

/-- Nothing but the ways of the section can come of it. -/
theorem trace_run {r : Except Failure EnvironmentReport}
    (ht : (run (.direct library accelerator) env).Trace h r) : Way accelerator env h r := by
  simp only [run, bind_eq, pure_eq] at ht
  rcases trace_ask_bind ht with ⟨buildInfo, _, rfl, hnames⟩ | ⟨e, rfl, rfl⟩
  case inr => exact .unasked .null .null .null (Cut.call ..)
  rcases trace_bind hnames with ⟨names, first, rest, rfl, hfirst, hcount⟩ | ⟨e, he, rfl⟩
  case inr =>
    obtain ⟨available, names, ⟨_, hx, _⟩ | ⟨_, hc, hx⟩⟩ := trace_deviceNames buildInfo he
    · cases hx
    · cases hx
      exact .unasked buildInfo available names hc
  obtain ⟨available, _, ⟨hi, hx, hn⟩ | ⟨_, _, hx⟩⟩ := trace_deviceNames buildInfo hfirst
  case inr => cases hx
  cases hx
  rw [← List.cons_append, ← hi]
  rcases trace_ofValue_bind hcount with ⟨count, hl, hnote⟩ | ⟨fault, hf, rfl, rfl⟩
  case inr =>
    rw [List.append_nil]
    exact .uncounted buildInfo available names hn hf
  obtain ⟨_, rfl, hlines⟩ := trace_note_bind hnote
  rcases trace_ofValue_bind hlines with ⟨lines, hr, hprint⟩ | ⟨fault, hf, rfl, rfl⟩
  case inr => exact .unwritable buildInfo available names hn hl hf
  rcases trace_printAll_bind hprint with ⟨_, rfl, hend⟩ | ⟨e, hc, rfl⟩
  · obtain ⟨rfl, rfl⟩ := trace_done_iff.mp hend
    rw [List.append_nil]
    exact .reported buildInfo available names hn hl hr
  · exact .unreported buildInfo available names hn hl hr hc

/-- The questions of the section leave no line. -/
theorem lines_inventory (buildInfo available names : Value) : History.lines (inventory buildInfo available names) = [] := by
  unfold inventory
  split <;> rfl

/-- The lines of the section are those of its report. -/
theorem Way.report_lines {report : EnvironmentReport} (hway : Way accelerator env h (.ok report)) :
    report.lines.map (·.map .str) = .ok h.lines := by
  cases hway with
  | reported buildInfo available names hn hl hr =>
    rw [hr, History.lines_append, lines_inventory]
    change _ = Except.ok (History.lines (History.ofLines _))
    rw [History.lines_ofLines]
    rfl

/-- A section that fails leaves no line, as long as the sink takes every line. -/
theorem Way.no_lines {e : Failure} (hway : Way accelerator env h (.error e)) (hp : h.Printed) : h.lines = [] := by
  cases hway with
  | unasked buildInfo available names hc =>
    have hlines := hc.lines_prefix
    rw [lines_inventory] at hlines
    exact List.prefix_nil.mp hlines
  | uncounted buildInfo available names hn hl => exact lines_inventory ..
  | unwritable buildInfo available names hn hl hr =>
    rw [History.lines_append, lines_inventory]
    rfl
  | unreported buildInfo available names hn hl hr hc =>
    exact absurd (fun line taken hm => hp line taken (by simp [hm])) hc.not_printed

end Section.Environment

end AccelProbe
