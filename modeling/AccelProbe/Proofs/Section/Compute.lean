import AccelProbe.Proofs.Program.Course
import AccelProbe.Section.Compute

/-!
# The ways through the compute section

The section asks whether there is an accelerator. If there is, it multiplies a matrix in five steps, whose failure is reported, and
only then puts its report together and writes it; if there is not, it writes that it was skipped. `Way` names everything that can
come of it when a library answers the questions itself, and `trace_run` says that nothing else can.
-/

namespace AccelProbe

namespace Section.Compute

open Program

/-- The course of the multiplication with these answers. -/
def multiplication (size index fresh matrix product copy statistics : Value) : History Query :=
  [.called (.randomTensor (.tuple [size, size])) (.ok fresh), .called (.toAccelerator fresh index) (.ok matrix),
    .called (.matmulTransposed matrix) (.ok product), .called (.toHost product) (.ok copy),
    .called (.statistics copy) (.ok statistics)]

/-- The report of a product with these sizes and statistics. -/
def reportOn (accelerator : String) (size index : Value) (sizes : List Value) (statistics : Value) : ComputeReport :=
  { accelerator := .str accelerator, deviceIndex := index, inputShape := .tuple [size, size], resultShape := .tuple sizes,
    statistics }

/-- What can come of the section. -/
inductive Way (accelerator : String) (size index : Value) : History Query → Except Failure (Option ComputeReport) → Prop where
  /-- The question for an accelerator fails. -/
  | unasked (e : Failure) : Way accelerator size index [.called .isAvailable (.error e)] (.error e)
  /-- There is no accelerator, and the line that says so is refused. -/
  | unskipped (available : Value) (e : Failure) (ha : available.isTruthy = false) :
      Way accelerator size index
        [.called .isAvailable (.ok available), .wrote (.str (skippedLine accelerator)) (.error e)] (.error e)
  /-- There is no accelerator. -/
  | skipped (available : Value) (ha : available.isTruthy = false) :
      Way accelerator size index
        [.called .isAvailable (.ok available), .wrote (.str (skippedLine accelerator)) (.ok ())] (.ok none)
  /-- The record of the multiplication cannot be written. -/
  | unrecorded (available : Value) {fault : Value.Fault} (ha : available.isTruthy = true)
      (hr : multiplicationRecord accelerator size = .error fault) :
      Way accelerator size index [.called .isAvailable (.ok available)] (.error (.value fault))
  /-- A step of the multiplication fails. -/
  | unmultiplied (available fresh matrix product copy statistics : Value) {record : LogRecord} {h : History Query}
      {e : Failure} (ha : available.isTruthy = true) (hr : multiplicationRecord accelerator size = .ok record)
      (hc : Cut (multiplication size index fresh matrix product copy statistics) h e) :
      Way accelerator size index
        (.called .isAvailable (.ok available) :: .logged record ::
          (h ++ (reportOf (failureRecord accelerator) e).map .logged))
        (.error (afterReport (failureRecord accelerator) e))
  /-- The product has no shape. -/
  | shapeless (available fresh matrix product copy statistics : Value) {record : LogRecord} {fault : Value.Fault}
      (ha : available.isTruthy = true) (hr : multiplicationRecord accelerator size = .ok record)
      (hs : copy.shape = .error fault) :
      Way accelerator size index
        (.called .isAvailable (.ok available) :: .logged record ::
          multiplication size index fresh matrix product copy statistics)
        (.error (.value fault))
  /-- The report cannot be written. -/
  | unwritable (available fresh matrix product copy statistics : Value) {record : LogRecord} {sizes : List Value}
      {fault : Value.Fault} (ha : available.isTruthy = true) (hr : multiplicationRecord accelerator size = .ok record)
      (hs : copy.shape = .ok sizes) (hl : (reportOn accelerator size index sizes statistics).lines = .error fault) :
      Way accelerator size index
        (.called .isAvailable (.ok available) :: .logged record ::
          multiplication size index fresh matrix product copy statistics)
        (.error (.value fault))
  /-- A line of the report is refused. -/
  | unreported (available fresh matrix product copy statistics : Value) {record : LogRecord} {sizes : List Value}
      {lines : List String} {h : History Query} {e : Failure} (ha : available.isTruthy = true)
      (hr : multiplicationRecord accelerator size = .ok record) (hs : copy.shape = .ok sizes)
      (hl : (reportOn accelerator size index sizes statistics).lines = .ok lines)
      (hc : Cut (.ofLines (lines.map .str)) h e) :
      Way accelerator size index
        (.called .isAvailable (.ok available) :: .logged record ::
          (multiplication size index fresh matrix product copy statistics ++ h))
        (.error e)
  /-- The check passed. -/
  | passed (available fresh matrix product copy statistics : Value) {record : LogRecord} {sizes : List Value}
      {lines : List String} (ha : available.isTruthy = true) (hr : multiplicationRecord accelerator size = .ok record)
      (hs : copy.shape = .ok sizes) (hl : (reportOn accelerator size index sizes statistics).lines = .ok lines) :
      Way accelerator size index
        (.called .isAvailable (.ok available) :: .logged record ::
          (multiplication size index fresh matrix product copy statistics ++ History.ofLines (lines.map .str)))
        (.ok (some (reportOn accelerator size index sizes statistics)))

variable {library accelerator : String} {size index : Value} {h : History Query}

/-- A trace of the multiplication is its course, or that course cut at a question that failed. -/
theorem trace_multiply {r : Except Failure (Value × Value)}
    (ht : (multiply (.direct library accelerator) (.tuple [size, size]) index).Trace h r) :
    ∃ fresh matrix product copy statistics,
      (h = multiplication size index fresh matrix product copy statistics ∧ r = .ok (copy, statistics)) ∨
        ∃ e, Cut (multiplication size index fresh matrix product copy statistics) h e ∧ r = .error e := by
  simp only [multiply, Backend.direct, bind_eq, pure_eq] at ht
  rcases trace_ask_bind ht with ⟨fresh, _, rfl, hmove⟩ | ⟨e, rfl, rfl⟩
  case inr => exact ⟨.null, .null, .null, .null, .null, Or.inr ⟨e, Cut.call .., rfl⟩⟩
  rcases trace_ask_bind hmove with ⟨matrix, _, rfl, hmultiply⟩ | ⟨e, rfl, rfl⟩
  case inr => exact ⟨fresh, .null, .null, .null, .null, Or.inr ⟨e, (Cut.call ..).append_left [_], rfl⟩⟩
  rcases trace_ask_bind hmultiply with ⟨product, _, rfl, hcopy⟩ | ⟨e, rfl, rfl⟩
  case inr => exact ⟨fresh, matrix, .null, .null, .null, Or.inr ⟨e, (Cut.call ..).append_left [_, _], rfl⟩⟩
  rcases trace_ask_bind hcopy with ⟨copy, _, rfl, hstatistics⟩ | ⟨e, rfl, rfl⟩
  case inr => exact ⟨fresh, matrix, product, .null, .null, Or.inr ⟨e, (Cut.call ..).append_left [_, _, _], rfl⟩⟩
  rcases trace_ask_bind hstatistics with ⟨statistics, _, rfl, hend⟩ | ⟨e, rfl, rfl⟩
  case inr => exact ⟨fresh, matrix, product, copy, .null, Or.inr ⟨e, (Cut.call ..).append_left [_, _, _, _], rfl⟩⟩
  obtain ⟨rfl, rfl⟩ := trace_done_iff.mp hend
  exact ⟨fresh, matrix, product, copy, statistics, Or.inl ⟨rfl, rfl⟩⟩

/-- Nothing but the ways of the section can come of it. -/
theorem trace_run {r : Except Failure (Option ComputeReport)}
    (ht : (run (.direct library accelerator) size index).Trace h r) : Way accelerator size index h r := by
  simp only [run, bind_eq, pure_eq, Backend.direct] at ht
  rcases trace_ask_bind ht with ⟨available, _, rfl, hrest⟩ | ⟨e, rfl, rfl⟩
  case inr => exact .unasked e
  split at hrest
  · next ha =>
    rcases trace_ofValue_bind hrest with ⟨record, hr, hnote⟩ | ⟨fault, hf, rfl, rfl⟩
    case inr => exact .unrecorded available ha hf
    obtain ⟨_, rfl, hmultiply⟩ := trace_note_bind hnote
    rcases trace_reporting_bind hmultiply with ⟨_, first, rest, rfl, hmade, hshape⟩ | ⟨e, first, hfirst, rfl, rfl⟩
    case inr =>
      obtain ⟨fresh, matrix, product, copy, statistics, ⟨_, hx⟩ | ⟨_, hc, hx⟩⟩ := trace_multiply hfirst
      · cases hx
      · cases hx
        exact .unmultiplied available fresh matrix product copy statistics ha hr hc
    obtain ⟨fresh, matrix, product, copy, statistics, ⟨rfl, hx⟩ | ⟨_, _, hx⟩⟩ := trace_multiply hmade
    case inr => cases hx
    cases hx
    rcases trace_ofValue_bind hshape with ⟨sizes, hs, hlines⟩ | ⟨fault, hf, rfl, rfl⟩
    case inr =>
      rw [List.append_nil]
      exact .shapeless available fresh matrix product copy statistics ha hr hf
    rcases trace_ofValue_bind hlines with ⟨lines, hl, hprint⟩ | ⟨fault, hf, rfl, rfl⟩
    case inr =>
      rw [List.append_nil]
      exact .unwritable available fresh matrix product copy statistics ha hr hs hf
    rcases trace_printAll_bind hprint with ⟨_, rfl, hend⟩ | ⟨e, hc, rfl⟩
    · obtain ⟨rfl, rfl⟩ := trace_done_iff.mp hend
      rw [List.append_nil]
      exact .passed available fresh matrix product copy statistics ha hr hs hl
    · exact .unreported available fresh matrix product copy statistics ha hr hs hl hc
  · next ha =>
    have ha : available.isTruthy = false := Bool.eq_false_iff.mpr ha
    rcases trace_print_bind hrest with ⟨_, rfl, hend⟩ | ⟨e, rfl, rfl⟩
    · obtain ⟨rfl, rfl⟩ := trace_done_iff.mp hend
      exact .skipped available ha
    · exact .unskipped available e ha

/-- The lines of a section with this report: those of the report, or the one that says that it was skipped. -/
def reportLines (accelerator : String) : Option ComputeReport → Except Value.Fault (List Value)
  | none => .ok [.str (skippedLine accelerator)]
  | some report => report.lines.map (·.map .str)

/-- The lines of the section are those of its report. -/
theorem Way.report_lines {report : Option ComputeReport} (hway : Way accelerator size index h (.ok report)) :
    reportLines accelerator report = .ok h.lines := by
  cases hway with
  | skipped available ha => rfl
  | passed available fresh matrix product copy statistics ha hr hs hl =>
    rw [reportLines, hl]
    change _ = Except.ok (History.lines (History.ofLines _))
    rw [History.lines_ofLines]
    rfl

/-- A section that fails leaves no line, as long as the sink takes every line. -/
theorem Way.no_lines {e : Failure} (hway : Way accelerator size index h (.error e)) (hp : h.Printed) : h.lines = [] := by
  cases hway with
  | unasked e => rfl
  | unskipped available e ha => rfl
  | unrecorded available ha hr => rfl
  | unmultiplied available fresh matrix product copy statistics ha hr hc =>
    have hlines := List.prefix_nil.mp hc.lines_prefix
    change History.lines (_ ++ _) = []
    rw [History.lines_append, History.lines_map_logged, hlines]
    rfl
  | shapeless available fresh matrix product copy statistics ha hr hs => rfl
  | unwritable available fresh matrix product copy statistics ha hr hs hl => rfl
  | unreported available fresh matrix product copy statistics ha hr hs hl hc =>
    exact absurd (fun line taken hm => hp line taken (by simp [hm])) hc.not_printed

end Section.Compute

end AccelProbe
