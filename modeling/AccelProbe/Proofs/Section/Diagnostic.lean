import AccelProbe.Proofs.Program.Course
import AccelProbe.Section.Diagnostic

/-!
# The ways through the diagnostic section

The section has three parts. It opens with three questions and a line for each; where the accelerator can be used, it then
allocates a tensor, which is the part whose failure is reported; and it closes with two lines. `Way` names everything that can come
of it when a library answers the questions itself, and `trace_runWith` says that nothing else can.
-/

namespace AccelProbe

namespace Section.Diagnostic

open Program

/-- The line of the version. -/
def versionText (library : String) (version : Value) : String := library ++ " Version: " ++ version.display

/-- The line of the availability. -/
def availabilityText (accelerator : String) (available : Value) : String :=
  accelerator ++ " Available: " ++ flagText available

/-- The line of the number of devices. -/
def countText (accelerator : String) (count : Value) : String := accelerator ++ " Device Count: " ++ count.display

/-- The line that confirms an allocation. -/
def confirmationText (accelerator : String) : String := "Created " ++ accelerator ++ " tensor successfully!"

/-- The course of a question whose answer is written in a line. -/
def question (q : Query) (answer : Value) (line : String) : History Query :=
  [.called q (.ok answer), .wrote (.str line) (.ok ())]

/-- The course of the opening with these answers. -/
def opening (library accelerator : String) (version available count : Value) : History Query :=
  .logged (startRecord library) ::
    (question .version version (versionText library version) ++
      (question .isAvailable available (availabilityText accelerator available) ++
        question .deviceCount count (countText accelerator count)))

/-- The lines of the opening. -/
theorem lines_opening (library accelerator : String) (version available count : Value) :
    (opening library accelerator version available count).lines =
      [.str (versionText library version), .str (availabilityText accelerator available), .str (countText accelerator count)] :=
  rfl

/-- The course of the allocation with these answers. -/
def allocation (sizes : List Value) (index fresh tensor text : Value) : History Query :=
  [.called (.randomTensor (.tuple sizes)) (.ok fresh), .called (.toAccelerator fresh index) (.ok tensor),
    .called (.formatTensor tensor) (.ok text)]

/-- The course of the closing. -/
def closing (accelerator : String) (text : Value) : History Query :=
  [.wrote (.str (confirmationText accelerator)) (.ok ()), .wrote text (.ok ())]

/-- The report of a section that found no accelerator. -/
def openingReport (library accelerator : String) (version available count : Value) : DiagnosticReport :=
  { library := .str library, accelerator := .str accelerator, version, available, deviceCount := count }

/-- The report of a section that allocated a tensor. -/
def closingReport (library accelerator : String) (version available count tensor text : Value) : DiagnosticReport :=
  { openingReport library accelerator version available count with tensor, tensorText := text }

/-- What can come of the section. -/
inductive Way (library accelerator : String) (sizes : List Value) (index : Value) :
    History Query → Except Failure DiagnosticReport → Prop where
  /-- A question or a line of the opening fails. -/
  | unopened (version available count : Value) {h : History Query} {e : Failure}
      (hc : Cut (opening library accelerator version available count) h e) :
      Way library accelerator sizes index h (.error e)
  /-- The answer to a question of the opening cannot be written in its line. -/
  | unwritable (version available count : Value) {h : History Query} {q : Query} {v : Value}
      (hp : h <+: opening library accelerator version available count) (hq : .called q (.ok v) ∈ h)
      (hv : v.isWritable = false) :
      Way library accelerator sizes index h (.error (.value v.writingFault))
  /-- There is no accelerator to allocate a tensor on. -/
  | skipped (version available count : Value) (hv : version.isWritable = true) (hn : count.isWritable = true)
      (ha : available.isTruthy = false) :
      Way library accelerator sizes index
        (opening library accelerator version available count ++ [.logged (skippedRecord accelerator)])
        (.ok (openingReport library accelerator version available count))
  /-- The record of the allocation cannot be written. -/
  | unrecorded (version available count : Value) {fault : Value.Fault} (ha : available.isTruthy = true)
      (hr : allocationRecord accelerator sizes index = .error fault) :
      Way library accelerator sizes index (opening library accelerator version available count) (.error (.value fault))
  /-- A step of the allocation fails. -/
  | unallocated (version available count fresh tensor text : Value) {record : LogRecord} {h : History Query} {e : Failure}
      (ha : available.isTruthy = true) (hr : allocationRecord accelerator sizes index = .ok record)
      (hc : Cut (allocation sizes index fresh tensor text) h e) :
      Way library accelerator sizes index
        (opening library accelerator version available count ++ .logged record ::
          (h ++ (reportOf (failureRecord accelerator) e).map .logged))
        (.error (afterReport (failureRecord accelerator) e))
  /-- A line of the closing is refused. -/
  | unclosed (version available count fresh tensor text : Value) {record : LogRecord} {h : History Query} {e : Failure}
      (ha : available.isTruthy = true) (hr : allocationRecord accelerator sizes index = .ok record)
      (hc : Cut (closing accelerator text) h e) :
      Way library accelerator sizes index
        (opening library accelerator version available count ++ .logged record ::
          (allocation sizes index fresh tensor text ++ h))
        (.error e)
  /-- The tensor is allocated, confirmed and printed. -/
  | allocated (version available count fresh tensor text : Value) {record : LogRecord} (hv : version.isWritable = true)
      (hn : count.isWritable = true) (ha : available.isTruthy = true)
      (hr : allocationRecord accelerator sizes index = .ok record) :
      Way library accelerator sizes index
        (opening library accelerator version available count ++ .logged record ::
          (allocation sizes index fresh tensor text ++ closing accelerator text))
        (.ok (closingReport library accelerator version available count tensor text))

variable {library accelerator : String} {sizes : List Value} {index : Value} {h : History Query}

/-- A trace of the allocation is its course, or that course cut at a question that failed. -/
theorem trace_allocate {r : Except Failure (Value × Value)}
    (ht : (allocate (.direct library accelerator) sizes index).Trace h r) :
    ∃ fresh tensor text, (h = allocation sizes index fresh tensor text ∧ r = .ok (tensor, text)) ∨
      ∃ e, Cut (allocation sizes index fresh tensor text) h e ∧ r = .error e := by
  simp only [allocate, Backend.direct, bind_eq, pure_eq] at ht
  rcases trace_ask_bind ht with ⟨fresh, _, rfl, hmove⟩ | ⟨e, rfl, rfl⟩
  · rcases trace_ask_bind hmove with ⟨tensor, _, rfl, hformat⟩ | ⟨e, rfl, rfl⟩
    · rcases trace_ask_bind hformat with ⟨text, _, rfl, hend⟩ | ⟨e, rfl, rfl⟩
      · obtain ⟨rfl, rfl⟩ := trace_done_iff.mp hend
        exact ⟨fresh, tensor, text, Or.inl ⟨rfl, rfl⟩⟩
      · exact ⟨fresh, tensor, .null, Or.inr ⟨e, ((Cut.call ..).next _).next _, rfl⟩⟩
    · exact ⟨fresh, .null, .null, Or.inr ⟨e, (Cut.call ..).next _, rfl⟩⟩
  · exact ⟨.null, .null, .null, Or.inr ⟨e, Cut.call .., rfl⟩⟩

/-- A trace that begins with a question and its line: both happen and the rest goes on, one of them fails, or the answer cannot be
written. -/
theorem trace_question {α : Type} {q : Query} {line : Value → Except Value.Fault String} {text : Value → String}
    {f : Value → Program Query α} {r : Except Failure α}
    (ht : ((ask q).bind fun v => (ofValue (line v)).bind fun s => (print (.str s)).bind fun _ => f v).Trace h r)
    (hl : ∀ v s, line v = .ok s → s = text v) :
    (∃ v rest, line v = .ok (text v) ∧ h = question q v (text v) ++ rest ∧ (f v).Trace rest r) ∨
      (∃ v e, Cut (question q v (text v)) h e ∧ r = .error e) ∨
        ∃ v fault, line v = .error fault ∧ h = [.called q (.ok v)] ∧ r = .error (.value fault) := by
  rcases trace_ask_bind ht with ⟨v, _, rfl, hline⟩ | ⟨e, rfl, rfl⟩
  · rcases trace_ofValue_bind hline with ⟨s, hs, hprint⟩ | ⟨fault, hf, rfl, rfl⟩
    · obtain rfl := hl v s hs
      rcases trace_print_bind hprint with ⟨rest, rfl, hrest⟩ | ⟨e, rfl, rfl⟩
      · exact Or.inl ⟨v, rest, hs, rfl, hrest⟩
      · exact Or.inr (Or.inl ⟨v, e, (Cut.write ..).next _, rfl⟩)
    · exact Or.inr (Or.inr ⟨v, fault, hf, rfl, rfl⟩)
  · exact Or.inr (Or.inl ⟨.null, e, Cut.call .., rfl⟩)

/-! ## The lines of the report -/

variable {version available count tensor text : Value}

theorem versionLine_openingReport :
    (openingReport library accelerator version available count).versionLine =
      version.toText.map (library ++ " Version: " ++ ·) := by
  simp only [DiagnosticReport.versionLine, openingReport, Value.toText_str]
  cases version.toText <;> rfl

theorem versionLine_of_isWritable (hv : version.isWritable = true) :
    (openingReport library accelerator version available count).versionLine = .ok (versionText library version) :=
  versionLine_openingReport.trans (Value.map_toText_eq_ok_iff.mpr ⟨hv, rfl⟩)

theorem availabilityLine_openingReport :
    (openingReport library accelerator version available count).availabilityLine =
      .ok (availabilityText accelerator available) := by
  simp only [DiagnosticReport.availabilityLine, openingReport, Value.toText_str]
  rfl

theorem deviceCountLine_openingReport :
    (openingReport library accelerator version available count).deviceCountLine =
      count.toText.map (accelerator ++ " Device Count: " ++ ·) := by
  simp only [DiagnosticReport.deviceCountLine, openingReport, Value.toText_str]
  cases count.toText <;> rfl

theorem deviceCountLine_of_isWritable (hn : count.isWritable = true) :
    (openingReport library accelerator version available count).deviceCountLine = .ok (countText accelerator count) :=
  deviceCountLine_openingReport.trans (Value.map_toText_eq_ok_iff.mpr ⟨hn, rfl⟩)

theorem confirmationLine_closingReport :
    (closingReport library accelerator version available count tensor text).confirmationLine =
      .ok (confirmationText accelerator) := by
  simp only [DiagnosticReport.confirmationLine, closingReport, openingReport, Value.toText_str]
  rfl

/-! ## The whole section -/

/-- What the section does once it is opened with a report. -/
def conclude (b : Backend Query) (sizes : List Value) (index : Value) (report : DiagnosticReport) :
    Program Query DiagnosticReport := do
  if report.available.isTruthy then
    let record ← ofValue (allocationRecord b.accelerator sizes index)
    note record
    let (tensor, tensorText) ← reporting (failureRecord b.accelerator) (allocate b sizes index)
    let report := { report with tensor, tensorText }
    let line ← ofValue report.confirmationLine
    print (.str line)
    print tensorText
    return report
  else
    note (skippedRecord b.accelerator)
    return report

/-- Once the opening is over, a trace of the section ends in one of the ways that come after it. -/
theorem trace_conclude {r : Except Failure DiagnosticReport} (hv : version.isWritable = true) (hn : count.isWritable = true)
    (ht : (conclude (.direct library accelerator) sizes index
      (openingReport library accelerator version available count)).Trace h r) :
    Way library accelerator sizes index (opening library accelerator version available count ++ h) r := by
  simp only [conclude, bind_eq, pure_eq, Backend.direct] at ht
  split at ht
  · next ha =>
    rcases trace_ofValue_bind ht with ⟨record, hr, hnote⟩ | ⟨fault, hf, rfl, rfl⟩
    case inr =>
      rw [List.append_nil]
      exact .unrecorded version available count ha hf
    obtain ⟨_, rfl, hrest⟩ := trace_note_bind hnote
    rcases trace_reporting_bind hrest with ⟨_, first, rest, rfl, hmade, hclose⟩ | ⟨e, first, hfirst, rfl, rfl⟩
    case inr =>
      obtain ⟨fresh, tensor, text, ⟨_, hx⟩ | ⟨_, hc, hx⟩⟩ := trace_allocate hfirst
      · cases hx
      · cases hx
        exact .unallocated version available count fresh tensor text ha hr hc
    obtain ⟨fresh, tensor, text, ⟨rfl, hx⟩ | ⟨_, _, hx⟩⟩ := trace_allocate hmade
    case inr => cases hx
    cases hx
    rcases trace_ofValue_bind hclose with ⟨line, hl, hconfirm⟩ | ⟨fault, hf, -, -⟩
    case inr => exact absurd (confirmationLine_closingReport.symm.trans hf) nofun
    obtain rfl := Except.ok.inj (hl.symm.trans confirmationLine_closingReport)
    rcases trace_print_bind hconfirm with ⟨_, rfl, hprint⟩ | ⟨e, rfl, rfl⟩
    case inr => exact .unclosed version available count fresh tensor text ha hr (Cut.write ..)
    rcases trace_print_bind hprint with ⟨_, rfl, hend⟩ | ⟨e, rfl, rfl⟩
    case inr => exact .unclosed version available count fresh tensor text ha hr ((Cut.write ..).next _)
    obtain ⟨rfl, rfl⟩ := trace_done_iff.mp hend
    exact .allocated version available count fresh tensor text hv hn ha hr
  · next ha =>
    obtain ⟨_, rfl, hend⟩ := trace_note_bind ht
    obtain ⟨rfl, rfl⟩ := trace_done_iff.mp hend
    exact .skipped version available count hv hn (Bool.eq_false_iff.mpr ha)

/-- Nothing but the ways of the section can come of it. -/
theorem trace_runWith {r : Except Failure DiagnosticReport}
    (ht : (runWith (.direct library accelerator) sizes index).Trace h r) : Way library accelerator sizes index h r := by
  simp only [runWith, bind_eq, pure_eq] at ht
  obtain ⟨_, rfl, hversion⟩ := trace_note_bind ht
  have hfirst :=
    trace_question hversion fun v s hs => (Value.map_toText_eq_ok_iff.mp (versionLine_openingReport.symm.trans hs)).2
  rcases hfirst with ⟨version, _, hl, rfl, havailable⟩ | ⟨version, e, hc, rfl⟩ | ⟨version, fault, hf, rfl, rfl⟩
  case inr.inl => exact .unopened version .null .null ((hc.append_right _).next _)
  case inr.inr =>
    obtain ⟨hv, rfl⟩ := Value.map_toText_eq_error_iff.mp (versionLine_openingReport.symm.trans hf)
    exact .unwritable version .null .null ⟨_, rfl⟩ (.tail _ (.head _)) hv
  have hsecond :=
    trace_question havailable fun v s hs => Except.ok.inj (hs.symm.trans availabilityLine_openingReport)
  rcases hsecond with ⟨available, _, -, rfl, hcount⟩ | ⟨available, e, hc, rfl⟩ | ⟨available, fault, hf, -, -⟩
  case inr.inl => exact .unopened version available .null (((hc.append_right _).append_left _).next _)
  case inr.inr => exact absurd (availabilityLine_openingReport.symm.trans hf) nofun
  have hthird :=
    trace_question hcount fun v s hs => (Value.map_toText_eq_ok_iff.mp (deviceCountLine_openingReport.symm.trans hs)).2
  rcases hthird with ⟨count, _, hm, rfl, hrest⟩ | ⟨count, e, hc, rfl⟩ | ⟨count, fault, hf, rfl, rfl⟩
  case inr.inl => exact .unopened version available count (((hc.append_left _).append_left _).next _)
  case inr.inr =>
    obtain ⟨hv, rfl⟩ := Value.map_toText_eq_error_iff.mp (deviceCountLine_openingReport.symm.trans hf)
    refine .unwritable version available count ⟨_, rfl⟩ (q := .deviceCount) ?_ hv
    simp
  have hv : version.isWritable = true := (Value.map_toText_eq_ok_iff.mp (versionLine_openingReport.symm.trans hl)).1
  have hn : count.isWritable = true := (Value.map_toText_eq_ok_iff.mp (deviceCountLine_openingReport.symm.trans hm)).1
  have hw := trace_conclude hv hn hrest
  simp only [opening, List.cons_append, List.append_assoc] at hw
  exact hw

/-- The lines of the report are those that the section wrote, as long as an allocated tensor prints as something. -/
theorem Way.report_lines {report : DiagnosticReport} (hway : Way library accelerator sizes index h (.ok report))
    (ht : ∀ tensor text, .called (.formatTensor tensor) (.ok text) ∈ h → text.isNull = false) :
    report.lines = .ok h.lines := by
  cases hway with
  | skipped version available count hv hn ha =>
    rw [DiagnosticReport.lines, versionLine_of_isWritable hv, availabilityLine_openingReport, deviceCountLine_of_isWritable hn]
    rfl
  | allocated version available count fresh tensor text hv hn ha hr =>
    have htext : text.isNull = false := ht tensor text (by simp [allocation])
    -- the report differs from that of the opening in its tensor alone, so it has the lines of that one
    let start := openingReport library accelerator version available count
    let report := closingReport library accelerator version available count tensor text
    have hversion : start.versionLine = .ok (versionText library version) := versionLine_of_isWritable hv
    have havailable : start.availabilityLine = .ok (availabilityText accelerator available) := availabilityLine_openingReport
    have hcount : start.deviceCountLine = .ok (countText accelerator count) := deviceCountLine_of_isWritable hn
    have hconfirm : report.confirmationLine = .ok (confirmationText accelerator) := confirmationLine_closingReport
    change DiagnosticReport.lines report = _
    have hsame : report.versionLine = start.versionLine ∧ report.availabilityLine = start.availabilityLine ∧
        report.deviceCountLine = start.deviceCountLine ∧ report.tensorText = text := ⟨rfl, rfl, rfl, rfl⟩
    rw [DiagnosticReport.lines, hsame.1, hsame.2.1, hsame.2.2.1, hsame.2.2.2, hversion, havailable, hcount, hconfirm, htext]
    rfl

/-! ## The order of the section -/

/-- The calls and the lines of the section with these answers, none of them failing. -/
def course (library accelerator : String) (sizes : List Value) (index version available count fresh tensor text : Value) :
    History Query :=
  [.called .version (.ok version), .wrote (.str (library ++ " Version: " ++ version.display)) (.ok ()),
    .called .isAvailable (.ok available), .wrote (.str (accelerator ++ " Available: " ++ flagText available)) (.ok ()),
    .called .deviceCount (.ok count), .wrote (.str (accelerator ++ " Device Count: " ++ count.display)) (.ok ())] ++
  if available.isTruthy then
    [.called (.randomTensor (.tuple sizes)) (.ok fresh), .called (.toAccelerator fresh index) (.ok tensor),
      .called (.formatTensor tensor) (.ok text),
      .wrote (.str ("Created " ++ accelerator ++ " tensor successfully!")) (.ok ()), .wrote text (.ok ())]
  else []

/-- The record of the allocation can be written where the sizes and the index can. -/
theorem allocationRecord_of_isWritable (accelerator : String) (hs : ∀ v ∈ sizes, v.isWritable = true)
    (hi : index.isWritable = true) : ∃ record, allocationRecord accelerator sizes index = .ok record := by
  have ht : index.toText = .ok index.display := Value.toText_eq_ok_iff.mpr ⟨hi, rfl⟩
  unfold allocationRecord
  rw [Value.toDimensions_of_isWritable hs, ht]
  exact ⟨_, rfl⟩

/-- The steps of a history that goes on after the opening. -/
theorem steps_opening_append (rest : History Query) :
    History.steps (opening library accelerator version available count ++ rest) =
      (opening library accelerator version available count).tail ++ rest.steps := rfl

/-- The course of the section is that of its parts. -/
theorem course_eq (fresh : Value) :
    course library accelerator sizes index version available count fresh tensor text =
      (opening library accelerator version available count).tail ++
        if available.isTruthy then allocation sizes index fresh tensor text ++ closing accelerator text else [] := rfl

/-- What cuts the course of the allocation is a call. -/
theorem called_of_cut_allocation {fresh : Value} {e : Failure} (hc : Cut (allocation sizes index fresh tensor text) h e) :
    ∃ c, .called c (.error e) ∈ h := by
  obtain ⟨event, hmem, hfail⟩ := hc.exists_mem
  simp only [allocation, List.mem_cons, List.not_mem_nil, or_false] at hmem
  rcases hmem with rfl | rfl | rfl
  · exact ⟨_, hfail⟩
  · exact ⟨_, hfail⟩
  · exact ⟨_, hfail⟩

/-- Where everything can be written, a way through the section keeps to its course up to the first failure. -/
theorem Way.follows_course {w : World Query} (hw : w.Writable) (hsizes : ∀ v ∈ sizes, v.isWritable = true)
    (hi : index.isWritable = true) {r : Except Failure DiagnosticReport} (hway : Way library accelerator sizes index h r)
    (hy : ∀ event ∈ h, w.Yields event) :
    ∃ version available count fresh tensor text : Value,
      let full := course library accelerator sizes index version available count fresh tensor text
      (h.steps = full ∧ ∃ report, r = .ok report) ∨ ∃ e, Cut full h.steps e ∧ r = .error e := by
  cases hway with
  | unopened version available count hc =>
    refine ⟨version, available, count, .null, .null, .null, Or.inr ⟨_, ?_, rfl⟩⟩
    exact hc.steps.append_right _
  | unwritable version available count hp hq hv =>
    exact absurd (hw.of_yields (hy _ hq)) (Bool.eq_false_iff.mp hv)
  | skipped version available count hv hn ha =>
    refine ⟨version, available, count, .null, .null, .null, Or.inl ⟨?_, _, rfl⟩⟩
    rw [steps_opening_append, course_eq, ha]
    rfl
  | unrecorded version available count ha hr =>
    obtain ⟨record, hrecord⟩ := allocationRecord_of_isWritable accelerator hsizes hi
    exact absurd (hr.symm.trans hrecord) nofun
  | @unallocated version available count fresh tensor text record h e ha hr hc =>
    -- the failure is that of a call, so it has a wording and is passed on as it is
    obtain ⟨c, hmem⟩ := called_of_cut_allocation hc
    have hm : ∃ text, e.message = .ok text := hw.message (hy (.called c (.error e)) (by simp [hmem]))
    refine ⟨version, available, count, fresh, tensor, text, Or.inr ⟨e, ?_, ?_⟩⟩
    · have hsteps : History.steps (.logged record :: (h ++ (reportOf (failureRecord accelerator) e).map .logged)) = h.steps := by
        rw [← List.singleton_append, History.steps_append, History.steps_append, History.steps_map_logged, List.append_nil]
        rfl
      rw [steps_opening_append, hsteps, course_eq, if_pos ha]
      exact (hc.steps.append_right (closing accelerator text)).append_left _
    · exact congrArg Except.error (afterReport_of_message _ hm)
  | unclosed version available count fresh tensor text ha hr hc =>
    refine ⟨version, available, count, fresh, tensor, text, Or.inr ⟨_, ?_, rfl⟩⟩
    rw [steps_opening_append, course_eq, if_pos ha]
    exact (hc.steps.append_left (allocation sizes index fresh tensor text)).append_left _
  | allocated version available count fresh tensor text hv hn ha hr =>
    refine ⟨version, available, count, fresh, tensor, text, Or.inl ⟨?_, _, rfl⟩⟩
    rw [steps_opening_append, course_eq, if_pos ha]
    rfl

/-- The calls and the lines of the section come in the order of its course, without a gap: all of them when nothing fails, and
otherwise those before the first one that fails, that one, and none after it. Its failure leaves the section as it is. What a
line says, and what a call is handed, are the answers to the calls before it. -/
theorem run_follows_course (w : World Query) (library accelerator : String) (shape index : Value) (sizes : List Value)
    (hs : shape.items = .ok sizes) (hw : w.Writable) (hsizes : ∀ v ∈ sizes, v.isWritable = true)
    (hi : index.isWritable = true) :
    ∃ version available count fresh tensor text : Value,
      let full := course library accelerator sizes index version available count fresh tensor text
      let (h, r) := (run (.direct library accelerator) shape index).run w []
      (h.steps = full ∧ ∃ report, r = .ok report) ∨ ∃ e, Cut full h.steps e ∧ r = .error e := by
  have hrun : run (.direct library accelerator) shape index = runWith (.direct library accelerator) sizes index := by
    rw [run, hs]
    rfl
  obtain ⟨added, hadded, ht, hy⟩ := run_trace w (runWith (.direct library accelerator) sizes index) []
  rw [hrun]
  simp only [List.nil_append] at hadded
  simp only [hadded]
  exact (trace_runWith ht).follows_course hw hsizes hi hy

/-- A world with an accelerator whose memory is used up: moving a tensor there fails. -/
def exhausted : World Query where
  answer := fun _ q =>
    match q with
    | .version => .ok (.str "2.4.0")
    | .isAvailable => .ok (.bool true)
    | .deviceCount => .ok (.int 1)
    | .toAccelerator .. => .error (.raised ⟨"RuntimeError", .ordinary, [.str "out of memory"]⟩)
    | _ => .ok (.tensor [.int 2, .int 3] (.str "cpu") "zeros")
  take := fun _ _ => .ok ()

/-- A world whose memory is used up answers with what can be written. -/
theorem exhausted_writable : exhausted.Writable := by
  intro h q
  cases q with
  | toAccelerator tensor index => exact ⟨"out of memory", rfl⟩
  | _ => rfl

/-- On an accelerator whose memory is used up the section keeps to its course as far as the tensor's way to the device. -/
theorem run_follows_course_exhausted :
    exhausted.Writable ∧ ∃ version available count fresh tensor text : Value,
      let full := course "Torch" "CUDA" [.int 2, .int 3] (.int 0) version available count fresh tensor text
      let (h, r) := (run (.direct "Torch" "CUDA") standardShape (.int 0)).run exhausted []
      (h.steps = full ∧ ∃ report, r = .ok report) ∨ ∃ e, Cut full h.steps e ∧ r = .error e :=
  ⟨exhausted_writable, run_follows_course exhausted "Torch" "CUDA" standardShape (.int 0) [.int 2, .int 3] rfl
    exhausted_writable (by decide) (by decide)⟩

end Section.Diagnostic

end AccelProbe
