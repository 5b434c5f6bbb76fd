import AccelProbe.Proofs.Program.Exchanges
import AccelProbe.Proofs.Section.Compute
import AccelProbe.Proofs.Section.Environment

/-!
# Sections that write all or nothing

The environment section and the compute section put their report together before they write a line of it. So a failure of the
backend, or of the making of the lines, leaves no line behind; only the sink can break a report off, and then the lines before the
refused one are the beginning of the report.
-/

namespace AccelProbe

namespace Section

open Program

/-- What a section with a report writes: all of its lines or none, unless the sink breaks them off. -/
structure Atomic {Report : Type} (linesOf : Report → Except Value.Fault (List Value)) (Answered : Report → Prop)
    (h : History Query) (r : Except Failure Report) : Prop where
  /-- A section that fails while the sink takes every line has not tried to write one. -/
  nothing : ∀ e, r = .error e → h.Printed → h.attempts = []
  /-- A section that returns a report has written the lines of the report. -/
  whole : ∀ report, r = .ok report → Answered report ∧ linesOf report = .ok h.lines
  /-- A line that is refused belongs to a report, whose lines before it were written, and the refusal is the failure of the
  section. -/
  part : ∀ line e, .wrote line (.error e) ∈ h →
    r = .error e ∧ ∃ report lines, Answered report ∧ linesOf report = .ok lines ∧ h.lines ++ [line] <+: lines

namespace Atomic

variable {Report : Type} {linesOf : Report → Except Value.Fault (List Value)} {Answered : Report → Prop}
  {h : History Query} {report : Report} {lines : List Value} {e : Failure}

/-- A section that fails without an attempt to write. -/
theorem of_unwritten (hn : h.attempts = []) (e : Failure) : Atomic linesOf Answered h (.error e) where
  nothing := fun _ _ _ => hn
  whole := nofun
  part := by
    intro line e' hm
    have hattempt : (line, .error e') ∈ h.attempts := History.mem_attempts_iff.mpr hm
    rw [hn] at hattempt
    exact absurd hattempt List.not_mem_nil

/-- A section that writes the lines of its report after all else. -/
theorem of_written (front : History Query) (hn : front.attempts = []) (ha : Answered report) (hl : linesOf report = .ok lines) :
    Atomic linesOf Answered (front ++ .ofLines lines) (.ok report) where
  nothing := nofun
  whole := by
    intro report' hr
    obtain rfl := Except.ok.inj hr
    refine ⟨ha, ?_⟩
    rw [History.lines_append, History.lines_eq_nil_of_attempts hn, History.lines_ofLines, hl]
    rfl
  part := by
    intro line e' hm
    rcases List.mem_append.mp hm with hm | hm
    · have hattempt : (line, .error e') ∈ front.attempts := History.mem_attempts_iff.mpr hm
      rw [hn] at hattempt
      exact absurd hattempt List.not_mem_nil
    · obtain ⟨_, -, hx⟩ := List.mem_map.mp hm
      cases hx

/-- A section whose sink refuses a line of its report. -/
theorem of_refused (front : History Query) (hn : front.attempts = []) (ha : Answered report)
    (hl : linesOf report = .ok lines) (hc : Cut (.ofLines lines) h e) : Atomic linesOf Answered (front ++ h) (.error e) where
  nothing := fun _ _ hp => absurd (fun line taken hm => hp line taken (List.mem_append_right _ hm)) hc.not_printed
  whole := nofun
  part := by
    intro line e' hm
    obtain ⟨written, refused, rest, rfl, rfl⟩ := hc.exists_refused
    have hlast : .wrote line (.error e') = (.wrote refused (.error e) : Event Query) := by
      rcases List.mem_append.mp hm with hm | hm
      · have hattempt : (line, .error e') ∈ front.attempts := History.mem_attempts_iff.mpr hm
        rw [hn] at hattempt
        exact absurd hattempt List.not_mem_nil
      rcases List.mem_append.mp hm with hm | hm
      · obtain ⟨_, -, hx⟩ := List.mem_map.mp hm
        cases hx
      · exact List.mem_singleton.mp hm
    cases hlast
    refine ⟨rfl, report, _, ha, hl, rest, ?_⟩
    rw [History.lines_append, History.lines_append, History.lines_eq_nil_of_attempts hn, History.lines_ofLines]
    simp [History.lines]

end Atomic

namespace Compute

/-- The questions of a section that multiplies, with these answers. -/
def plan (size index available fresh matrix product copy statistics : Value) : List (Query × Value) :=
  [(.isAvailable, available), (.randomTensor (.tuple [size, size]), fresh), (.toAccelerator fresh index, matrix),
    (.matmulTransposed matrix, product), (.toHost product, copy), (.statistics copy, statistics)]

/-- Whether a report says what the backend answered: it is that of a whole multiplication, and there is none without an
accelerator. -/
def Answered (accelerator : String) (size index : Value) (h : History Query) : Option ComputeReport → Prop
  | none => ∃ available, available.isTruthy = false ∧ h.exchanges = [(.isAvailable, .ok available)]
  | some report =>
    ∃ (available fresh matrix product copy statistics : Value) (sizes : List Value),
      available.isTruthy = true ∧
        h.exchanges =
          (plan size index available fresh matrix product copy statistics).map (fun step => (step.1, .ok step.2)) ∧
        copy.shape = .ok sizes ∧
        report =
          { accelerator := .str accelerator, deviceIndex := index, inputShape := .tuple [size, size],
            resultShape := .tuple sizes, statistics }

/-- What the section asks and in which order. -/
structure Ordered (accelerator : String) (size index : Value) (h : History Query)
    (r : Except Failure (Option ComputeReport)) : Prop where
  /-- An answer that counts as false to the question for an accelerator: the line that says so is all that comes, and there is no
  report if the sink takes it. -/
  skipped : ∀ available, available.isTruthy = false → .called .isAvailable (.ok available) ∈ h →
    ∃ taken,
      h =
        [.called .isAvailable (.ok available),
          .wrote (.str (accelerator ++ " compute check skipped: no device available")) taken] ∧
      r = taken.map fun _ => none
  /-- Otherwise there is a report if nothing fails, and each step of the multiplication is handed what the step before gave. -/
  unskipped : (∀ available, .called .isAvailable (.ok available) ∈ h → available.isTruthy = true) →
    r ≠ .ok none ∧
      ∃ available fresh matrix product copy statistics,
        Follows (plan size index available fresh matrix product copy statistics) h.exchanges

variable {accelerator : String} {size index : Value} {h : History Query}

/-- The course of the multiplication is that of its plan, without the question before it. -/
theorem multiplication_eq (available fresh matrix product copy statistics : Value) :
    multiplication size index fresh matrix product copy statistics =
      .ofAnswers (plan size index available fresh matrix product copy statistics).tail := rfl

/-- The exchanges of a whole multiplication are those of its plan, whatever comes after the questions. -/
theorem exchanges_multiplied (size index available fresh matrix product copy statistics : Value) (record : LogRecord)
    {rest : History Query} (hrest : rest.exchanges = []) :
    History.exchanges
        (.called .isAvailable (.ok available) :: .logged record ::
          (multiplication size index fresh matrix product copy statistics ++ rest)) =
      (plan size index available fresh matrix product copy statistics).map fun step => (step.1, .ok step.2) := by
  change _ :: History.exchanges (multiplication size index fresh matrix product copy statistics ++ rest) = _
  rw [History.exchanges_append, hrest, List.append_nil, multiplication_eq available, History.exchanges_ofAnswers]
  rfl

/-- The report of a whole multiplication says what the backend answered, whatever comes after the questions. -/
theorem answered_multiplied {available fresh matrix product copy statistics : Value} (record : LogRecord)
    {sizes : List Value} {rest : History Query} (ha : available.isTruthy = true) (hs : copy.shape = .ok sizes)
    (hrest : rest.exchanges = []) :
    Answered accelerator size index
      (.called .isAvailable (.ok available) :: .logged record ::
        (multiplication size index fresh matrix product copy statistics ++ rest))
      (some (reportOn accelerator size index sizes statistics)) :=
  ⟨available, fresh, matrix, product, copy, statistics, sizes, ha, exchanges_multiplied _ _ _ _ _ _ _ _ _ hrest, hs, rfl⟩

/-- A way through the section writes all or nothing. -/
theorem Way.atomic {r : Except Failure (Option ComputeReport)} (hway : Way accelerator size index h r) :
    Atomic (reportLines accelerator) (Answered accelerator size index h) h r := by
  cases hway with
  | unasked e => exact .of_unwritten rfl e
  | unskipped available e ha =>
    have hanswered : Answered accelerator size index
        [.called .isAvailable (.ok available), .wrote (.str (skippedLine accelerator)) (.error e)] none := ⟨available, ha, rfl⟩
    have hlines : reportLines accelerator none = .ok [.str (skippedLine accelerator)] := rfl
    exact .of_refused [.called .isAvailable (.ok available)] rfl hanswered hlines (Cut.write ..)
  | skipped available ha =>
    have hanswered : Answered accelerator size index
        [.called .isAvailable (.ok available), .wrote (.str (skippedLine accelerator)) (.ok ())] none := ⟨available, ha, rfl⟩
    have hlines : reportLines accelerator none = .ok [.str (skippedLine accelerator)] := rfl
    exact .of_written [.called .isAvailable (.ok available)] rfl hanswered hlines
  | unrecorded available ha hr => exact .of_unwritten rfl _
  | @unmultiplied available fresh matrix product copy statistics record h e ha hr hc =>
    rw [multiplication_eq available] at hc
    have hattempts : h.attempts = [] := hc.attempts_ofAnswers
    refine .of_unwritten ?_ _
    change History.attempts (h ++ (reportOf (failureRecord accelerator) e).map .logged) = []
    rw [History.attempts_append, hattempts, History.attempts_map_logged]
    rfl
  | shapeless available fresh matrix product copy statistics ha hr hs => exact .of_unwritten rfl _
  | unwritable available fresh matrix product copy statistics ha hr hs hl => exact .of_unwritten rfl _
  | @unreported available fresh matrix product copy statistics record sizes lines h e ha hr hs hl hc =>
    have hlines : reportLines accelerator (some (reportOn accelerator size index sizes statistics)) =
        .ok (lines.map .str) := by
      rw [reportLines, hl]
      rfl
    exact .of_refused
      (.called .isAvailable (.ok available) :: .logged record ::
        multiplication size index fresh matrix product copy statistics)
      rfl (answered_multiplied record ha hs hc.exchanges_ofLines) hlines hc
  | @passed available fresh matrix product copy statistics record sizes lines ha hr hs hl =>
    have hlines : reportLines accelerator (some (reportOn accelerator size index sizes statistics)) =
        .ok (lines.map .str) := by
      rw [reportLines, hl]
      rfl
    exact .of_written
      (.called .isAvailable (.ok available) :: .logged record ::
        multiplication size index fresh matrix product copy statistics)
      rfl (answered_multiplied record ha hs (History.exchanges_ofLines _)) hlines

/-- A section that keeps to the plan of a multiplication, and does not end without a report, is in order. -/
theorem Ordered.of_follows {r : Except Failure (Option ComputeReport)}
    {available fresh matrix product copy statistics : Value} (ha : available.isTruthy = true)
    (hf : Follows (plan size index available fresh matrix product copy statistics) h.exchanges) (hr : r ≠ .ok none) :
    Ordered accelerator size index h r where
  skipped := by
    intro available' ha' hm
    obtain ⟨v, hplanned, hanswer⟩ := hf.exists_planned (History.mem_exchanges_iff.mpr hm)
    obtain rfl : v = available := by simpa [plan] using hplanned
    rw [hanswer available' rfl] at ha'
    exact absurd (ha.symm.trans ha') nofun
  unskipped := fun _ => ⟨hr, available, fresh, matrix, product, copy, statistics, hf⟩

/-- The questions of a way through the section come in their order. -/
theorem Way.ordered {r : Except Failure (Option ComputeReport)} (hway : Way accelerator size index h r) :
    Ordered accelerator size index h r := by
  cases hway with
  | unasked e =>
    constructor
    · intro available _ hm
      exact absurd (List.mem_singleton.mp hm) nofun
    · exact fun _ => ⟨nofun, .null, .null, .null, .null, .null, .null, rfl, rfl⟩
  | unskipped available e ha =>
    constructor
    · intro available' _ hm
      obtain rfl : available' = available := by simpa using hm
      exact ⟨.error e, rfl, rfl⟩
    · exact fun htrue => absurd (ha.symm.trans (htrue available List.mem_cons_self)) nofun
  | skipped available ha =>
    constructor
    · intro available' _ hm
      obtain rfl : available' = available := by simpa using hm
      exact ⟨.ok (), rfl, rfl⟩
    · exact fun htrue => absurd (ha.symm.trans (htrue available List.mem_cons_self)) nofun
  | unrecorded available ha hr =>
    have hf : Follows (plan size index available .null .null .null .null .null) [(.isAvailable, .ok available)] :=
      ⟨rfl, rfl, trivial⟩
    exact .of_follows ha hf nofun
  | @unmultiplied available fresh matrix product copy statistics record h e ha hr hc =>
    rw [multiplication_eq available] at hc
    have hf : Follows (plan size index available fresh matrix product copy statistics)
        ((.isAvailable, .ok available) ::
          History.exchanges (h ++ (reportOf (failureRecord accelerator) e).map .logged)) := by
      rw [History.exchanges_append, History.exchanges_map_logged, List.append_nil]
      exact ⟨rfl, rfl, .of_cut hc⟩
    exact .of_follows ha hf nofun
  | shapeless available fresh matrix product copy statistics ha hr hs =>
    exact .of_follows ha (.whole (plan size index available fresh matrix product copy statistics)) nofun
  | unwritable available fresh matrix product copy statistics ha hr hs hl =>
    exact .of_follows ha (.whole (plan size index available fresh matrix product copy statistics)) nofun
  | unreported available fresh matrix product copy statistics ha hr hs hl hc =>
    have hf := Follows.whole (plan size index available fresh matrix product copy statistics)
    rw [← exchanges_multiplied size index available fresh matrix product copy statistics _ hc.exchanges_ofLines] at hf
    exact .of_follows ha hf nofun
  | @passed available fresh matrix product copy statistics record sizes lines ha hr hs hl =>
    have hf := Follows.whole (plan size index available fresh matrix product copy statistics)
    rw [← exchanges_multiplied size index available fresh matrix product copy statistics _
      (History.exchanges_ofLines (lines.map .str))] at hf
    exact .of_follows ha hf nofun

end Compute

namespace Environment

/-- The questions of the section with these answers. -/
def questions (buildInfo available names : Value) : List (Query × Value) :=
  [(.buildInfo, buildInfo), (.isAvailable, available)] ++ if available.isTruthy then [(.deviceNames, names)] else []

/-- Whether a report says what the backend answered, and what the environment has; without an accelerator there are no names. -/
def Answered (env : AccelProbe.Environment) (h : History Query) (report : EnvironmentReport) : Prop :=
  ∃ buildInfo available names : Value,
    h.exchanges = (questions buildInfo available names).map (fun step => (step.1, .ok step.2)) ∧
      (available.isTruthy = false → names = .list []) ∧
      report = { settings := settings env, buildInfo, deviceNames := names }

/-- The lines of a report as they are written. -/
def reportLines (report : EnvironmentReport) : Except Value.Fault (List Value) := report.lines.map (·.map .str)

/-- What the section asks and in which order: for the names only where the answer to the question for an accelerator counts as
true. -/
def Ordered (h : History Query) : Prop :=
  ∃ buildInfo available names : Value,
    Follows [(.buildInfo, buildInfo), (.isAvailable, available), (.deviceNames, names)] h.exchanges ∧
      ∀ reply, .called .deviceNames reply ∈ h → available.isTruthy = true

variable {accelerator : String} {env : AccelProbe.Environment} {h : History Query}

/-- The course of the questions is that of their answers. -/
theorem inventory_eq (buildInfo available names : Value) :
    inventory buildInfo available names = .ofAnswers (questions buildInfo available names) := by
  unfold inventory questions
  split <;> rfl

/-- The questions of the section, and the record after them, leave no attempt to write. -/
theorem attempts_counted (buildInfo available names : Value) (record : LogRecord) :
    History.attempts (inventory buildInfo available names ++ [.logged record]) = [] := by
  rw [inventory_eq, History.attempts_append, History.attempts_ofAnswers]
  rfl

/-- The exchanges of the section are the answers to its questions, whatever comes after them. -/
theorem exchanges_counted (buildInfo available names : Value) (record : LogRecord) {rest : History Query}
    (hrest : rest.exchanges = []) :
    History.exchanges (inventory buildInfo available names ++ [.logged record] ++ rest) =
      (questions buildInfo available names).map fun step => (step.1, .ok step.2) := by
  rw [History.exchanges_append, History.exchanges_append, hrest, inventory_eq, History.exchanges_ofAnswers, List.append_nil]
  exact List.append_nil _

/-- A way through the section writes all or nothing. -/
theorem Way.atomic {r : Except Failure EnvironmentReport} (hway : Way accelerator env h r) :
    Atomic reportLines (Answered env h) h r := by
  cases hway with
  | unasked buildInfo available names hc =>
    rw [inventory_eq] at hc
    exact .of_unwritten hc.attempts_ofAnswers _
  | uncounted buildInfo available names hn hl =>
    rw [inventory_eq]
    exact .of_unwritten (History.attempts_ofAnswers _) _
  | unwritable buildInfo available names hn hl hr => exact .of_unwritten (attempts_counted ..) _
  | @unreported buildInfo available names count lines h e hn hl hr hc =>
    have hanswered := exchanges_counted buildInfo available names (countRecord accelerator count) hc.exchanges_ofLines
    have hlines : reportLines (reportOn env buildInfo names) = .ok (lines.map .str) := by
      rw [reportLines, hr]
      rfl
    rw [List.append_cons]
    exact .of_refused _ (attempts_counted ..) ⟨buildInfo, available, names, hanswered, hn, rfl⟩ hlines hc
  | @reported buildInfo available names count lines hn hl hr =>
    have hanswered := exchanges_counted buildInfo available names (countRecord accelerator count)
      (History.exchanges_ofLines (lines.map .str))
    have hlines : reportLines (reportOn env buildInfo names) = .ok (lines.map .str) := by
      rw [reportLines, hr]
      rfl
    rw [List.append_cons]
    exact .of_written _ (attempts_counted ..) ⟨buildInfo, available, names, hanswered, hn, rfl⟩ hlines

/-- Exchanges that keep to the questions of the section are in order. -/
theorem Ordered.of_follows {buildInfo available names : Value}
    (hf : Follows (questions buildInfo available names) h.exchanges) : Ordered h := by
  refine ⟨buildInfo, available, names, hf.extend ?_, ?_⟩
  · unfold questions
    split
    · exact List.prefix_refl _
    · exact List.prefix_append _ [_]
  · intro reply hm
    obtain ⟨v, hplanned, -⟩ := hf.exists_planned (History.mem_exchanges_iff.mpr hm)
    by_cases ha : available.isTruthy = true
    · exact ha
    · simp [questions, ha] at hplanned

/-- The questions of a way through the section come in their order. -/
theorem Way.ordered {r : Except Failure EnvironmentReport} (hway : Way accelerator env h r) : Ordered h := by
  have hwhole (buildInfo available names : Value) := Follows.whole (questions buildInfo available names)
  cases hway with
  | unasked buildInfo available names hc =>
    rw [inventory_eq] at hc
    exact .of_follows (.of_cut hc)
  | uncounted buildInfo available names hn hl =>
    have hf := hwhole buildInfo available names
    rw [← History.exchanges_ofAnswers, ← inventory_eq] at hf
    exact .of_follows hf
  | @unwritable buildInfo available names count fault hn hl hr =>
    have hf := hwhole buildInfo available names
    have hnil : History.exchanges ([] : History Query) = [] := rfl
    rw [← exchanges_counted buildInfo available names (countRecord accelerator count) hnil, List.append_nil] at hf
    exact .of_follows hf
  | @unreported buildInfo available names count lines h e hn hl hr hc =>
    have hf := hwhole buildInfo available names
    rw [← exchanges_counted buildInfo available names (countRecord accelerator count) hc.exchanges_ofLines,
      List.append_assoc] at hf
    exact .of_follows hf
  | @reported buildInfo available names count lines hn hl hr =>
    have hf := hwhole buildInfo available names
    rw [← exchanges_counted buildInfo available names (countRecord accelerator count)
      (History.exchanges_ofLines (lines.map .str)), List.append_assoc] at hf
    exact .of_follows hf

end Environment

/-- The compute section and the environment section write all of their report or nothing of it, whatever the backend, the sink,
the size, the index and the environment are. Where a section fails and the sink took every line, no line was written; where it
returns a report, the report's lines were written; where the sink refuses a line, the lines before it are the first ones of a
report. The reports say what the backend answered, and the questions come in their order, each handed what the one before gave. -/
theorem all_or_nothing (w : World Query) (before : History Query) (library accelerator : String) (size index : Value)
    (env : AccelProbe.Environment) :
    (∃ h r, (Compute.run (.direct library accelerator) size index).run w before = (before ++ h, r) ∧
        Atomic (Compute.reportLines accelerator) (Compute.Answered accelerator size index h) h r ∧
        Compute.Ordered accelerator size index h r) ∧
      ∃ h r, (Environment.run (.direct library accelerator) env).run w before = (before ++ h, r) ∧
        Atomic Environment.reportLines (Environment.Answered env h) h r ∧ Environment.Ordered h := by
  constructor
  · obtain ⟨h, hrun, ht, -⟩ := run_trace w (Compute.run (.direct library accelerator) size index) before
    have hway := Compute.trace_run ht
    exact ⟨h, _, Prod.ext hrun rfl, hway.atomic, hway.ordered⟩
  · obtain ⟨h, hrun, ht, -⟩ := run_trace w (Environment.run (.direct library accelerator) env) before
    have hway := Environment.trace_run ht
    exact ⟨h, _, Prod.ext hrun rfl, hway.atomic, hway.ordered⟩

end Section

end AccelProbe
