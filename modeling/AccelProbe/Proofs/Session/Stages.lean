import AccelProbe.Proofs.Section.Expansion
import AccelProbe.Session

/-!
# The stages of a session

A session is a sequence of stages, one for each section that it runs. `Consecutive` says that stages followed each other: each one
began where the one before had ended, and none came after one that failed. `run_inOrder` shows that a run of several stages is such
a sequence, over any backend and in any world; what then is known of a single stage is known of the session.
-/

namespace AccelProbe

namespace Session

open Program

/-- A section that a session may run. -/
inductive Stage where
  /-- The diagnostic section. -/
  | diagnostic
  /-- The environment section. -/
  | environment
  /-- The compute section. -/
  | compute
deriving DecidableEq

/-- What a stage that is over has found. -/
inductive Report where
  /-- The report of the diagnostic section. -/
  | diagnostic (r : DiagnosticReport)
  /-- The report of the environment section. -/
  | environment (r : EnvironmentReport)
  /-- The report of the compute section on an accelerator of this name, if it was not skipped. -/
  | compute (accelerator : String) (r : Option ComputeReport)

/-- The lines of a report, in the order in which they are printed. -/
def Report.lines : Report → Except Value.Fault (List Value)
  | diagnostic r => r.lines
  | environment r => r.lines.map (·.map .str)
  | compute accelerator r => Section.Compute.reportLines accelerator r

/-- The program of a stage. -/
def Stage.program {Call : Type} (c : Configuration) (env : Environment) (b : Backend Call) : Stage → Program Call Report
  | diagnostic => (Section.Diagnostic.run b c.shape c.deviceIndex).bind fun r => done (.diagnostic r)
  | environment => (Section.Environment.run b env).bind fun r => done (.environment r)
  | compute => (Section.Compute.run b c.computeSize c.deviceIndex).bind fun r => done (.compute b.accelerator r)

/-- A stage over a backend under other names of its calls is the stage, under those names. -/
theorem Stage.program_rename {Call Call' : Type} (f : Call → Call') (c : Configuration) (env : Environment) (b : Backend Call)
    (stage : Stage) : stage.program c env (b.rename f) = (stage.program c env b).rename f := by
  cases stage with
  | diagnostic =>
    rw [program, program, Section.Diagnostic.run_rename, rename_bind]
    rfl
  | environment =>
    rw [program, program, Section.Environment.run_rename, rename_bind]
    rfl
  | compute =>
    rw [program, program, Section.Compute.run_rename, rename_bind]
    rfl

/-- The stages that a configuration asks for, in the order in which they are run. -/
def requested (c : Configuration) : List Stage :=
  .diagnostic :: ((if c.reportEnvironment.isTruthy then [.environment] else []) ++ if c.checkCompute.isTruthy then [.compute] else [])

/-- Several stages one after the other. -/
def inOrder {Call : Type} (program : Stage → Program Call Report) : List Stage → Program Call Unit
  | [] => done ()
  | stage :: rest => (program stage).bind fun _ => inOrder program rest

/-- The sections of a session are the stages that its configuration asks for, in order. -/
theorem sections_eq_inOrder {Call : Type} (c : Configuration) (env : Environment) (b : Backend Call) :
    sections c env b = inOrder (Stage.program c env b) (requested c) := by
  unfold sections requested
  cases c.reportEnvironment.isTruthy <;> cases c.checkCompute.isTruthy <;>
    simp [inOrder, Stage.program, bind_assoc]

/-- One stage of a session: which one it was, what happened in it, and what came of it. -/
structure Part (Call : Type) where
  /-- The stage. -/
  stage : Stage
  /-- What happened in it. -/
  events : History Call
  /-- What came of it. -/
  result : Except Failure Report

/-- Whether a stage is over with a report. -/
def Part.Returned {Call : Type} (part : Part Call) : Prop := ∃ report, part.result = .ok report

/-- Whether stages followed each other after a history: each is a run of its program that began after all that was before, and none
came after one that failed. -/
inductive Consecutive {Call : Type} (w : World Call) (program : Stage → Program Call Report) :
    History Call → List (Part Call) → Prop where
  /-- There was no stage. -/
  | nil (h : History Call) : Consecutive w program h []
  /-- A stage failed, and nothing came after it. -/
  | failed {h events : History Call} {stage : Stage} {e : Failure}
      (hrun : (program stage).run w h = (h ++ events, .error e)) : Consecutive w program h [⟨stage, events, .error e⟩]
  /-- A stage returned, and the others came after it. -/
  | returned {h events : History Call} {stage : Stage} {report : Report} {rest : List (Part Call)}
      (hrun : (program stage).run w h = (h ++ events, .ok report)) (hrest : Consecutive w program (h ++ events) rest) :
      Consecutive w program h (⟨stage, events, .ok report⟩ :: rest)

/-- What happened in several stages. -/
def eventsOf {Call : Type} (parts : List (Part Call)) : History Call := parts.flatMap (·.events)

section

variable {Call : Type} {w : World Call} {program : Stage → Program Call Report}

/-- A run of stages in order is a sequence of them: all of them, each with its report, or those up to the first one that failed. -/
theorem run_inOrder (stages : List Stage) (h : History Call) :
    ∃ parts, Consecutive w program h parts ∧ ((inOrder program stages).run w h).1 = h ++ eventsOf parts ∧
      ((parts.map (·.stage) = stages ∧ (∀ part ∈ parts, part.Returned) ∧ ((inOrder program stages).run w h).2 = .ok ()) ∨
        ∃ earlier last e, parts = earlier ++ [last] ∧ parts.map (·.stage) <+: stages ∧ last.result = .error e ∧
          ((inOrder program stages).run w h).2 = .error e) := by
  induction stages generalizing h with
  | nil => exact ⟨[], .nil h, by simp [inOrder, Program.run, eventsOf], Or.inl ⟨rfl, nofun, rfl⟩⟩
  | cons stage rest ih =>
    obtain ⟨events, hevents, -, -⟩ := run_trace w (program stage) h
    cases hr : ((program stage).run w h).2 with
    | error e =>
      have hrun : (program stage).run w h = (h ++ events, .error e) := Prod.ext hevents hr
      have hall : (inOrder program (stage :: rest)).run w h = (h ++ events, .error e) := by
        rw [inOrder, run_bind, hrun]
      refine ⟨[⟨stage, events, .error e⟩], .failed hrun, by simp [hall, eventsOf], Or.inr ⟨[], _, e, rfl, ?_, rfl, by rw [hall]⟩⟩
      exact List.prefix_append [stage] rest
    | ok report =>
      have hrun : (program stage).run w h = (h ++ events, .ok report) := Prod.ext hevents hr
      have hall : (inOrder program (stage :: rest)).run w h = (inOrder program rest).run w (h ++ events) := by
        rw [inOrder, run_bind, hrun]
      obtain ⟨parts, hparts, hhistory, hend⟩ := ih (h ++ events)
      refine ⟨⟨stage, events, .ok report⟩ :: parts, .returned hrun hparts, by simp [hall, hhistory, eventsOf], ?_⟩
      rw [hall]
      rcases hend with ⟨rfl, hreturned, hok⟩ | ⟨earlier, last, e, rfl, hprefix, hlast, herror⟩
      · exact Or.inl ⟨rfl, List.forall_mem_cons.mpr ⟨⟨report, rfl⟩, hreturned⟩, hok⟩
      · refine Or.inr ⟨⟨stage, events, .ok report⟩ :: earlier, last, e, rfl, ?_, hlast, herror⟩
        exact List.cons_prefix_cons.mpr ⟨rfl, hprefix⟩

/-- What happened in a stage of a sequence is a trace of its program, and all of it is as the world has it. -/
theorem Consecutive.trace {h : History Call} {parts : List (Part Call)} (hc : Consecutive w program h parts) :
    ∀ part ∈ parts, (program part.stage).Trace part.events part.result ∧ ∀ event ∈ part.events, w.Yields event := by
  have hstage : ∀ {h events : History Call} {stage : Stage} {r : Except Failure Report},
      (program stage).run w h = (h ++ events, r) → (program stage).Trace events r ∧ ∀ event ∈ events, w.Yields event := by
    intro h events stage r hrun
    obtain ⟨added, hadded, ht, hy⟩ := run_trace w (program stage) h
    rw [hrun] at hadded ht
    obtain rfl := List.append_cancel_left hadded
    exact ⟨ht, hy⟩
  induction hc with
  | nil h => exact nofun
  | failed hrun => exact List.forall_mem_singleton.mpr (hstage hrun)
  | returned hrun _ ih => exact List.forall_mem_cons.mpr ⟨hstage hrun, ih⟩

end

/-! ## The lines of a stage -/

section

variable {Call : Type} {c : Configuration} {env : Environment} {b : Backend Call} {stage : Stage} {h : History Call}

/-- Over a plain backend, the lines of a stage that is over are those of its report. -/
theorem report_lines (hb : b.Plain) {report : Report} (ht : (stage.program c env b).Trace h (.ok report)) :
    report.lines = .ok h.lines := by
  cases stage with
  | diagnostic =>
    obtain ⟨r, hx, rfl⟩ := trace_bind_done_ok ht
    rcases trace_ofValue_bind hx with ⟨sizes, -, hrun⟩ | ⟨_, _, _, hx⟩
    · exact Section.Diagnostic.lines_of_trace hb hrun
    · cases hx
  | environment =>
    obtain ⟨r, hx, rfl⟩ := trace_bind_done_ok ht
    exact Section.Environment.lines_of_trace hb hx
  | compute =>
    obtain ⟨r, hx, rfl⟩ := trace_bind_done_ok ht
    exact Section.Compute.lines_of_trace hb hx

/-- Over a plain backend, a stage that fails leaves no line unless it is the diagnostic, as long as the sink takes every line. -/
theorem no_lines (hb : b.Plain) (hne : stage ≠ .diagnostic) {e : Failure} (ht : (stage.program c env b).Trace h (.error e))
    (hp : h.Printed) : h.lines = [] := by
  cases stage with
  | diagnostic => exact absurd rfl hne
  | environment =>
    obtain ⟨x, hx, hr⟩ := trace_bind_done ht
    cases x with
    | ok r => cases hr
    | error e => exact Section.Environment.no_lines_of_trace hb hx hp
  | compute =>
    obtain ⟨x, hx, hr⟩ := trace_bind_done ht
    cases x with
    | ok r => cases hr
    | error e => exact Section.Compute.no_lines_of_trace hb hx hp

end

end Session

end AccelProbe
