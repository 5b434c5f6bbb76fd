import AccelProbe.Proofs.Section.Founded
import AccelProbe.Proofs.Section.Records
import AccelProbe.Proofs.Session.Sequence

/-!
# The records of errors in a session

A stage of a session leaves a record of an error only where it fails, and then one: `Contained` says so of a history with its end.
A stage that fails is the last one, so what holds of each stage holds of all of them, and of the session.
-/

namespace AccelProbe

namespace Section

open Program

/-- Whether a record tells of an ordinary failure of a section over this accelerator. -/
def Tells (accelerator : String) (e : Failure) (report : LogRecord) : Prop :=
  e.isInterrupt = false ∧ ∃ text, e.message = .ok text ∧
    (report = Diagnostic.errorRecord accelerator text ∨ report = Compute.errorRecord accelerator text)

/-- Whether there is no record of an error in a history, or only one, which tells of the failure at its end. -/
def Contained {Call α : Type} (accelerator : String) (h : History Call) (r : Except Failure α) : Prop :=
  h.errors = [] ∨ ∃ e report, r = .error e ∧ Tells accelerator e report ∧ h.errors = [report]

/-- What reports the failures of some questions is contained. -/
theorem Reported.contained {α : Type} {Within : Query → Prop} {errorRecord : String → LogRecord} {h : History Query}
    {r : Except Failure α} {accelerator : String} (hr : Reported Within errorRecord h r)
    (htells : ∀ text, errorRecord text = Diagnostic.errorRecord accelerator text ∨
      errorRecord text = Compute.errorRecord accelerator text) : Contained accelerator h r := by
  by_cases hb : Blamed Within h r
  · obtain ⟨report, hreport⟩ := List.length_eq_one_iff.mp (hr.once hb)
    obtain ⟨-, -, e, text, -, -, hm, rfl, he⟩ := hr.last report (by simp [hreport])
    obtain ⟨-, e', -, -, hi, he'⟩ := hb
    obtain rfl := Except.error.inj (he'.symm.trans he)
    exact Or.inr ⟨e', _, he, ⟨hi, text, hm, htells text⟩, hreport⟩
  · exact Or.inl (hr.never hb)

/-- A failure stays contained when the result takes another form. -/
theorem Contained.map {Call α β : Type} {accelerator : String} {h : History Call} {r : Except Failure α}
    (hc : Contained accelerator h r) (f : α → β) : Contained accelerator h (r.map f) := by
  rcases hc with hnone | ⟨e, report, rfl, htells, hreport⟩
  · exact Or.inl hnone
  · exact Or.inr ⟨e, report, rfl, htells, hreport⟩

/-- What is contained stays so with its calls worked out. -/
theorem Contained.expands {Call Call' α : Type} {accelerator : String} {f : Call → Program Call' Value} {h : History Call}
    {h' : History Call'} {r : Except Failure α} (hc : Contained accelerator h r) (hf : ∀ c, (f c).Quiet)
    (he : Program.Expands f h h') : Contained accelerator h' r := by
  rw [Contained, he.errors hf]
  exact hc

section

variable {Call : Type} {b : Backend Call} {h : History Call}

/-- The diagnostic section over a plain backend is contained. -/
theorem Diagnostic.contained_of_trace {shape index : Value} {r : Except Failure DiagnosticReport} (hb : b.Plain)
    (ht : (run b shape index).Trace h r) : Contained b.accelerator h r := by
  rcases trace_ofValue_bind ht with ⟨sizes, -, ht⟩ | ⟨fault, -, rfl, -⟩
  · obtain ⟨_, hway, he⟩ := exists_way ht
    exact (hway.reported.contained fun _ => Or.inl rfl).expands hb.quiet he
  · exact Or.inl rfl

/-- The environment section over a plain backend has no record of an error. -/
theorem Environment.contained_of_trace {env : AccelProbe.Environment} {r : Except Failure EnvironmentReport} (hb : b.Plain)
    (ht : (run b env).Trace h r) : Contained b.accelerator h r := by
  have hq : ∀ q, (b.perform q).Every Event.Errorless := fun q => (hb.quiet q).every fun _ _ => trivial
  have hcount : ∀ count, (Event.logged (countRecord b.accelerator count) : Event Call).Errorless := fun _ =>
    (by decide : Level.debug ≠ Level.error)
  exact Or.inl (History.errors_eq_nil ((every_run hq (fun _ _ => trivial) hcount).trace ht))

/-- The compute section over a plain backend is contained. -/
theorem Compute.contained_of_trace {size index : Value} {r : Except Failure (Option ComputeReport)} (hb : b.Plain)
    (ht : (run b size index).Trace h r) : Contained b.accelerator h r := by
  obtain ⟨_, hway, he⟩ := exists_way ht
  exact (hway.reported.contained fun _ => Or.inr rfl).expands hb.quiet he

end

end Section

namespace Session

open Program Section

section

variable {Call : Type} {c : Configuration} {env : Environment} {b : Backend Call} {h : History Call}

/-- A stage over a plain backend is contained. -/
theorem Stage.contained {stage : Stage} {r : Except Failure Report} (hb : b.Plain) (ht : (stage.program c env b).Trace h r) :
    Contained b.accelerator h r := by
  cases stage with
  | diagnostic =>
    obtain ⟨x, hx, rfl⟩ := trace_bind_done ht
    exact (Diagnostic.contained_of_trace hb hx).map _
  | environment =>
    obtain ⟨x, hx, rfl⟩ := trace_bind_done ht
    exact (Environment.contained_of_trace hb hx).map _
  | compute =>
    obtain ⟨x, hx, rfl⟩ := trace_bind_done ht
    exact (Compute.contained_of_trace hb hx).map _

/-- Stages over a plain backend leave no record of an error, or the last one fails and leaves one. -/
theorem Consecutive.contained {w : World Call} {parts : List (Part Call)} (hb : b.Plain)
    (hc : Consecutive w (Stage.program c env b) h parts) :
    (eventsOf parts).errors = [] ∨ ∃ last e report, parts.getLast? = some last ∧ last.result = .error e ∧
      Tells b.accelerator e report ∧ (eventsOf parts).errors = [report] := by
  have hparts := hc.trace
  induction hc with
  | nil h => exact Or.inl rfl
  | @failed h events stage e hrun =>
    have hevents : eventsOf [(⟨stage, events, .error e⟩ : Part Call)] = events := by simp [eventsOf]
    rw [hevents]
    rcases Stage.contained hb (hparts _ List.mem_cons_self).1 with hnone | ⟨_, report, he, htells, hreport⟩
    · exact Or.inl hnone
    · cases he
      exact Or.inr ⟨_, e, report, rfl, rfl, htells, hreport⟩
  | @returned h events stage report rest hrun hrest ih =>
    have hevents : (eventsOf (⟨stage, events, .ok report⟩ :: rest)).errors = (eventsOf rest).errors := by
      rcases Stage.contained hb (hparts _ List.mem_cons_self).1 with hnone | ⟨_, _, he, -, -⟩
      · rw [eventsOf, List.flatMap_cons, History.errors_append, hnone]
        rfl
      · cases he
    rw [hevents]
    rcases ih fun part hm => hparts part (List.mem_cons_of_mem _ hm) with hnone | ⟨last, e, told, hlast, hrest⟩
    · exact Or.inl hnone
    · refine Or.inr ⟨last, e, told, ?_, hrest⟩
      rw [List.getLast?_cons, hlast]
      rfl

end

/-- A session with a backend leaves no record of an error, or one that tells of the failure at its end. -/
theorem Staged.contained {s : Surroundings} {c : Configuration} {o : Outcome} {loading : History LibraryCall}
    {b : Backend LibraryCall} {parts : List (Part LibraryCall)} (hs : Staged s c o loading b parts) (hb : b.Plain)
    (hloading : loading.errors = []) :
    o.history.errors = [] ∨ ∃ e report, o.ending = .failed e ∧ Tells b.accelerator e report ∧ o.history.errors = [report] := by
  have hparts := hs.consecutive.contained hb
  rcases hs.ended with ⟨-, hreturned, -, hhistory⟩ | ⟨earlier, last, e, hlast, hresult, hending, hhistory⟩
  · have hdone : History.errors ([.logged (completedRecord s.loggerName)] : History LibraryCall) = [] :=
      History.errors_eq_nil (List.forall_mem_singleton.mpr (by decide : Level.info ≠ Level.error))
    rw [hhistory, History.errors_append, History.errors_append, hloading, hdone, List.append_nil, List.nil_append]
    rcases hparts with hnone | ⟨failed, e, -, hfailed, he, -, -⟩
    · exact Or.inl hnone
    · obtain ⟨report, hreport⟩ := hreturned failed (List.mem_of_getLast? hfailed)
      cases he.symm.trans hreport
  · rw [hhistory, History.errors_append, hloading, List.nil_append]
    rcases hparts with hnone | ⟨failed, e', report, hfailed, he, htells, hreport⟩
    · exact Or.inl hnone
    · rw [hlast, List.getLast?_append, List.getLast?_singleton, Option.some_or] at hfailed
      cases hfailed
      obtain rfl := Except.error.inj (hresult.symm.trans he)
      exact Or.inr ⟨e, report, hending, htells, hreport⟩

/-- A session leaves no record of an error, or one that tells of the failure at its end. -/
theorem contained_run (s : Surroundings) (words : List String) :
    let o := run s words
    o.history.errors = [] ∨ ∃ version l e report, o.ending = .failed e ∧
      Tells (Backend.loaded version l).accelerator e report ∧ o.history.errors = [report] := by
  dsimp only
  cases hargs : Arguments.ofTexts words with
  | error stop =>
    rw [run, hargs]
    exact Or.inl rfl
  | ok args =>
    cases hc : Configuration.build s.files args with
    | error fault =>
      rw [run, hargs]
      dsimp only
      rw [hc]
      exact Or.inl rfl
    | ok c =>
      obtain ⟨base, hbase, rfl, -⟩ := Configuration.base_of_build hc
      have hloading (l : Library) (reply : Reply) : History.errors
          ([.logged (Backend.loadingRecord l), .called (Backend.loadCall (run s words).host l) reply] : History LibraryCall) = [] :=
        History.errors_eq_nil (List.forall_mem_cons.mpr
          ⟨(by decide : Level.debug ≠ Level.error), List.forall_mem_singleton.mpr trivial⟩)
      rcases backend_of_override hbase (Arguments.proper_of_ofTexts hargs) with ⟨l, hl⟩ | ⟨-, hl⟩
      · rcases run_of_library hargs hc hl with ⟨e, hunloaded⟩ | ⟨version, parts, hstaged⟩
        · rw [hunloaded.history]
          exact Or.inl (hloading l _)
        · rcases hstaged.contained (Backend.plain_loaded version l) (hloading l _) with hnone | ⟨e, report, hreport⟩
          · exact Or.inl hnone
          · exact Or.inr ⟨version, l, e, report, hreport⟩
      · rw [(run_of_no_library hargs hc hl).history]
        exact Or.inl rfl

/-- A section leaves exactly one record of an error where it ends with an ordinary failure of the questions that it asks to allocate or
to multiply, and none otherwise.

The record comes last, names the accelerator and tells the wording of the failure, which leaves the section as it is; the failures of
all other questions and of the sink pass without a record. Over a typed library nothing else can fail, as long as the sizes and the
index can be written. A session leaves at most one such record, of the failure at its end. -/
theorem errors_reported :
    (∀ (w : World Query) (before : History Query) (library accelerator : String) (shape index : Value),
      let result := (Diagnostic.run (.direct library accelerator) shape index).run w before
      ∃ added, result.1 = before ++ added ∧
        Reported Diagnostic.Allocates (Diagnostic.errorRecord accelerator) added result.2 ∧
        (w.Typed → (∃ sizes, shape.items = .ok sizes ∧ ∀ size ∈ sizes, size.isWritable = true) → index.isWritable = true →
          Founded added result.2)) ∧
    (∀ (w : World Query) (before : History Query) (library accelerator : String) (size index : Value),
      let result := (Compute.run (.direct library accelerator) size index).run w before
      ∃ added, result.1 = before ++ added ∧
        Reported Compute.Multiplies (Compute.errorRecord accelerator) added result.2 ∧
        (w.Typed → size.isWritable = true → index.isWritable = true → Founded added result.2)) ∧
    ∀ (s : Surroundings) (words : List String),
      let o := run s words
      o.history.errors = [] ∨ ∃ version l e report, o.ending = .failed e ∧
        Tells (Backend.loaded version l).accelerator e report ∧ o.history.errors = [report] := by
  refine ⟨?_, ?_, contained_run⟩
  · intro w before library accelerator shape index result
    obtain ⟨added, hadded, ht, hy⟩ := run_trace w (Diagnostic.run (.direct library accelerator) shape index) before
    refine ⟨added, hadded, ?_⟩
    rcases trace_ofValue_bind ht with ⟨sizes, hsizes, ht⟩ | ⟨fault, hf, rfl, -⟩
    · have hway := Diagnostic.trace_runWith ht
      refine ⟨hway.reported, ?_⟩
      rintro hw ⟨sizes', hsizes', hwritable⟩ hindex
      obtain rfl := Except.ok.inj (hsizes.symm.trans hsizes')
      exact hway.founded hw hy hwritable hindex
    · refine ⟨.of_calm .nil, ?_⟩
      rintro - ⟨sizes, hsizes, -⟩ -
      cases hf.symm.trans hsizes
  · intro w before library accelerator size index result
    obtain ⟨added, hadded, ht, hy⟩ := run_trace w (Compute.run (.direct library accelerator) size index) before
    have hway := Compute.trace_run ht
    exact ⟨added, hadded, hway.reported, fun hw hsize hindex => hway.founded hw hy hsize hindex⟩

/-- A library with an accelerator that has memory for a matrix, and none for its product. -/
def strained : World Query where
  answer := fun _ => fun
    | .version => .ok (.str "2.4.0")
    | .isAvailable => .ok (.bool true)
    | .deviceCount => .ok (.int 1)
    | .matmulTransposed _ => .error (.raised ⟨"RuntimeError", .ordinary, [.str "out of memory"]⟩)
    | .statistics _ => .ok (.dictionary [("Mean", .float .zero)])
    | .formatTensor _ => .ok (.str "zeros")
    | .buildInfo => .ok (.dictionary [])
    | .deviceNames => .ok (.list [])
    | .randomTensor _ | .toAccelerator .. | .toHost _ => .ok (.tensor [.int 2, .int 2] (.str "cuda:0") "zeros")
  take := fun _ _ => .ok ()

/-- The library answers with what the questions ask for. -/
theorem strained_typed : strained.Typed where
  writable h q := by
    cases q with
    | matmulTransposed tensor => exact ⟨"out of memory", rfl⟩
    | _ => rfl
  copied h tensor copy hcopy := by
    cases hcopy
    exact ⟨_, rfl, by decide⟩
  measured h tensor statistics hstatistics := by
    cases hstatistics
    exact ⟨_, rfl, by simp⟩

/-- On such an accelerator the diagnostic section leaves no record of an error, and the compute section one, of the product. -/
theorem errors_reported_strained :
    strained.Typed ∧
    (let result := (Diagnostic.run (.direct "Torch" "CUDA") Diagnostic.standardShape (.int 0)).run strained []
      ∃ added, result.1 = [] ++ added ∧ Reported Diagnostic.Allocates (Diagnostic.errorRecord "CUDA") added result.2 ∧
        Founded added result.2 ∧ added.errors = []) ∧
    let result := (Compute.run (.direct "Torch" "CUDA") (.int 2) (.int 0)).run strained []
      ∃ added, result.1 = [] ++ added ∧ Reported Compute.Multiplies (Compute.errorRecord "CUDA") added result.2 ∧
        Founded added result.2 ∧ added.errors = [Compute.errorRecord "CUDA" "out of memory"] := by
  refine ⟨strained_typed, ?_, ?_⟩
  · intro result
    obtain ⟨added, hadded, hreported, hfounded⟩ :=
      errors_reported.1 strained [] "Torch" "CUDA" Diagnostic.standardShape (.int 0)
    refine ⟨added, hadded, hreported, hfounded strained_typed ⟨_, rfl, by decide⟩ (by decide), ?_⟩
    rw [← List.nil_append added, ← hadded]
    rfl
  · intro result
    obtain ⟨added, hadded, hreported, hfounded⟩ := errors_reported.2.1 strained [] "Torch" "CUDA" (.int 2) (.int 0)
    refine ⟨added, hadded, hreported, hfounded strained_typed (by decide) (by decide), ?_⟩
    rw [← List.nil_append added, ← hadded]
    rfl

end Session

end AccelProbe
