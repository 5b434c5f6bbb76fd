import AccelProbe.Proofs.CommandLine.Arguments
import AccelProbe.Proofs.Configuration.Loading
import AccelProbe.Proofs.Session.Completion

/-!
# What a configured session does

A session that has a configuration loads one library and then runs the stages that are asked for, in order, until one of them fails.
`Staged` says what the stages are to the outcome of the session: its history, its output and its ending are theirs.
-/

namespace AccelProbe

namespace Session

open Program

/-- What several lines leave on standard output. -/
def textOf (lines : List Value) : String := String.join (lines.map fun line => line.display ++ "\n")

/-- What the stages of a session are to its outcome, once a backend is there. -/
structure Staged (s : Surroundings) (c : Configuration) (o : Outcome) (loading : History LibraryCall)
    (b : Backend LibraryCall) (parts : List (Part LibraryCall)) : Prop where
  /-- The stages followed each other, all on the same backend, after it was loaded. -/
  consecutive : Consecutive (world s) (Stage.program c o.host.environment b) loading parts
  /-- They are the first of those that were asked for, in the same order. -/
  asked : parts.map (·.stage) <+: requested c
  /-- A stage that returned has written the lines of its report. -/
  reported : ∀ part ∈ parts, ∀ report, part.result = .ok report → report.lines = .ok part.events.lines
  /-- A stage that failed has written no line, unless it is the diagnostic. -/
  silent : ∀ part ∈ parts, ∀ e, part.result = .error e → part.stage ≠ .diagnostic → part.events.lines = []
  /-- Standard output has the lines of the stages and nothing else. -/
  output : o.output = textOf (parts.flatMap fun part => part.events.lines)
  /-- The session says that it is done exactly when every stage that was asked for returned. -/
  completed : completedRecord s.loggerName ∈ o.history.records ↔
    parts.map (·.stage) = requested c ∧ ∀ part ∈ parts, part.Returned
  /-- All stages returned and the session is finished, or the last one failed and the session ends with its failure. -/
  ended : (parts.map (·.stage) = requested c ∧ (∀ part ∈ parts, part.Returned) ∧ o.ending = .finished ∧
      o.history = loading ++ eventsOf parts ++ [.logged (completedRecord s.loggerName)]) ∨
    ∃ earlier last e, parts = earlier ++ [last] ∧ last.result = .error e ∧ o.ending = .failed e ∧
      o.history = loading ++ eventsOf parts

/-- A session that has no backend because its library could not be loaded: the failure of the loading is the end. -/
structure Unloaded (s : Surroundings) (o : Outcome) (loading : History LibraryCall) (e : Failure) : Prop where
  /-- The session ends with the failure. -/
  ending : o.ending = .failed e
  /-- Nothing happened but the loading. -/
  history : o.history = loading
  /-- Nothing was written. -/
  output : o.output = ""
  /-- The session does not say that it is done. -/
  completed : completedRecord s.loggerName ∉ o.history.records

/-! ## The stages that are asked for -/

/-- The environment report is asked for by the document or by the command line. -/
theorem environment_mem_requested_iff {base : Configuration} {args : Arguments} (hbase : base.Normal) (hargs : args.Proper) :
    .environment ∈ requested (base.override args) ↔ base.reportEnvironment = .bool true ∨ args.environment = .bool true := by
  obtain ⟨given, hgiven⟩ := hbase.reportEnvironment
  obtain ⟨asked, hasked⟩ := hargs.environment
  have hflag : (base.override args).reportEnvironment.isTruthy = (given || asked) := by
    unfold Configuration.override
    simp only [hasked]
    cases args.backend.isNull <;> cases args.compute.isTruthy <;> cases asked <;> simp [Value.isTruthy, hgiven]
  unfold requested
  rw [hflag, hgiven, hasked]
  cases (base.override args).checkCompute.isTruthy <;> cases given <;> cases asked <;> simp

/-- The compute check is asked for by the document or by the command line. -/
theorem compute_mem_requested_iff {base : Configuration} {args : Arguments} (hbase : base.Normal) (hargs : args.Proper) :
    .compute ∈ requested (base.override args) ↔ base.checkCompute = .bool true ∨ args.compute = .bool true := by
  obtain ⟨given, hgiven⟩ := hbase.checkCompute
  obtain ⟨asked, hasked⟩ := hargs.compute
  have hflag : (base.override args).checkCompute.isTruthy = (given || asked) := by
    unfold Configuration.override
    simp only [hasked]
    cases args.backend.isNull <;> cases args.environment.isTruthy <;> cases asked <;> simp [Value.isTruthy, hgiven]
  unfold requested
  rw [hflag, hgiven, hasked]
  cases (base.override args).reportEnvironment.isTruthy <;> cases given <;> cases asked <;> simp

/-- The library of a session is that of its command line, or else that of its document. -/
theorem backend_of_override {base : Configuration} {args : Arguments} (hbase : base.Normal) (hargs : args.Proper) :
    (∃ l, (base.override args).backend = .str (Library.key l)) ∨
      args.backend = .list [] ∧ (base.override args).backend = .list [] := by
  have hb : (base.override args).backend = if args.backend.isNull then base.backend else args.backend := by
    unfold Configuration.override
    cases args.backend.isNull <;> cases args.environment.isTruthy <;> cases args.compute.isTruthy <;> rfl
  obtain ⟨l, hl⟩ := hbase.backend
  rw [hb]
  rcases hargs.backend with hnull | ⟨l', hl'⟩ | hlist
  · exact Or.inl ⟨l, by rw [hnull, ← hl]; rfl⟩
  · exact Or.inl ⟨l', by rw [hl']; rfl⟩
  · exact Or.inr ⟨hlist, by rw [hlist]; rfl⟩

/-- The backend of a session is a library, unless two hyphens stand in its place. -/
theorem backend_of_build {fs : FileSystem} {words : List String} {args : Arguments} {c : Configuration}
    (hargs : Arguments.ofTexts words = .ok args) (hc : Configuration.build fs args = .ok c) :
    (∃ l, c.backend = .str (Library.key l)) ∨ c.backend = .list [] := by
  obtain ⟨base, hbase, rfl, -⟩ := Configuration.base_of_build hc
  rcases backend_of_override hbase (Arguments.proper_of_ofTexts hargs) with hl | ⟨-, hl⟩
  · exact Or.inl hl
  · exact Or.inr hl

/-! ## From the program of a session to its stages -/

/-- The ending of a configured session whose program came to this. -/
def endingOf : Except Failure Unit → Ending
  | .ok () => .finished
  | .error e => .failed e

/-- The outcome of a configured session on a host that it prepared, whose program came to this. -/
def outcomeOf (host : Host) (result : History LibraryCall × Except Failure Unit) : Outcome where
  ending := endingOf result.2
  host := host
  history := result.1

/-- The log can be set up with the level of a configuration that was built. -/
theorem setUp_of_build {fs : FileSystem} {args : Arguments} {c : Configuration} (hc : Configuration.build fs args = .ok c)
    (logging : Logging) : (∃ level ∈ Level.choices, c.logLevel = .str level) ∧
      ∃ prepared, logging.setUp c.logLevel = (prepared, none) := by
  obtain ⟨base, hbase, rfl, -⟩ := Configuration.base_of_build hc
  have hlevel : (base.override args).logLevel = base.logLevel := by
    unfold Configuration.override
    cases args.backend.isNull <;> cases args.environment.isTruthy <;> cases args.compute.isTruthy <;> rfl
  rw [hlevel]
  exact ⟨hbase.logLevel, hbase.setUp_eq logging⟩

/-- A session whose log was set up runs its program. -/
theorem run_of_setUp {s : Surroundings} {words : List String} {args : Arguments} {c : Configuration} {logging : Logging}
    (hargs : Arguments.ofTexts words = .ok args) (hc : Configuration.build s.files args = .ok c)
    (hlogging : s.host.logging.setUp c.logLevel = (logging, none)) :
    run s words = outcomeOf (configured s.loggerName c { s.host with logging }).1
      ((configured s.loggerName c { s.host with logging }).2.run (world s) []) := by
  rw [run, hargs]
  dsimp only
  rw [hc]
  dsimp only
  rw [runConfigured, hlogging]
  dsimp only
  generalize (configured s.loggerName c { s.host with logging }).2.run (world s) [] = result
  obtain ⟨history, r⟩ := result
  cases r with
  | ok => rfl
  | error e => rfl

/-- A session that has a configuration sets up the log and runs its program. -/
theorem run_eq_outcomeOf {s : Surroundings} {words : List String} {args : Arguments} {c : Configuration}
    (hargs : Arguments.ofTexts words = .ok args) (hc : Configuration.build s.files args = .ok c) :
    ∃ logging, run s words = outcomeOf (configured s.loggerName c { s.host with logging }).1
      ((configured s.loggerName c { s.host with logging }).2.run (world s) []) := by
  obtain ⟨-, logging, hlogging⟩ := setUp_of_build hc s.host.logging
  exact ⟨logging, run_of_setUp hargs hc hlogging⟩

/-- The library of its own name is found under that name. -/
theorem library?_key (l : Library) : Backend.library? (.str l.key) = .ok l := by
  cases l <;> rfl

/-- The session of a library: what it is loaded with, and the program of the session. -/
theorem configured_eq (loggerName : String) {c : Configuration} {l : Library} (hl : c.backend = .str l.key) (h : Host) :
    configured loggerName c h = (Backend.prepare h l, (Backend.load (Backend.prepare h l) l).bind fun b =>
      (inOrder (Stage.program c (Backend.prepare h l).environment b) (requested c)).bind fun _ =>
        note (completedRecord loggerName)) := by
  unfold configured Backend.create
  rw [hl, library?_key]
  simp only [sections_eq_inOrder, bind_eq]

/-- A session with an empty list in place of a backend has nothing to load. -/
theorem configured_of_list (loggerName : String) {c : Configuration} (hl : c.backend = .list []) (h : Host) :
    configured loggerName c h = (h, fail (.value (.noAttribute "list" "lower"))) := by
  unfold configured Backend.create
  rw [hl]
  rfl

/-- The program of a session of a library: the library is loaded by one call, and the stages are run on its backend. -/
theorem configured_program (loggerName : String) {c : Configuration} {l : Library} (hl : c.backend = .str l.key) (h : Host) :
    (configured loggerName c h).2 = (note (Backend.loadingRecord l)).bind fun _ =>
      (ask (Backend.loadCall (Backend.prepare h l) l)).bind fun version =>
        (inOrder (Stage.program c (Backend.prepare h l).environment (Backend.loaded version l)) (requested c)).bind fun _ =>
          note (completedRecord loggerName) := by
  rw [configured_eq loggerName hl, Backend.load_eq]
  simp only [bind_assoc, pure_bind]

/-- What holds of the loading of a library, of all that its backend does, of every line and of the records holds of every event of a
session of that library. -/
theorem every_configured {P : Event LibraryCall → Prop} {loggerName : String} {c : Configuration} {l : Library}
    (hl : c.backend = .str l.key) {h : Host} (hload : P (.logged (Backend.loadingRecord l)))
    (hcall : ∀ reply, P (.called (Backend.loadCall (Backend.prepare h l) l) reply))
    (hb : ∀ version q, ((Backend.loaded version l).perform q).Every P) (hline : ∀ line taken, P (.wrote line taken))
    (hlogs : ∀ version record, Stage.Logs c (Backend.loaded version l) record → P (.logged record))
    (hdone : P (.logged (completedRecord loggerName))) : (configured loggerName c h).2.Every P := by
  rw [configured_program loggerName hl]
  refine (every_note hload).bind fun _ => (every_ask hcall).bind fun version => ?_
  exact (every_inOrder (Stage.every_program (hb version) hline (hlogs version)) _).bind fun _ => every_note hdone

/-- The records of what happened in stages over a plain backend do not say that the session is done. -/
theorem completedRecord_notMem {s : Surroundings} {c : Configuration} {env : Environment} {b : Backend LibraryCall}
    (hb : b.Plain) {loading : History LibraryCall} {parts : List (Part LibraryCall)}
    (hc : Consecutive (world s) (Stage.program c env b) loading parts) :
    .logged (completedRecord s.loggerName) ∉ eventsOf parts := by
  intro hm
  obtain ⟨part, hpart, hevent⟩ := List.mem_flatMap.mp hm
  exact (unfinished_program hb part.stage).trace (hc.trace part hpart).1 _ hevent rfl

/-- What a configured session writes is what the lines of its history leave. -/
theorem output_outcomeOf (host : Host) (result : History LibraryCall × Except Failure Unit) :
    (outcomeOf host result).output = textOf result.1.lines := by
  obtain ⟨history, r⟩ := result
  cases r <;> rfl

/-- Standard output takes every line of a session. -/
theorem printed_of_yields {s : Surroundings} {h : History LibraryCall} (hy : ∀ event ∈ h, (world s).Yields event) :
    h.Printed := by
  intro line taken hm
  obtain ⟨_, rfl⟩ := hy _ hm
  rfl

/-- The lines of stages are those of each, one after the other. -/
theorem lines_eventsOf {Call : Type} (parts : List (Part Call)) :
    History.lines (eventsOf parts) = parts.flatMap fun part => part.events.lines := by
  induction parts with
  | nil => rfl
  | cons part parts ih => rw [eventsOf, List.flatMap_cons, History.lines_append, ← eventsOf, ih, List.flatMap_cons]

/-- A session whose library could not be loaded ends there. -/
theorem unloaded_of_run {s : Surroundings} {o : Outcome} {host : Host} {loading : History LibraryCall} {e : Failure}
    (ho : o = outcomeOf host (loading, .error e)) (hlines : loading.lines = [])
    (hrecords : completedRecord s.loggerName ∉ loading.records) : Unloaded s o loading e := by
  subst ho
  refine ⟨rfl, rfl, ?_, hrecords⟩
  rw [output_outcomeOf]
  exact (congrArg textOf hlines).trans rfl

/-- A session whose library could be loaded is the sequence of its stages. -/
theorem staged_of_run {s : Surroundings} {c : Configuration} {o : Outcome} {host : Host} {loading : History LibraryCall}
    {b : Backend LibraryCall} (hb : b.Plain) (hlines : loading.lines = [])
    (hloading : .logged (completedRecord s.loggerName) ∉ loading)
    (ho : o = outcomeOf host (((inOrder (Stage.program c host.environment b) (requested c)).bind fun _ =>
      note (completedRecord s.loggerName)).run (world s) loading)) : ∃ parts, Staged s c o loading b parts := by
  obtain ⟨parts, hparts, hhistory, hend⟩ :=
    @run_inOrder _ (world s) (Stage.program c host.environment b) (requested c) loading
  have hreported : ∀ part ∈ parts, ∀ report, part.result = .ok report → report.lines = .ok part.events.lines := by
    intro part hpart report hresult
    have ht := (hparts.trace part hpart).1
    rw [hresult] at ht
    exact report_lines hb ht
  have hsilent : ∀ part ∈ parts, ∀ e, part.result = .error e → part.stage ≠ .diagnostic → part.events.lines = [] := by
    intro part hpart e hresult hne
    obtain ⟨ht, hy⟩ := hparts.trace part hpart
    rw [hresult] at ht
    exact no_lines hb hne ht (printed_of_yields hy)
  have hbefore : .logged (completedRecord s.loggerName) ∉ loading ++ eventsOf parts := fun hm =>
    (List.mem_append.mp hm).elim hloading (completedRecord_notMem hb hparts)
  refine ⟨parts, ?_⟩
  rcases hend with ⟨hstages, hreturned, hok⟩ | ⟨earlier, last, e, hlast, hprefix, hfailed, herror⟩
  · have hrun : (inOrder (Stage.program c host.environment b) (requested c)).run (world s) loading =
        (loading ++ eventsOf parts, .ok ()) := Prod.ext hhistory hok
    rw [run_bind, hrun] at ho
    have hnote : o = outcomeOf host (loading ++ eventsOf parts ++ [.logged (completedRecord s.loggerName)], .ok ()) := ho
    subst hnote
    refine ⟨hparts, hstages ▸ List.prefix_rfl, hreported, hsilent, ?_, ?_, Or.inl ⟨hstages, hreturned, rfl, rfl⟩⟩
    · rw [output_outcomeOf, History.lines_append, History.lines_append, hlines, lines_eventsOf]
      exact congrArg textOf (List.append_nil _)
    · exact ⟨fun _ => ⟨hstages, hreturned⟩, fun _ => History.mem_records_iff.mpr (by simp [outcomeOf])⟩
  · have hrun : (inOrder (Stage.program c host.environment b) (requested c)).run (world s) loading =
        (loading ++ eventsOf parts, .error e) := Prod.ext hhistory herror
    rw [run_bind, hrun] at ho
    have hstop : o = outcomeOf host (loading ++ eventsOf parts, .error e) := ho
    subst hstop
    refine ⟨hparts, hprefix, hreported, hsilent, ?_, ?_, Or.inr ⟨earlier, last, e, hlast, hfailed, rfl, rfl⟩⟩
    · rw [output_outcomeOf, History.lines_append, hlines, lines_eventsOf]
      rfl
    · refine ⟨fun hm => absurd (History.mem_records_iff.mp hm) hbefore, fun ⟨_, hreturned⟩ => ?_⟩
      obtain ⟨report, hreport⟩ := hreturned last (by simp [hlast])
      cases hfailed.symm.trans hreport

/-- What a session whose library has this name does: it loads the library, and runs its stages where that did not fail. -/
theorem run_of_library {s : Surroundings} {words : List String} {args : Arguments} {c : Configuration} {l : Library}
    (hargs : Arguments.ofTexts words = .ok args) (hc : Configuration.build s.files args = .ok c)
    (hl : c.backend = .str l.key) :
    let o := run s words
    (∃ e, Unloaded s o [.logged (Backend.loadingRecord l), .called (Backend.loadCall o.host l) (.error e)] e) ∨
      ∃ version parts, Staged s c o
        [.logged (Backend.loadingRecord l), .called (Backend.loadCall o.host l) (.ok version)] (Backend.loaded version l) parts := by
  obtain ⟨logging, hrun⟩ := run_eq_outcomeOf hargs hc
  rw [configured_eq s.loggerName hl] at hrun
  dsimp only at hrun
  generalize Backend.prepare { s.host with logging } l = host at hrun
  have hhost : (run s words).host = host := by rw [hrun]; rfl
  obtain ⟨added, hadded, ht, -⟩ := run_trace (world s) (Backend.load host l) []
  obtain ⟨reply, rfl, hr⟩ := Backend.trace_load ht
  have hload : (Backend.load host l).run (world s) [] =
      ([.logged (Backend.loadingRecord l), .called (Backend.loadCall host l) reply],
        reply.map fun version => Backend.loaded version l) := Prod.ext hadded hr
  rw [run_bind, hload] at hrun
  have hloading : ∀ reply, .logged (completedRecord s.loggerName) ∉
      ([.logged (Backend.loadingRecord l), .called (Backend.loadCall host l) reply] : History LibraryCall) := by
    intro reply hm
    simp only [List.mem_cons, List.not_mem_nil, or_false, reduceCtorEq, Event.logged.injEq] at hm
    have hmessage : "Loading " ++ l.key ++ " backend" = "Diagnostic completed." := (congrArg LogRecord.message hm).symm
    rw [String.append_assoc] at hmessage
    exact append_ne (by decide) hmessage
  dsimp only
  rw [hhost]
  cases reply with
  | error e =>
    exact Or.inl ⟨e, unloaded_of_run hrun rfl fun hm => hloading _ (History.mem_records_iff.mp hm)⟩
  | ok version =>
    obtain ⟨parts, hparts⟩ := staged_of_run (Backend.plain_loaded version l) rfl (hloading _) hrun
    exact Or.inr ⟨version, parts, hparts⟩

/-- A session whose command line left an empty list in place of a backend ends before anything is loaded. -/
theorem run_of_no_library {s : Surroundings} {words : List String} {args : Arguments} {c : Configuration}
    (hargs : Arguments.ofTexts words = .ok args) (hc : Configuration.build s.files args = .ok c)
    (hl : c.backend = .list []) : Unloaded s (run s words) [] (.value (.noAttribute "list" "lower")) := by
  obtain ⟨logging, hrun⟩ := run_eq_outcomeOf hargs hc
  rw [configured_of_list s.loggerName hl] at hrun
  exact unloaded_of_run hrun rfl nofun

/-- A session that has a configuration loads its library with one call. Where that fails, the failure is the end of the session as it
is: no stage is run and nothing is written. Else the session runs the diagnostic, and then the environment report and the compute
check exactly where the document or the command line asks for them, all on one backend, in this order, and until one of them fails.
What is written is what they wrote, and the failure is the end of the session as it is. Nothing is said of a command line with two
hyphens in place of the library. -/
theorem run_stages (s : Surroundings) (words : List String) (args : Arguments) (c : Configuration)
    (hargs : Arguments.ofTexts words = .ok args) (hc : Configuration.build s.files args = .ok c) (hb : args.backend ≠ .list []) :
    (∃ base, (if args.config.isNull then base = Configuration.standard else Configuration.load s.files args.config = .ok base) ∧
      c = base.override args ∧
      (.environment ∈ requested c ↔ base.reportEnvironment = .bool true ∨ args.environment = .bool true) ∧
      (.compute ∈ requested c ↔ base.checkCompute = .bool true ∨ args.compute = .bool true)) ∧
    let o := run s words
    ∃ l, c.backend = .str (Library.key l) ∧
      ((∃ e, Unloaded s o [.logged (Backend.loadingRecord l), .called (Backend.loadCall o.host l) (.error e)] e) ∨
        ∃ version parts, Staged s c o
          [.logged (Backend.loadingRecord l), .called (Backend.loadCall o.host l) (.ok version)]
          (Backend.loaded version l) parts) := by
  obtain ⟨base, hbase, rfl, hfrom⟩ := Configuration.base_of_build hc
  have hproper := Arguments.proper_of_ofTexts hargs
  refine ⟨⟨base, hfrom, rfl, environment_mem_requested_iff hbase hproper, compute_mem_requested_iff hbase hproper⟩, ?_⟩
  rcases backend_of_override hbase hproper with ⟨l, hl⟩ | ⟨hlist, -⟩
  · exact ⟨l, hl, run_of_library hargs hc hl⟩
  · exact absurd hlist hb

/-- A Torch with one device, on which its tensors lie once they are moved there. -/
def capable : TorchCall → Value
  | .load _ => .str "2.4.0"
  | .deviceCount => .int 1
  | .deviceName _ => .str "Left GPU"
  | .rand sizes => .tensor sizes (.str "cpu") "tensor([[0.5]])"
  | .cuda _ _ => .tensor [.int 2, .int 3] (.str "cuda:0") "tensor([[0.5]], device='cuda:0')"
  | .transpose _ | .matmul _ _ => .tensor [.int 1000, .int 1000] (.str "cuda:0") "tensor([[0.25]], device='cuda:0')"
  | .cpu _ => .tensor [.int 1000, .int 1000] (.str "cpu") "tensor([[0.25]])"
  | .mean _ | .max _ | .min _ => .int 1
  | _ => .bool true

/-- Surroundings without files, in which Torch answers so and TensorFlow is not looked for. -/
def ready : Surroundings where
  files := fun _ => none
  host := {}
  libraries := fun _ => fun
    | .torch c => .ok (capable c)
    | .tensorflow _ => .ok .null

/-- What a session with all sections writes there. -/
def readyOutput : String :=
  "Torch Version: 2.4.0\nCUDA Available: true\nCUDA Device Count: 1\nCreated CUDA tensor successfully!\n" ++
    "tensor([[0.5]], device='cuda:0')\n=== Environment ===\nCUDA_VISIBLE_DEVICES: <unset>\nCUDA_HOME: <unset>\n" ++
    "LD_LIBRARY_PATH: <unset>\nPYTORCH_CUDA_ALLOC_CONF: <unset>\nTF_CPP_MIN_LOG_LEVEL: <unset>\n=== Build ===\n" ++
    "cuDNN Available: true\nBuilt With CUDA: true\nBuilt With MKL: true\nMPS Available: true\n=== Devices ===\n" ++
    "Device 0: Left GPU\n=== Compute Check ===\nMatrix Multiplication: 1000x1000 on CUDA device 0\n" ++
    "Result Shape: 1000x1000\nMean: 1.0000\nMax: 1.0000\nMin: 1.0000\nCUDA compute check passed!\n"

/-- A session that is asked for everything runs its three stages there, and their lines are what is written. -/
theorem run_stages_ready :
    let words := ["-e", "--compute"]
    let args : Arguments := { environment := .bool true, compute := .bool true }
    let o := run ready words
    o.output = readyOutput ∧ Arguments.ofTexts words = .ok args ∧
      ∃ c, Configuration.build ready.files args = .ok c ∧ requested c = [.diagnostic, .environment, .compute] ∧
        args.backend ≠ .list [] ∧ c.backend = .str (Library.key .torch) ∧
        ∃ version parts, Staged ready c o
          [.logged (Backend.loadingRecord .torch), .called (Backend.loadCall o.host .torch) (.ok version)]
          (Backend.loaded version .torch) parts := by
  intro words args o
  have houtput : o.output = readyOutput := by decide +kernel
  have hbackend : args.backend ≠ .list [] := nofun
  refine ⟨houtput, rfl, _, rfl, rfl, hbackend, rfl, ?_⟩
  obtain ⟨-, l, hl, hrun⟩ := run_stages ready words args _ rfl rfl hbackend
  obtain rfl : l = .torch := by
    cases l with
    | torch => rfl
    | tensorflow => exact absurd (Value.str.inj hl) (by decide)
  rcases hrun with ⟨e, hunloaded⟩ | hstaged
  · exact absurd (houtput.symm.trans hunloaded.output) (by decide +kernel)
  · exact hstaged

/-- The failure to find Torch. -/
def missingTorch : Failure := .raised ⟨"ModuleNotFoundError", .ordinary, [.str "No module named 'torch'"]⟩

/-- Surroundings without files and without Torch. -/
def torchless : Surroundings where
  files := fun _ => none
  host := {}
  libraries := fun _ _ => .error missingTorch

/-- Two sessions that have a configuration and do not come to the diagnostic it asks for: one of them finds two hyphens in place of its
library, the other one no library to load. Not even the first call to a backend is made, and no line is written. -/
theorem run_without_stages :
    (∃ args c, Arguments.ofTexts ["-b--"] = .ok args ∧ Configuration.build ready.files args = .ok c ∧ requested c = [.diagnostic] ∧
        Unloaded ready (run ready ["-b--"]) [] (.value (.noAttribute "list" "lower"))) ∧
      ∃ args c, Arguments.ofTexts [] = .ok args ∧ Configuration.build torchless.files args = .ok c ∧ requested c = [.diagnostic] ∧
        Unloaded torchless (run torchless [])
          [.logged (Backend.loadingRecord .torch), .called (.torch (.load none)) (.error missingTorch)] missingTorch := by
  refine ⟨⟨_, _, rfl, rfl, rfl, run_of_no_library rfl rfl rfl⟩, _, _, rfl, rfl, rfl, ?_⟩
  exact ⟨rfl, rfl, rfl, by decide +kernel⟩

end Session

end AccelProbe
