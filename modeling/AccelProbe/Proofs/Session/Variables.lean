import AccelProbe.Proofs.Program.Alike
import AccelProbe.Proofs.Section.Variables
import AccelProbe.Proofs.Session.Devices
import AccelProbe.Proofs.Session.Levels

/-!
# What a session reads of its environment

A session looks at five variables of its environment: at the level of TensorFlow's own messages when it loads a library, and at all
five when it reports them. Two environments that agree on these five make no difference to anything. The report has a line for each
of them, with the value that it had when the session began; only the level that is set for TensorFlow is shown where there was none.
A session without the report writes the same in every environment, as long as its library answers the same.
-/

namespace AccelProbe

namespace Session

open Program

/-- What the environment report of a session shows of a variable: the value that it had when the session began, or the level that is
set for TensorFlow, or that there is none. -/
def shownValue (l : Library) (env : Environment) (name : String) : String :=
  match env.value? name with
  | some value => value
  | none => if l = .tensorflow ∧ name = Environment.minLogLevel then Environment.errorsOnly else EnvironmentReport.unsetText

/-- Whether two environments agree on the variables that are reported. -/
def SameReported (env env' : Environment) : Prop := ∀ name ∈ Environment.reported, env'.value? name = env.value? name

/-- The call that loads a library in an environment. -/
def loadIn (l : Library) (env : Environment) : LibraryCall := Backend.loadCall (Backend.prepare { environment := env } l) l

/-- Whether a library answers in the second environment as it answers in the first: its loading, and all calls behind that. -/
structure AnswersAlike (l : Library) (env env' : Environment) (libraries libraries' : History LibraryCall → LibraryCall → Reply) :
    Prop where
  /-- It is loaded alike. -/
  loading : libraries' [.logged (Backend.loadingRecord l)] (loadIn l env') =
    libraries [.logged (Backend.loadingRecord l)] (loadIn l env)
  /-- It answers alike from then on. -/
  loaded : ∀ reply added c,
    libraries' (.logged (Backend.loadingRecord l) :: .called (loadIn l env') reply :: added) c =
      libraries (.logged (Backend.loadingRecord l) :: .called (loadIn l env) reply :: added) c

/-- Whether two sessions look alike: both write the same to standard output and to standard error, and they end alike. -/
structure LooksLike (o o' : Outcome) : Prop where
  /-- They write the same. -/
  output : o'.output = o.output
  /-- They show the same records, or the same complaint about the command line. -/
  errors : o'.errors = o.errors
  /-- Both are finished, or both end with the same failure. -/
  ending : o'.ending = o.ending

/-! ## Environments that agree on the variables -/

section

variable {env env' : Environment} {l : Library}

/-- Environments that agree on the variables still agree once they are prepared for a library. -/
theorem SameReported.prepare (h : SameReported env env') (logging : Logging) (l : Library) :
    SameReported (Backend.prepare ⟨env, logging⟩ l).environment (Backend.prepare ⟨env', logging⟩ l).environment := by
  intro name hm
  cases l with
  | torch => exact h name hm
  | tensorflow =>
    change (env'.setDefault _ _).value? name = (env.setDefault _ _).value? name
    rw [Environment.value?_setDefault, Environment.value?_setDefault, h name hm, h Environment.minLogLevel (by decide)]

/-- The call that loads a library tells of the level of TensorFlow's own messages alone. -/
theorem loadCall_congr {h h' : Host}
    (heq : h'.environment.value? Environment.minLogLevel = h.environment.value? Environment.minLogLevel) (l : Library) :
    Backend.loadCall h' l = Backend.loadCall h l := by
  cases l with
  | torch => rw [Backend.loadCall, Backend.loadCall, heq]
  | tensorflow => rw [Backend.loadCall, Backend.loadCall, heq]

/-- The loggers do not matter for the call that loads a library. -/
theorem loadCall_prepare (l : Library) (env : Environment) (logging : Logging) :
    Backend.loadCall (Backend.prepare ⟨env, logging⟩ l) l = loadIn l env := by
  refine loadCall_congr ?_ l
  cases l with
  | torch => rfl
  | tensorflow => rfl

/-- Environments that agree on the variables load a library alike. -/
theorem SameReported.loadIn_eq (h : SameReported env env') (l : Library) : loadIn l env' = loadIn l env :=
  loadCall_congr (h.prepare {} l Environment.minLogLevel (by decide)) l

/-- The report reads nothing but the variables. -/
theorem SameReported.program_eq {Call : Type} (h : SameReported env env') (c : Configuration) (b : Backend Call) (stage : Stage) :
    stage.program c env' b = stage.program c env b := by
  have hsettings : Section.Environment.settings env' = Section.Environment.settings env := by
    unfold Section.Environment.settings
    congr 1
    refine List.map_congr_left fun name hm => ?_
    rw [h name hm]
  cases stage with
  | environment => simp only [Stage.program, Section.Environment.run, hsettings]
  | _ => rfl

/-- Only the report reads the environment. -/
theorem program_eq_of_ne {Call : Type} (env env' : Environment) (c : Configuration) (b : Backend Call) {stage : Stage}
    (hne : stage ≠ .environment) : stage.program c env' b = stage.program c env b := by
  cases stage with
  | environment => exact absurd rfl hne
  | _ => rfl

/-- Stages with the same programs are the same in order. -/
theorem inOrder_congr {Call : Type} {program program' : Stage → Program Call Report} {stages : List Stage}
    (h : ∀ stage ∈ stages, program' stage = program stage) : inOrder program' stages = inOrder program stages := by
  induction stages with
  | nil => rfl
  | cons stage stages ih =>
    obtain ⟨hstage, hrest⟩ := List.forall_mem_cons.mp h
    rw [inOrder, inOrder, hstage, ih hrest]

/-- What is done to the loggers does not depend on the environment. -/
theorem logging_configured (loggerName : String) (c : Configuration) (env env' : Environment) (logging : Logging) :
    (configured loggerName c ⟨env', logging⟩).1.logging = (configured loggerName c ⟨env, logging⟩).1.logging := by
  unfold configured Backend.create
  cases Backend.library? c.backend with
  | error e => rfl
  | ok l =>
    cases l with
    | torch => rfl
    | tensorflow => rfl

end

/-! ## One session in two environments -/

section

variable {s : Surroundings} {words : List String} {args : Arguments} {c : Configuration} {env' : Environment}

/-- Sessions whose programs leave the same loggers, end alike, and wrote and logged the same look alike. -/
theorem looksLike_outcomeOf {host host' : Host} {result result' : History LibraryCall × Except Failure Unit}
    (hlogging : host'.logging = host.logging) (hlines : result'.1.lines = result.1.lines)
    (hrecords : result'.1.records = result.1.records) (hend : result'.2 = result.2) :
    LooksLike (outcomeOf host result) (outcomeOf host' result') where
  output := by rw [output_outcomeOf, output_outcomeOf, hlines]
  errors := by
    rw [errors_outcomeOf, errors_outcomeOf, hlogging]
    change (host.logging.logAll result'.1.records).2 = (host.logging.logAll result.1.records).2
    rw [hrecords]
  ending := congrArg endingOf hend

/-- The program of a session is the same in environments that agree on the variables. -/
theorem configured_eq_of_sameReported {env : Environment} {l : Library} (h : SameReported env env') (loggerName : String)
    (hl : c.backend = .str l.key) (logging : Logging) :
    (configured loggerName c ⟨env', logging⟩).2 = (configured loggerName c ⟨env, logging⟩).2 := by
  have hprograms : ∀ version, inOrder (Stage.program c (Backend.prepare ⟨env', logging⟩ l).environment (Backend.loaded version l))
      (requested c) = inOrder (Stage.program c (Backend.prepare ⟨env, logging⟩ l).environment (Backend.loaded version l))
        (requested c) := fun version => inOrder_congr fun stage _ => (h.prepare logging l).program_eq c _ stage
  rw [configured_program loggerName hl, configured_program loggerName hl, loadCall_prepare, loadCall_prepare, h.loadIn_eq]
  simp only [hprograms]

/-- What happens while a library is loaded in an environment. -/
def opening (l : Library) (env : Environment) (reply : Reply) : History LibraryCall :=
  [.logged (Backend.loadingRecord l), .called (loadIn l env) reply]

/-- A session that fails to load its library does nothing else. -/
theorem run_configured_error {w : World LibraryCall} {l : Library} (loggerName : String) (hl : c.backend = .str l.key)
    {env : Environment} {logging : Logging} {e : Failure}
    (hreply : w.answer [.logged (Backend.loadingRecord l)] (loadIn l env) = .error e) :
    (configured loggerName c ⟨env, logging⟩).2.run w [] = (opening l env (.error e), .error e) := by
  rw [configured_program loggerName hl, loadCall_prepare]
  simp only [note, ask, Program.bind, Program.run, List.nil_append, hreply]
  rfl

/-- A session that loaded its library goes on with its stages. -/
theorem run_configured_ok {w : World LibraryCall} {l : Library} (loggerName : String) (hl : c.backend = .str l.key)
    {env : Environment} {logging : Logging} {version : Value}
    (hreply : w.answer [.logged (Backend.loadingRecord l)] (loadIn l env) = .ok version) :
    (configured loggerName c ⟨env, logging⟩).2.run w [] =
      ((inOrder (Stage.program c (Backend.prepare ⟨env, logging⟩ l).environment (Backend.loaded version l)) (requested c)).bind
        fun _ => note (completedRecord loggerName)).run w (opening l env (.ok version)) := by
  rw [configured_program loggerName hl, loadCall_prepare]
  simp only [note, ask, Program.bind, Program.run, List.nil_append, hreply]
  rfl

/-- Where the report is not asked for, the program of a session does the same in every environment, apart from the level that is told
when its library is loaded. -/
theorem run_configured_unreported {w w' : World LibraryCall} {l : Library} (loggerName : String) (hl : c.backend = .str l.key)
    (hnone : .environment ∉ requested c) {env : Environment} (hanswers : AnswersAlike l env env' w.answer w'.answer)
    (htake : ∀ h h' line, w'.take h' line = w.take h line) (logging : Logging) :
    ∃ reply added r, (configured loggerName c ⟨env, logging⟩).2.run w [] = (opening l env reply ++ added, r) ∧
      (configured loggerName c ⟨env', logging⟩).2.run w' [] = (opening l env' reply ++ added, r) := by
  have hloading := hanswers.loading
  cases hreply : w.answer [.logged (Backend.loadingRecord l)] (loadIn l env) with
  | error e =>
    rw [hreply] at hloading
    refine ⟨.error e, [], .error e, ?_, ?_⟩
    · rw [run_configured_error loggerName hl hreply, List.append_nil]
    · rw [run_configured_error loggerName hl hloading, List.append_nil]
  | ok version =>
    rw [hreply] at hloading
    have hprograms : inOrder (Stage.program c (Backend.prepare ⟨env', logging⟩ l).environment (Backend.loaded version l))
        (requested c) = inOrder (Stage.program c (Backend.prepare ⟨env, logging⟩ l).environment (Backend.loaded version l))
          (requested c) :=
      inOrder_congr fun stage hm => program_eq_of_ne _ _ c _ fun hstage => hnone (hstage ▸ hm)
    have hbehind : w.AlikeBehind w' (opening l env (.ok version)) (opening l env' (.ok version)) :=
      ⟨fun added c => hanswers.loaded (.ok version) added c, fun _ _ => htake _ _ _⟩
    obtain ⟨added, r, hrun, hrun'⟩ := run_behind
      ((inOrder (Stage.program c (Backend.prepare ⟨env, logging⟩ l).environment (Backend.loaded version l)) (requested c)).bind
        fun _ => note (completedRecord loggerName)) hbehind
    refine ⟨.ok version, added, r, ?_, ?_⟩
    · rw [run_configured_ok loggerName hl hreply, hrun]
    · rw [run_configured_ok loggerName hl hloading, hprograms, hrun']

/-- A session without a configuration ends with nothing done. -/
theorem run_of_fault {fault : Configuration.LoadFault} (hargs : Arguments.ofTexts words = .ok args)
    (hfault : Configuration.build s.files args = .error fault) :
    run s words = { ending := .unconfigured fault, host := s.host } := by
  rw [run, hargs]
  dsimp only
  rw [hfault]

/-- Sessions in environments that agree on the variables do the same and look alike. -/
theorem run_of_sameReported (hargs : Arguments.ofTexts words = .ok args) (h : SameReported s.host.environment env') :
    let o' := run { s with host := ⟨env', s.host.logging⟩ } words
    o'.history = (run s words).history ∧ LooksLike (run s words) o' := by
  intro o'
  cases hc : Configuration.build s.files args with
  | error fault =>
    have ho' : o' = _ := run_of_fault (s := { s with host := ⟨env', s.host.logging⟩ }) hargs hc
    rw [ho', run_of_fault hargs hc]
    exact ⟨rfl, rfl, rfl, rfl⟩
  | ok c =>
    obtain ⟨-, logging, hlogging⟩ := setUp_of_build hc s.host.logging
    have hprogram : (configured s.loggerName c ⟨env', logging⟩).2 = (configured s.loggerName c ⟨s.host.environment, logging⟩).2 := by
      rcases backend_of_build hargs hc with ⟨l, hl⟩ | hl
      · exact configured_eq_of_sameReported h s.loggerName hl logging
      · rw [configured_of_list s.loggerName hl, configured_of_list s.loggerName hl]
    have ho' : o' = _ := run_of_setUp (s := { s with host := ⟨env', s.host.logging⟩ }) hargs hc hlogging
    have hsame : (configured s.loggerName c ⟨env', logging⟩).2.run (world { s with host := ⟨env', s.host.logging⟩ }) [] =
        (configured s.loggerName c ⟨s.host.environment, logging⟩).2.run (world s) [] := by
      rw [hprogram]
      rfl
    rw [ho', run_of_setUp hargs hc hlogging, hsame]
    exact ⟨rfl, looksLike_outcomeOf (logging_configured _ _ _ _ _) rfl rfl rfl⟩

/-- Sessions without the report look alike in all environments in which their library answers alike. -/
theorem run_of_unreported (hargs : Arguments.ofTexts words = .ok args)
    (hnone : ∀ c, Configuration.build s.files args = .ok c → .environment ∉ requested c)
    {libraries' : History LibraryCall → LibraryCall → Reply}
    (hanswers : ∀ l, selected s.files words = some l → AnswersAlike l s.host.environment env' s.libraries libraries') :
    LooksLike (run s words) (run { s with host := ⟨env', s.host.logging⟩, libraries := libraries' } words) := by
  cases hc : Configuration.build s.files args with
  | error fault =>
    have ho' := run_of_fault (s := { s with host := ⟨env', s.host.logging⟩, libraries := libraries' }) hargs hc
    rw [ho', run_of_fault hargs hc]
    exact ⟨rfl, rfl, rfl⟩
  | ok c =>
    obtain ⟨-, logging, hlogging⟩ := setUp_of_build hc s.host.logging
    have ho' := run_of_setUp (s := { s with host := ⟨env', s.host.logging⟩, libraries := libraries' }) hargs hc hlogging
    have hsame := logging_configured s.loggerName c s.host.environment env' logging
    rw [ho', run_of_setUp hargs hc hlogging]
    rcases backend_of_build hargs hc with ⟨l, hl⟩ | hl
    · have hselected : selected s.files words = some l := by
        rw [selected, hargs]
        dsimp only
        rw [hc]
        dsimp only
        rw [hl, library?_key]
        rfl
      have hanswer : AnswersAlike l s.host.environment env' (world s).answer
          (world { s with host := ⟨env', s.host.logging⟩, libraries := libraries' }).answer := hanswers l hselected
      have htake : ∀ h h' line, (world { s with host := ⟨env', s.host.logging⟩, libraries := libraries' }).take h' line =
          (world s).take h line := fun _ _ _ => rfl
      obtain ⟨reply, added, r, hrun, hrun'⟩ := run_configured_unreported s.loggerName hl (hnone c hc) hanswer htake logging
      refine looksLike_outcomeOf hsame ?_ ?_ ?_
      · simp only [hrun, hrun', History.lines_append]
        rfl
      · simp only [hrun, hrun', History.records_append]
        rfl
      · simp only [hrun, hrun']
    · have hresult := configured_of_list s.loggerName hl
      exact looksLike_outcomeOf hsame (by simp only [hresult]; rfl) (by simp only [hresult]; rfl) (by simp only [hresult]; rfl)

end

/-! ## What the report shows -/

/-- The environment that is prepared for a library has of the variables what the report shows. -/
theorem value?_prepare (l : Library) (env : Environment) (logging : Logging) {name : String} :
    ((Backend.prepare ⟨env, logging⟩ l).environment.value? name).getD EnvironmentReport.unsetText = shownValue l env name := by
  cases l with
  | torch =>
    change (env.value? name).getD EnvironmentReport.unsetText = shownValue .torch env name
    unfold shownValue
    cases env.value? name with
    | some value => rfl
    | none => rfl
  | tensorflow =>
    change ((env.setDefault Environment.minLogLevel Environment.errorsOnly).value? name).getD EnvironmentReport.unsetText =
      shownValue .tensorflow env name
    unfold shownValue
    rw [Environment.value?_setDefault]
    by_cases hname : name = Environment.minLogLevel
    · subst hname
      cases env.value? Environment.minLogLevel with
      | some value => rfl
      | none => rfl
    · rw [if_neg hname]
      cases env.value? name with
      | some value => rfl
      | none => simp [hname]

/-- A report that is over shows the variables, and one that failed shows nothing. -/
theorem Staged.shows {s : Surroundings} {c : Configuration} {l : Library} {o : Outcome} {loading : History LibraryCall} {version : Value}
    {parts : List (Part LibraryCall)} (hs : Staged s c o loading (Backend.loaded version l) parts) {env : Environment}
    {logging : Logging} (hhost : o.host.environment = (Backend.prepare ⟨env, logging⟩ l).environment) :
    ∀ part ∈ parts, part.stage = .environment →
      (part.Returned ∧ Section.Environment.Shows (shownValue l env) part.events.lines) ∨
        ¬ part.Returned ∧ part.events.lines = [] := by
  rintro ⟨stage, events, result⟩ hpart rfl
  obtain ⟨ht, -⟩ := hs.consecutive.trace _ hpart
  cases result with
  | error e => exact Or.inr ⟨nofun, hs.silent _ hpart e rfl nofun⟩
  | ok report =>
    obtain ⟨r, hrun, -⟩ := trace_bind_done_ok ht
    have hshows := Section.Environment.shows_of_trace hrun
    rw [hhost, funext fun name => value?_prepare l env logging] at hshows
    exact Or.inl ⟨⟨report, rfl⟩, hshows⟩

/-- The host of a session that got as far as a library has the environment that was prepared for it. -/
theorem environment_of_run {s : Surroundings} {words : List String} {args : Arguments} {c : Configuration} {l : Library}
    (hargs : Arguments.ofTexts words = .ok args) (hc : Configuration.build s.files args = .ok c) (hl : c.backend = .str l.key) :
    ∃ logging, (run s words).host.environment = (Backend.prepare ⟨s.host.environment, logging⟩ l).environment := by
  obtain ⟨logging, hrun⟩ := run_eq_outcomeOf hargs hc
  refine ⟨logging, ?_⟩
  rw [hrun, configured_eq s.loggerName hl]
  rfl

/-- A session reads its environment through five variables, and shows them in its report only. In environments that agree on them it
makes the same calls, writes the same and ends alike. A report that is written has one line for each of them, in order, with the value
that it had when the session began, empty or not; for one that was not set it says so, unless it is the level that was set for
TensorFlow. Without a report, what a session writes does not depend on the environment, as long as the answers of its library do not. -/
theorem reads_reported_only (s : Surroundings) (words : List String) (args : Arguments) (hargs : Arguments.ofTexts words = .ok args) :
    (∀ env', SameReported s.host.environment env' →
      let o' := run { s with host := ⟨env', s.host.logging⟩ } words
      o'.history = (run s words).history ∧ LooksLike (run s words) o') ∧
    (∀ c l, Configuration.build s.files args = .ok c → c.backend = .str (Library.key l) →
      (∃ loading e, Unloaded s (run s words) loading e) ∨
        ∃ loading version parts, Staged s c (run s words) loading (Backend.loaded version l) parts ∧
          ∀ part ∈ parts, part.stage = .environment →
            (part.Returned ∧ Section.Environment.Shows (shownValue l s.host.environment) part.events.lines) ∨
              ¬ part.Returned ∧ part.events.lines = []) ∧
    ((∀ c, Configuration.build s.files args = .ok c → .environment ∉ requested c) → ∀ env' libraries',
      (∀ l, selected s.files words = some l → AnswersAlike l s.host.environment env' s.libraries libraries') →
        LooksLike (run s words) (run { s with host := ⟨env', s.host.logging⟩, libraries := libraries' } words)) := by
  refine ⟨fun env' h => run_of_sameReported hargs h, ?_, fun hnone env' libraries' h => run_of_unreported hargs hnone h⟩
  intro c l hc hl
  rcases run_of_library hargs hc hl with ⟨e, hunloaded⟩ | ⟨version, parts, hstaged⟩
  · exact Or.inl ⟨_, e, hunloaded⟩
  · obtain ⟨logging, hhost⟩ := environment_of_run hargs hc hl
    exact Or.inr ⟨_, version, parts, hstaged, hstaged.shows hhost⟩

/-- The machine with two GPUs, where CUDA's home is set to the empty text. -/
def homeless (path : String) : Surroundings :=
  { furnished with host := { environment := [("PATH", path), ("CUDA_HOME", "")] } }

/-- What the report of a session over TensorFlow shows of the variables there. -/
def homelessLines : List Value :=
  [.str "CUDA_VISIBLE_DEVICES: <unset>", .str "CUDA_HOME: ", .str "LD_LIBRARY_PATH: <unset>", .str "PYTORCH_CUDA_ALLOC_CONF: <unset>",
    .str "TF_CPP_MIN_LOG_LEVEL: 2"]

/-- A session there looks the same wherever the programs are looked for, and its report shows these lines. -/
theorem reads_reported_only_homeless :
    let words := ["-b", "tensorflow", "-e"]
    let o := run (homeless "/bin") words
    Arguments.ofTexts words = .ok { backend := .str "tensorflow", environment := .bool true } ∧
      SameReported (homeless "/bin").host.environment (homeless "/usr/bin").host.environment ∧ o.ending = .finished ∧
      Environment.reported.map (Section.Environment.shownLine (shownValue .tensorflow (homeless "/bin").host.environment)) =
        homelessLines ∧
      (run (homeless "/usr/bin") words).history = o.history ∧ LooksLike o (run (homeless "/usr/bin") words) ∧
      ∃ loading version parts,
        Staged (homeless "/bin") { Configuration.standard with backend := .str "tensorflow", reportEnvironment := .bool true } o
          loading (Backend.loaded version .tensorflow) parts ∧
        ∀ part ∈ parts, part.stage = .environment →
          (part.Returned ∧
            Section.Environment.Shows (shownValue .tensorflow (homeless "/bin").host.environment) part.events.lines) ∨
            ¬ part.Returned ∧ part.events.lines = [] := by
  intro words o
  have hargs : Arguments.ofTexts words = .ok { backend := .str "tensorflow", environment := .bool true } := rfl
  have hsame : SameReported (homeless "/bin").host.environment (homeless "/usr/bin").host.environment := by
    unfold SameReported
    decide
  have hfinished : o.ending = .finished := rfl
  obtain ⟨halike, hshown, -⟩ := reads_reported_only (homeless "/bin") words _ hargs
  obtain ⟨hhistory, hlooks⟩ := halike (homeless "/usr/bin").host.environment hsame
  refine ⟨hargs, hsame, hfinished, rfl, hhistory, hlooks, ?_⟩
  rcases hshown _ .tensorflow rfl rfl with ⟨loading, e, hunloaded⟩ | hstaged
  · cases hfinished.symm.trans hunloaded.ending
  · exact hstaged

end Session

end AccelProbe
