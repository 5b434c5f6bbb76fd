import AccelProbe.Proofs.CommandLine.Occurrences
import AccelProbe.Proofs.Configuration.Conditions
import AccelProbe.Proofs.Session.Sequence

/-!
# What the command line puts in place of the document

What a command line says stands above the document, and is not validated with it. `Settled` says what comes of the two: a document
that cannot be loaded is never made good by the command line, and each field is that of the last switch that speaks of it, or else
that of the document. Everything that the switches can say is in normal form but for one thing: two hyphens as the argument of the
backend leave an empty list in its place, which no validation would let through. Every other configuration of a session is its own
normal form.
-/

namespace AccelProbe

namespace Configuration

open Arguments

/-- Two hyphens, which a command line takes away where an argument is expected. -/
def hyphens : List Char := ['-', '-']

/-- What a command line with these switches starts from: the configuration of the last document it names, or else the standard one.
-/
def start (files : FileSystem) (os : List Occurrence) : Except LoadFault Configuration :=
  match lastArgument .config os with
  | none => .ok standard
  | some path => load files (argumentValue path)

/-- Whether a configuration is another one with what these switches put in its place. -/
structure Composed (base : Configuration) (os : List Occurrence) (c : Configuration) : Prop where
  /-- The backend is the last one that was chosen, or else it stays. -/
  backend : c.backend = ((lastArgument .backend os).map argumentValue).getD base.backend
  /-- The environment is reported if it was to be, or if it is asked for. -/
  reportEnvironment : ∃ b, base.reportEnvironment = .bool b ∧ c.reportEnvironment = .bool (b || occurs .environment os)
  /-- A matrix is multiplied if one was to be, or if it is asked for. -/
  checkCompute : ∃ b, base.checkCompute = .bool b ∧ c.checkCompute = .bool (b || occurs .compute os)
  /-- The other fields stay. -/
  others : c.shape = base.shape ∧ c.deviceIndex = base.deviceIndex ∧ c.computeSize = base.computeSize ∧ c.logLevel = base.logLevel

/-- What comes of a document and the switches of a command line. -/
structure Settled (files : FileSystem) (os : List Occurrence) (result : Except LoadFault Configuration) : Prop where
  /-- There is no configuration exactly where the named document gives none, and for the same reason. -/
  failed : ∀ fault, result = .error fault ↔
    ∃ path, lastArgument .config os = some path ∧ load files (argumentValue path) = .error fault
  /-- Otherwise it is that of the document, or the standard one, with what the switches say. -/
  composed : ∀ c, result = .ok c → ∃ base, start files os = .ok base ∧ base.Normal ∧ Composed base os c
  /-- It would pass the validation unchanged, unless the last backend is two hyphens. -/
  valid : ∀ c, result = .ok c → lastArgument .backend os ≠ some hyphens → c.Normal ∧ c.validate = (c, none)
  /-- The log can always be set up with it. -/
  logged : ∀ c, result = .ok c → ∀ logging : Logging, (logging.setUp c.logLevel).2 = none
  /-- Its backend is never the name of no library. -/
  named : ∀ c, result = .ok c → ∀ name, Backend.library? c.backend ≠ .error (.unknownLibrary name)

/-! ## One field after the other -/

/-- Only two hyphens leave an empty list. -/
theorem eq_hyphens_of_argumentValue {cs : List Char} (h : argumentValue cs = .list []) : cs = hyphens := by
  unfold argumentValue at h
  split at h
  · assumption
  · cases h

/-- A configuration with what a command line asks for, field by field. -/
theorem override_eq (c : Configuration) (args : Arguments) : c.override args =
    { c with
      backend := if args.backend.isNull then c.backend else args.backend
      reportEnvironment := if args.environment.isTruthy then .bool true else c.reportEnvironment
      checkCompute := if args.compute.isTruthy then .bool true else c.checkCompute } := by
  unfold override
  cases args.backend.isNull <;> cases args.environment.isTruthy <;> cases args.compute.isTruthy <;> rfl

/-- The flag of a report is set if it was, or if the report is asked for. -/
theorem flag_or {v : Value} (h : ∃ b, v = .bool b) (asked : Bool) :
    ∃ b, v = .bool b ∧
      (if Value.isTruthy (if asked then .bool true else .bool false) then .bool true else v) = .bool (b || asked) := by
  obtain ⟨b, rfl⟩ := h
  refine ⟨b, rfl, ?_⟩
  cases asked <;> simp [Value.isTruthy]

/-- What a command line asks for is put in place of the fields, and of nothing else. -/
theorem composed_override {base : Configuration} {args : Arguments} {os : List Occurrence} (hbase : base.Normal)
    (hargs : ({} : Arguments).Takes args os) : Composed base os (base.override args) := by
  rw [override_eq, hargs.after]
  refine ⟨?backend, flag_or hbase.reportEnvironment _, flag_or hbase.checkCompute _, rfl, rfl, rfl, rfl⟩
  case backend =>
    simp only [after]
    cases lastArgument .backend os with
    | none => rfl
    | some text => exact if_neg (by simp [argumentValue_isNull])

/-- The backend that a command line leaves is the name of a library, unless the last one is two hyphens. -/
theorem Composed.backend_cases {base c : Configuration} {args : Arguments} {os : List Occurrence} (h : Composed base os c)
    (hbase : base.Normal) (hargs : ({} : Arguments).Takes args os) :
    (∃ l, c.backend = .str (Library.key l)) ∨ lastArgument .backend os = some hyphens ∧ c.backend = .list [] := by
  rw [h.backend]
  cases hlast : lastArgument .backend os with
  | none => exact Or.inl hbase.backend
  | some text =>
    rcases backend_of_allows (hargs.allows_last hlast) with hlibrary | hempty
    · exact Or.inl hlibrary
    · exact Or.inr ⟨by rw [eq_hyphens_of_argumentValue hempty], hempty⟩

/-- A configuration in normal form stays so with what a command line asks for, unless its last backend is two hyphens. -/
theorem Composed.normal {base c : Configuration} {args : Arguments} {os : List Occurrence} (h : Composed base os c)
    (hbase : base.Normal) (hargs : ({} : Arguments).Takes args os) (hlast : lastArgument .backend os ≠ some hyphens) : c.Normal := by
  obtain ⟨hshape, hindex, hsize, hlevel⟩ := h.others
  have hbackend : ∃ l, c.backend = .str (Library.key l) :=
    (h.backend_cases hbase hargs).elim id fun hhyphens => absurd hhyphens.1 hlast
  exact {
    backend := hbackend
    shape := hshape ▸ hbase.shape
    deviceIndex := hindex ▸ hbase.deviceIndex
    computeSize := hsize ▸ hbase.computeSize
    reportEnvironment := h.reportEnvironment.elim fun _ hb => ⟨_, hb.2⟩
    checkCompute := h.checkCompute.elim fun _ hb => ⟨_, hb.2⟩
    logLevel := hlevel ▸ hbase.logLevel }

/-! ## The whole configuration -/

/-- A configuration is built from what the command line starts from, if that can be loaded. -/
theorem build_eq (files : FileSystem) {args : Arguments} {os : List Occurrence} (hargs : ({} : Arguments).Takes args os) :
    build files args = (start files os).map fun base => base.override args := by
  have hconfig : args.config = ((lastArgument .config os).map argumentValue).getD .null := by
    rw [hargs.after]
    rfl
  rw [build, start, hconfig]
  cases lastArgument .config os with
  | none => rfl
  | some path => exact if_neg (by simp [argumentValue_isNull])

/-- What a command line starts from is in normal form. -/
theorem normal_of_start {files : FileSystem} {os : List Occurrence} {base : Configuration} (h : start files os = .ok base) :
    base.Normal := by
  unfold start at h
  split at h
  · cases h
    exact standard_normal
  · exact normal_of_load h

/-- There is nothing to start from where the last document that is named gives nothing. -/
theorem start_eq_error_iff {files : FileSystem} {os : List Occurrence} {fault : LoadFault} :
    start files os = .error fault ↔
      ∃ path, lastArgument .config os = some path ∧ load files (argumentValue path) = .error fault := by
  unfold start
  cases lastArgument .config os with
  | none => simp
  | some path => simp

/-- What comes of a document and a command line that was read to its end. -/
theorem settled_of_takes (files : FileSystem) {args : Arguments} {os : List Occurrence} (hargs : ({} : Arguments).Takes args os) :
    Settled files os (build files args) := by
  have hcomposed (c : Configuration) (hc : build files args = .ok c) :
      ∃ base, start files os = .ok base ∧ base.Normal ∧ Composed base os c := by
    rw [build_eq files hargs] at hc
    obtain ⟨base, hbase, rfl⟩ := exists_of_map_eq_ok hc
    have hnormal := normal_of_start hbase
    exact ⟨base, hbase, hnormal, composed_override hnormal hargs⟩
  refine ⟨?failed, hcomposed, ?valid, ?logged, ?named⟩
  case failed =>
    intro fault
    rw [build_eq files hargs, ← start_eq_error_iff]
    cases start files os with
    | ok base => exact ⟨nofun, nofun⟩
    | error other => rfl
  case valid =>
    intro c hc hlast
    obtain ⟨base, -, hbase, h⟩ := hcomposed c hc
    have hnormal := h.normal hbase hargs hlast
    exact ⟨hnormal, hnormal.validate_eq⟩
  case logged =>
    intro c hc logging
    obtain ⟨base, -, hbase, h⟩ := hcomposed c hc
    obtain ⟨prepared, hprepared⟩ := hbase.setUp_eq logging
    rw [h.others.2.2.2, hprepared]
  case named =>
    intro c hc name
    obtain ⟨base, -, hbase, h⟩ := hcomposed c hc
    rcases h.backend_cases hbase hargs with ⟨l, hl⟩ | ⟨-, hl⟩
    · rw [hl, Session.library?_key]
      exact nofun
    · rw [hl]
      exact nofun

/-- A session never fails for the level of its log. -/
theorem ending_ne_unlogged {s : Surroundings} {words : List String} {args : Arguments} (h : Arguments.ofTexts words = .ok args)
    (fault : Logging.Fault) : (Session.run s words).ending ≠ .unlogged fault := by
  cases hbuild : build s.files args with
  | error other =>
    rw [Session.run, h]
    dsimp only
    rw [hbuild]
    intro hending
    cases hending
  | ok c =>
    obtain ⟨logging, hrun⟩ := Session.run_eq_outcomeOf h hbuild
    rw [hrun]
    change Session.endingOf _ ≠ .unlogged fault
    generalize (Program.run (Session.world s) _ []).2 = result
    intro hending
    cases result with
    | ok => cases hending
    | error e => cases hending

/-- Whatever a command line says, it leaves the configuration of its document as good as it was, unless two hyphens stand in place of
the backend; and the log is always set up. -/
theorem build_settled (s : Surroundings) (words : List String) (args : Arguments) (h : Arguments.ofTexts words = .ok args) :
    Settled s.files (occurrencesOf words) (build s.files args) ∧ ∀ fault, (Session.run s words).ending ≠ .unlogged fault :=
  ⟨settled_of_takes s.files (takes_ofTexts h), ending_ne_unlogged h⟩

/-- Surroundings with one document, which asks for the compute check. -/
def documented : Surroundings where
  files := fun path => if path = "probe.toml" then some (.file "[diagnostic]\ncheck_compute = true\n".toUTF8) else none
  host := {}
  libraries := fun _ _ => .ok (.bool false)

/-- The last of several backends is taken, whatever the document says. -/
theorem build_settled_documented :
    let words := ["-b", "tensorflow", "-c", "probe.toml", "-eb", "torch"]
    let args : Arguments := { config := .str "probe.toml", backend := .str "torch", environment := .bool true }
    Arguments.ofTexts words = .ok args ∧ ∃ c, build documented.files args = .ok c ∧
      c.backend = .str "torch" ∧ c.reportEnvironment = .bool true ∧ c.validate = (c, none) := by
  intro words args
  have hlast : lastArgument .backend (occurrencesOf words) = some "torch".toList := by decide +kernel
  have hmade : (build documented.files args).toOption.isSome = true := by decide +kernel
  have hsettled := (build_settled documented words args rfl).1
  refine ⟨rfl, ?_⟩
  cases hc : build documented.files args with
  | error fault =>
    rw [hc] at hmade
    cases hmade
  | ok c =>
    obtain ⟨base, -, -, h⟩ := hsettled.composed c hc
    obtain ⟨b, -, henvironment⟩ := h.reportEnvironment
    have hasked : occurs .environment (occurrencesOf words) = true := by decide +kernel
    refine ⟨c, rfl, ?_, ?_, (hsettled.valid c hc ?_).2⟩
    · rw [h.backend, hlast]
      rfl
    · rw [henvironment, hasked, Bool.or_true]
    · rw [hlast]
      decide

/-- Two hyphens as the backend are taken for a configuration that no validation lets through, and the session fails for it. -/
theorem build_hyphens :
    let args : Arguments := { backend := .list [] }
    Arguments.ofTexts ["-b--"] = .ok args ∧ ∃ c, build documented.files args = .ok c ∧
      ¬ c.Acceptable ∧ c.validate.2.isSome = true ∧
      (Session.run documented ["-b--"]).ending = .failed (.value (.noAttribute "list" "lower")) := by
  intro args
  have hargs : Arguments.ofTexts ["-b--"] = .ok args := rfl
  have hbuild : build documented.files args = .ok (standard.override args) := rfl
  refine ⟨hargs, _, hbuild, ?_, rfl, ?_⟩
  · rintro ⟨⟨s, l, hs, -⟩, -⟩
    cases hs
  · exact (Session.run_of_no_library hargs hbuild rfl).ending

end Configuration

end AccelProbe
