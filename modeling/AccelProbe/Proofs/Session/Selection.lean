import AccelProbe.Proofs.Logging.Steps
import AccelProbe.Proofs.Session.Sequence
import AccelProbe.Rehearsal.Libraries

/-!
# The library that is not selected

A session selects one library: by its command line, by its document, or by default. Nothing that it does depends on the other one,
which need not even be there. Its program meets calls of the selected library only, and a program runs alike in two worlds that agree
on what it can meet. The host is changed for TensorFlow alone, and before TensorFlow is loaded.
-/

namespace AccelProbe

/-- Whether an event is no call to another library than this one. -/
def Event.Concerns (l : Library) : Event LibraryCall → Prop
  | .called c _ => c.library = l
  | _ => True

namespace Session

open Program

/-- The library that a session selects, if it gets as far as that. -/
def selected (files : FileSystem) (words : List String) : Option Library :=
  match Arguments.ofTexts words with
  | .error _ => none
  | .ok args =>
    match Configuration.build files args with
    | .error _ => none
    | .ok c => (Backend.library? c.backend).toOption

/-- Whether libraries answer the calls to one of them alike, as long as no other one was called. -/
def AgreeOn (l : Library) (libraries libraries' : History LibraryCall → LibraryCall → Reply) : Prop :=
  ∀ past c, (∀ event ∈ past, event.Concerns l) → c.library = l → libraries' past c = libraries past c

/-- The least level of TensorFlow's own messages under which it is loaded: that of the user, or else one that lets errors through. -/
def messageLevel (env : Environment) : String := (env.value? Environment.minLogLevel).getD Environment.errorsOnly

/-- What a session that selected a library, or none, did to the libraries and to what is around it. -/
structure Selects (l? : Option Library) (s : Surroundings) (o : Outcome) : Prop where
  /-- No library was called or loaded but the selected one. -/
  calls : ∀ c ∈ o.history.calls, l? = some c.library
  /-- The environment is as it was, unless TensorFlow was selected. -/
  environment : l? ≠ some .tensorflow → o.host.environment = s.host.environment
  /-- So are the levels of all loggers but the root, TensorFlow's among them, also once the records were logged. -/
  levels : l? ≠ some .tensorflow → ∀ name, o.host.logging.ownLevel name = s.host.logging.ownLevel name ∧
    (o.host.logging.logAll o.history.records).1.ownLevel name = s.host.logging.ownLevel name
  /-- TensorFlow was loaded first and once, in an environment that had the level of its messages already. -/
  loaded : l? = some .tensorflow → o.host.environment.value? Environment.minLogLevel = some (messageLevel s.host.environment) ∧
    ∃ rest, o.history.calls = .tensorflow (.load (some (messageLevel s.host.environment))) :: rest ∧
      ∀ level, .tensorflow (.load level) ∉ rest

/-! ## What a session can meet -/

/-- The backend of a library calls that library only. -/
theorem concerns_perform (l : Library) (version : Value) (q : Query) :
    ((Backend.loaded version l).perform q).Every (Event.Concerns l) := by
  cases l with
  | torch =>
    refine Every.rename (every_of_forall ?_ _)
    intro event
    cases event <;> trivial
  | tensorflow =>
    refine Every.rename (every_of_forall ?_ _)
    intro event
    cases event <;> trivial

theorem library_loadCall (h : Host) (l : Library) : (Backend.loadCall h l).library = l := by
  cases l <;> rfl

/-- The program of a session calls the selected library only. -/
theorem concerns_configured {loggerName : String} {c : Configuration} {l : Library} (hl : c.backend = .str l.key) {h : Host} :
    (configured loggerName c h).2.Every (Event.Concerns l) :=
  every_configured hl trivial (fun _ => library_loadCall _ l) (concerns_perform l) (fun _ _ => trivial) (fun _ _ _ => trivial) trivial

/-- Whether an event is anything but the loading of TensorFlow. -/
def Unloading : Event LibraryCall → Prop
  | .called (.tensorflow (.load _)) _ => False
  | _ => True

/-- TensorFlow is not loaded by its backend. -/
theorem unloading_perform (version : Value) (q : Query) : ((Backend.loaded version .tensorflow).perform q).Every Unloading := by
  have hcall : ∀ (c : TensorFlowCall) (reply : Reply), c.Usual → Unloading (.called (.tensorflow c) reply) := by
    intro c reply hc
    cases c <;> trivial
  exact Every.rename (TensorFlow.every_perform hcall version q (Or.inl fun _ _ => trivial))

/-- A session of TensorFlow begins by loading it, and never loads it again. -/
theorem calls_of_tensorflow {s : Surroundings} {c : Configuration} (hl : c.backend = .str (Library.key .tensorflow)) (h : Host) :
    ∃ rest, History.calls ((configured s.loggerName c h).2.run (world s) []).1 =
        Backend.loadCall (Backend.prepare h .tensorflow) .tensorflow :: rest ∧
      ∀ level, .tensorflow (.load level) ∉ rest := by
  obtain ⟨events, hevents, ht, -⟩ := run_trace (world s) (configured s.loggerName c h).2 []
  rw [hevents, List.nil_append]
  rw [configured_program s.loggerName hl] at ht
  obtain ⟨_, rfl, hload⟩ := trace_note_bind ht
  rcases trace_ask_bind hload with ⟨version, rest, rfl, hstages⟩ | ⟨e, rfl, -⟩
  case inr => exact ⟨[], rfl, nofun⟩
  refine ⟨History.calls rest, rfl, fun level hm => ?_⟩
  obtain ⟨reply, hm⟩ := History.mem_calls_iff.mp hm
  have hprogram : ∀ stage, (Stage.program c (Backend.prepare h .tensorflow).environment (Backend.loaded version .tensorflow)
      stage).Every Unloading := Stage.every_program (unloading_perform version) (fun _ _ => trivial) fun _ _ => trivial
  exact ((every_inOrder hprogram _).bind fun _ => every_note trivial).trace hstages _ hm

/-! ## What a session does to its host -/

/-- Unless TensorFlow was selected, loading a library changes nothing of the host. -/
theorem configured_fst {loggerName : String} {c : Configuration}
    (hl : (Backend.library? c.backend).toOption ≠ some .tensorflow) (h : Host) : (configured loggerName c h).1 = h := by
  unfold configured Backend.create
  cases hlibrary : Backend.library? c.backend with
  | error e => rfl
  | ok l =>
    cases l with
    | torch => rfl
    | tensorflow =>
      rw [hlibrary] at hl
      exact absurd rfl hl

/-- TensorFlow is loaded in an environment with the level of its messages. -/
theorem messageLevel_prepare (h : Host) :
    (Backend.prepare h .tensorflow).environment.value? Environment.minLogLevel = some (messageLevel h.environment) := by
  change (h.environment.setDefault Environment.minLogLevel Environment.errorsOnly).value? Environment.minLogLevel = _
  rw [Environment.value?_setDefault, if_pos rfl]
  rfl

/-! ## Two sessions -/

variable {s : Surroundings} {words : List String} {args : Arguments} {c : Configuration}

/-- A session that ended without a configuration selected nothing. -/
theorem selects_untouched (s : Surroundings) (ending : Ending) : Selects none s { ending := ending, host := s.host } where
  calls := nofun
  environment := fun _ => rfl
  levels := fun _ _ => ⟨rfl, rfl⟩
  loaded := nofun

/-- A session that has a configuration selected the library that this names. -/
theorem selects_configured (hargs : Arguments.ofTexts words = .ok args) (hc : Configuration.build s.files args = .ok c) :
    Selects (Backend.library? c.backend).toOption s (run s words) := by
  obtain ⟨-, logging, hlogging⟩ := setUp_of_build hc s.host.logging
  have hlevels : ∀ name, logging.ownLevel name = s.host.logging.ownLevel name := by
    intro name
    have hsetUp := Logging.ownLevel_setUp s.host.logging c.logLevel name
    rwa [hlogging] at hsetUp
  rw [run_of_setUp hargs hc hlogging]
  refine ⟨?_, ?_, ?_, ?_⟩
  · intro call hcall
    obtain ⟨reply, hevent⟩ := History.mem_calls_iff.mp hcall
    obtain ⟨events, hevents, ht, -⟩ := run_trace (world s) (configured s.loggerName c { s.host with logging }).2 []
    rw [outcomeOf, hevents, List.nil_append] at hevent
    rcases backend_of_build hargs hc with ⟨l, hl⟩ | hl
    · have hlibrary : call.library = l := (concerns_configured hl).trace ht _ hevent
      rw [hl, library?_key, hlibrary]
      rfl
    · rw [configured_of_list s.loggerName hl] at ht
      obtain ⟨rfl, -⟩ := trace_fail_iff.mp ht
      cases hevent
  · intro hl
    rw [outcomeOf, configured_fst hl]
  · intro hl name
    rw [outcomeOf, configured_fst hl]
    exact ⟨hlevels name, (Logging.ownLevel_logAll _ _ name).trans (hlevels name)⟩
  · intro hl
    have hbackend : c.backend = .str (Library.key .tensorflow) := by
      rcases backend_of_build hargs hc with ⟨l, hkey⟩ | hlist
      · rw [hkey, library?_key] at hl
        cases hl
        exact hkey
      · rw [hlist] at hl
        cases hl
    have hhost : (configured s.loggerName c { s.host with logging }).1 = Backend.prepare { s.host with logging } .tensorflow := by
      rw [configured_eq s.loggerName hbackend]
    obtain ⟨rest, hcalls, hrest⟩ := calls_of_tensorflow (s := s) hbackend { s.host with logging }
    rw [Backend.loadCall, messageLevel_prepare] at hcalls
    refine ⟨?_, rest, hcalls, hrest⟩
    rw [outcomeOf, hhost]
    exact messageLevel_prepare { s.host with logging }

/-- Two sessions with libraries that agree on the one that is configured come to the same. -/
theorem run_eq_of_agreeOn (hargs : Arguments.ofTexts words = .ok args) (hc : Configuration.build s.files args = .ok c)
    {libraries : History LibraryCall → LibraryCall → Reply}
    (hagree : ∀ l, c.backend = .str (Library.key l) → AgreeOn l s.libraries libraries) :
    run { s with libraries } words = run s words := by
  obtain ⟨-, logging, hlogging⟩ := setUp_of_build hc s.host.logging
  have hsame : (configured s.loggerName c { s.host with logging }).2.run (world { s with libraries }) [] =
      (configured s.loggerName c { s.host with logging }).2.run (world s) [] := by
    rcases backend_of_build hargs hc with ⟨l, hl⟩ | hl
    · have hconcerns : (configured s.loggerName c { s.host with logging }).2.Every (Event.Concerns l) := concerns_configured hl
      have hanswer : ∀ past call, (∀ event ∈ past, event.Concerns l) → (∀ reply, Event.Concerns l (.called call reply)) →
          (world { s with libraries }).answer past call = (world s).answer past call :=
        fun past call hpast hcall => hagree l hl past call hpast (hcall (.ok .null))
      have htake : ∀ past line, (∀ event ∈ past, event.Concerns l) →
          (world { s with libraries }).take past line = (world s).take past line := fun _ _ _ => rfl
      exact hconcerns.run_congr hanswer htake nofun
    · rw [configured_of_list s.loggerName hl]
      rfl
  rw [run_of_setUp (s := { s with libraries }) hargs hc hlogging, run_of_setUp hargs hc hlogging]
  exact congrArg (outcomeOf _) hsame

/-- A session does not depend on the library that it does not select, whether that is there or not, and does not call it. Whatever
becomes of it is the same: what it writes and logs, how it ends, what it called and how it leaves its host. Only where TensorFlow is
selected is the host changed for it, and that before TensorFlow is loaded. -/
theorem selection_isolates (s : Surroundings) (words : List String) (libraries : History LibraryCall → LibraryCall → Reply)
    (hagree : ∀ l, selected s.files words = some l → AgreeOn l s.libraries libraries) :
    run { s with libraries } words = run s words ∧ Selects (selected s.files words) s (run s words) := by
  cases hargs : Arguments.ofTexts words with
  | error stop =>
    have hselected : selected s.files words = none := by rw [selected, hargs]
    rw [hselected, run, run, hargs]
    exact ⟨rfl, selects_untouched s _⟩
  | ok args =>
    cases hc : Configuration.build s.files args with
    | error fault =>
      have hselected : selected s.files words = none := by
        rw [selected, hargs]
        dsimp only
        rw [hc]
      rw [hselected, run, run, hargs]
      dsimp only
      rw [hc]
      exact ⟨rfl, selects_untouched s _⟩
    | ok c =>
      have hselected : selected s.files words = (Backend.library? c.backend).toOption := by
        rw [selected, hargs]
        dsimp only
        rw [hc]
      rw [hselected] at hagree ⊢
      refine ⟨run_eq_of_agreeOn hargs hc fun l hl => hagree l ?_, selects_configured hargs hc⟩
      rw [hl, library?_key]
      rfl

/-- Surroundings in which TensorFlow is there without a device, the user set the level of its messages to nothing, and Torch answers
to every call so. -/
def beside (torch : Reply) : Surroundings where
  files := fun _ => none
  host := { environment := [(Environment.minLogLevel, "")] }
  libraries := fun h => fun
    | .torch _ => torch
    | .tensorflow c => Rehearsal.TensorFlow.usual (Rehearsal.Libraries.tensorflowPart h) c

/-- A session of TensorFlow comes to the same where Torch is not there, and leaves the user's level as it is. -/
theorem selection_isolates_missing :
    let words := ["-b", "tensorflow"]
    (run (beside (.ok .null)) words).output = "TensorFlow Version: 2.16.1\nGPU Available: false\nGPU Device Count: 0\n" ∧
      run (beside (.error missingTorch)) words = run (beside (.ok .null)) words ∧
      Selects (some .tensorflow) (beside (.ok .null)) (run (beside (.ok .null)) words) := by
  intro words
  refine ⟨by decide +kernel, ?_⟩
  have hagree : ∀ l, selected (beside (.ok .null)).files words = some l →
      AgreeOn l (beside (.ok .null)).libraries (beside (.error missingTorch)).libraries := by
    intro l hl past call _ hcall
    obtain rfl : Library.tensorflow = l := Option.some.inj hl
    cases call with
    | torch call => cases hcall
    | tensorflow call => rfl
  exact selection_isolates (beside (.ok .null)) words (beside (.error missingTorch)).libraries hagree

end Session

end AccelProbe
