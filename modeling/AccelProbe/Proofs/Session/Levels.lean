import AccelProbe.Proofs.Configuration.Level
import AccelProbe.Proofs.Session.Selection
import AccelProbe.Proofs.Session.Silence

/-!
# What the log level changes

The log level decides which records are shown, and nothing else. A record is made whether it is shown or not, so a session makes the
same calls, writes the same lines, logs the same records and ends alike whatever its log level is. Its loggers are none of TensorFlow's,
which have a level of their own, so every one of its records has to reach the level of the root and no other.
-/

namespace AccelProbe

namespace Logging

/-- The lines of records as a handler shows them, one after the other. -/
def linesOf (records : List LogRecord) : String := String.join (records.map handlerLine)

/-- The records from a level on. -/
def fromLevel (n : Int) (records : List LogRecord) : List LogRecord := records.filter fun r => decide (n ≤ r.level)

/-- Whether a record is shown wherever the root lets it through: it is no detail below all levels that can be chosen, and its logger
is none of TensorFlow's. -/
def Audible (r : LogRecord) : Prop := ¬ OfTensorFlow r.logger ∧ Level.debug ≤ r.level

/-- Every level that can be chosen lets through no less than the lowest one. -/
theorem fromLevel_debug {records : List LogRecord} (h : ∀ r ∈ records, Audible r) : fromLevel Level.debug records = records := by
  refine List.filter_eq_self.mpr ?_
  intro r hr
  exact decide_eq_true (h r hr).2

/-- Settled loggers with one handler show the line of an audible record that reaches the level of the root, and nothing of another. -/
theorem Settled.log_audible {l : Logging} {quiet : Bool} (h : Settled l quiet) (hl : l.handlers = 1) {r : LogRecord}
    (hr : Audible r) : (l.log r).2 = linesOf (fromLevel l.rootLevel [r]) := by
  obtain ⟨ho, hdebug⟩ := hr
  have hpositive : 0 < r.level := Int.lt_of_lt_of_le (by decide) hdebug
  have hbar : bar quiet l.rootLevel r.logger = l.rootLevel := if_neg fun hx => ho hx.2
  have hshown : l.shown r = linesOf [r] := by
    rw [shown, hl, if_neg Nat.one_ne_zero]
    rfl
  rw [h.log_eq r fun _ => isPlain_of_others ho, hbar, hshown, fromLevel, List.filter_cons, List.filter_nil]
  by_cases hp : l.rootLevel ≤ r.level
  · rw [if_pos ⟨hpositive, hp⟩, if_pos (decide_eq_true hp)]
  · rw [if_neg fun hx => hp hx.2, if_neg fun hx => hp (of_decide_eq_true hx)]
    rfl

theorem linesOf_append (records records' : List LogRecord) : linesOf (records ++ records') = linesOf records ++ linesOf records' := by
  rw [linesOf, List.map_append, String.join_append]
  rfl

/-- Of several audible records they show the lines of those that reach the level of the root, in the same order. -/
theorem Settled.logAll_audible {l : Logging} {quiet : Bool} (h : Settled l quiet) (hl : l.handlers = 1) {records : List LogRecord}
    (hr : ∀ r ∈ records, Audible r) : (l.logAll records).2 = linesOf (fromLevel l.rootLevel records) := by
  induction records generalizing l with
  | nil => rfl
  | cons r records ih =>
    obtain ⟨hfirst, hrest⟩ := List.forall_mem_cons.mp hr
    obtain ⟨hlevel, hhandlers⟩ := root_judge l r
    have hothers : ((l.judge r).1.logAll records).2 = linesOf (fromLevel l.rootLevel records) := by
      rw [← hlevel]
      exact ih (h.judge r) (hhandlers.trans hl) hrest
    calc (l.logAll (r :: records)).2
      _ = (l.log r).2 ++ ((l.judge r).1.logAll records).2 := rfl
      _ = linesOf (fromLevel l.rootLevel [r]) ++ linesOf (fromLevel l.rootLevel records) := by rw [h.log_audible hl hfirst, hothers]
      _ = linesOf (fromLevel l.rootLevel (r :: records)) := by
        rw [← linesOf_append, fromLevel, fromLevel, ← List.filter_append]
        rfl

/-- The root after a set-up of unconfigured logging with the name of a level that a configuration may have. -/
theorem root_setUp {level : String} {n : Int} (hm : level ∈ Level.choices) (hn : Level.named? level = some n) :
    SameRoot (({} : Logging).setUp (.str level)).1 { rootLevel := n, handlers := 1 } := by
  refine ⟨rootLevel_setUp hm hn, ?_⟩
  have hmeaning : meaning? level = some (.level n) := by
    rw [meaning?, hn]
  simp only [setUp, Configuration.upper_of_mem_choices hm, hmeaning]
  rfl

end Logging

namespace Session

open Program Logging

/-- Whether an event is no record, or one that is shown wherever the root lets it through. -/
def HeardOf : Event LibraryCall → Prop
  | .logged r => Audible r
  | _ => True

section

variable {Call : Type} {c : Configuration} {b : Backend Call} {record : LogRecord}

/-- The records of the stages go through loggers of their own and are at least of the lowest level that can be chosen. -/
theorem audible_of_logs (hr : Stage.Logs c b record) : Audible record := by
  have hdiagnostic : ¬ OfTensorFlow Section.Diagnostic.loggerName := by decide +kernel
  have henvironment : ¬ OfTensorFlow Section.Environment.loggerName := by decide +kernel
  have hcompute : ¬ OfTensorFlow Section.Compute.loggerName := by decide +kernel
  have hdebug : Level.debug ≤ Level.debug := by decide
  have hinfo : Level.debug ≤ Level.info := by decide
  have herror : Level.debug ≤ Level.error := by decide
  cases hr with
  | start => exact ⟨hdiagnostic, hdebug⟩
  | skipped => exact ⟨hdiagnostic, hinfo⟩
  | allocation hr =>
    obtain ⟨shape, -, hr⟩ := exists_of_bind_eq_ok hr
    obtain ⟨text, -, hr⟩ := exists_of_bind_eq_ok hr
    cases hr
    exact ⟨hdiagnostic, hinfo⟩
  | unallocated hr =>
    obtain ⟨text, -, rfl⟩ := exists_of_map_eq_ok hr
    exact ⟨hdiagnostic, herror⟩
  | count n => exact ⟨henvironment, hdebug⟩
  | multiplication hr =>
    obtain ⟨text, -, rfl⟩ := exists_of_map_eq_ok hr
    exact ⟨hcompute, hinfo⟩
  | unmultiplied hr =>
    obtain ⟨text, -, rfl⟩ := exists_of_map_eq_ok hr
    exact ⟨hcompute, herror⟩

end

/-- Every record of a session is shown wherever the root lets it through, as long as the session's own logger is none of
TensorFlow's. -/
theorem audible_configured {loggerName : String} (hname : ¬ OfTensorFlow loggerName) {c : Configuration} {l : Library}
    (hl : c.backend = .str l.key) {h : Host} : (configured loggerName c h).2.Every HeardOf := by
  have hloader : ¬ OfTensorFlow Backend.loggerName := by decide +kernel
  have hinfo : Level.debug ≤ Level.info := by decide
  exact every_configured hl ⟨hloader, Int.le_refl Level.debug⟩ (fun _ => trivial)
    (fun version q => ((Backend.plain_loaded version l).quiet q).every fun _ _ => trivial) (fun _ _ => trivial)
    (fun _ _ => audible_of_logs) ⟨hname, hinfo⟩

/-! ## One session -/

variable {s : Surroundings} {words : List String} {args : Arguments} {c : Configuration}

/-- A library is prepared for by nothing that the root would notice. -/
theorem settled_configured {loggerName : String} (c : Configuration) {h : Host} (hl : Settled h.logging false) :
    (∃ quiet, Settled (configured loggerName c h).1.logging quiet) ∧ SameRoot (configured loggerName c h).1.logging h.logging := by
  unfold configured Backend.create
  cases Backend.library? c.backend with
  | error e => exact ⟨⟨false, hl⟩, rfl, rfl⟩
  | ok l =>
    cases l with
    | torch => exact ⟨⟨false, hl⟩, rfl, rfl⟩
    | tensorflow => exact ⟨⟨true, hl.quieten⟩, sameRoot_quieten h.logging⟩

/-- Every record of a session that has a configuration is shown wherever the root lets it through. -/
theorem audible_records (hname : ¬ OfTensorFlow s.loggerName) (hargs : Arguments.ofTexts words = .ok args)
    (hc : Configuration.build s.files args = .ok c) : ∀ r ∈ (run s words).history.records, Audible r := by
  obtain ⟨logging, hrun⟩ := run_eq_outcomeOf hargs hc
  obtain ⟨events, hevents, ht, -⟩ := run_trace (world s) (configured s.loggerName c { s.host with logging }).2 []
  intro r hr
  rw [hrun, outcomeOf, hevents, List.nil_append] at hr
  have hr : .logged r ∈ events := History.mem_records_iff.mp hr
  rcases backend_of_build hargs hc with ⟨l, hl⟩ | hl
  · exact (audible_configured hname hl).trace ht _ hr
  · rw [configured_of_list s.loggerName hl] at ht
    obtain ⟨rfl, -⟩ := trace_fail_iff.mp ht
    cases hr

/-- What a session that has a configuration shows is what its loggers show of its records. -/
theorem errors_outcomeOf (host : Host) (result : History LibraryCall × Except Failure Unit) :
    (outcomeOf host result).errors = (host.logging.logAll (outcomeOf host result).history.records).2 := by
  obtain ⟨history, r⟩ := result
  cases r <;> rfl

/-- What a session shows of its records, where logging was not configured before: those that reach its log level. -/
theorem errors_of_configured (hlogging : s.host.logging = {}) (hname : ¬ OfTensorFlow s.loggerName)
    (hargs : Arguments.ofTexts words = .ok args) (hc : Configuration.build s.files args = .ok c) {level : String} {n : Int}
    (hlevel : c.logLevel = .str level) (hm : level ∈ Level.choices) (hn : Level.named? level = some n) :
    (run s words).errors = linesOf (fromLevel n (run s words).history.records) := by
  have haudible := audible_records hname hargs hc
  obtain ⟨-, logging, hsetUp⟩ := setUp_of_build hc s.host.logging
  rw [run_of_setUp hargs hc hsetUp] at haudible ⊢
  rw [hlogging, hlevel] at hsetUp
  have hsettled : Settled logging false := by
    have hs := Settled.unconfigured.setUp (.str level)
    rwa [hsetUp] at hs
  have hroot : SameRoot logging { rootLevel := n, handlers := 1 } := by
    have hr := root_setUp hm hn
    rwa [hsetUp] at hr
  obtain ⟨⟨quiet, hquiet⟩, hsame⟩ := @settled_configured s.loggerName c { s.host with logging } hsettled
  have hend := hsame.trans hroot
  rw [errors_outcomeOf, hquiet.logAll_audible hend.2 haudible, hend.1]

/-! ## Two sessions -/

/-- The program of a session does not look at the log level, nor at the loggers. -/
theorem configured_relevelled (loggerName : String) (c : Configuration) (level : Value) (h : Host) (logging : Logging) :
    (configured loggerName { c with logLevel := level } { h with logging }).2 = (configured loggerName c h).2 ∧
      (configured loggerName { c with logLevel := level } { h with logging }).1.environment =
        (configured loggerName c h).1.environment := by
  unfold configured Backend.create
  dsimp only
  cases Backend.library? c.backend with
  | error e => exact ⟨rfl, rfl⟩
  | ok l =>
    cases l with
    | torch => exact ⟨rfl, rfl⟩
    | tensorflow => exact ⟨rfl, rfl⟩

/-- Two sessions that differ in the log level: whatever else can be seen of them is the same, and what they show of their records
is what reaches the log level of each. -/
structure Filtered (files files' : FileSystem) (words : List String) (o o' : Outcome) : Prop where
  /-- They end alike: both are finished, or both end with the same failure. -/
  ending : o'.ending = o.ending
  /-- They write the same. -/
  output : o'.output = o.output
  /-- They do the same in the same order: the same calls with the same arguments, the same lines and the same records. -/
  history : o'.history = o.history
  /-- They leave the same environment. -/
  environment : o'.host.environment = o.host.environment
  /-- Without a configuration they show the same. -/
  refused : (∀ args c, Arguments.ofTexts words = .ok args → Configuration.build files args ≠ .ok c) → o'.errors = o.errors
  /-- With one, the first session shows the records from its level on, and the other one shows all where its level is the lowest. -/
  filtered : ∀ args c c', Arguments.ofTexts words = .ok args → Configuration.build files args = .ok c →
    Configuration.build files' args = .ok c' → ∃ level ∈ Level.choices, ∃ n, c.logLevel = .str level ∧
      Level.named? level = some n ∧ o.errors = linesOf (fromLevel n o'.history.records) ∧
        (c'.logLevel = .str "DEBUG" → o'.errors = linesOf o'.history.records)

/-- The names of the log levels stand for levels. -/
theorem exists_named_of_mem {level : String} (h : level ∈ Level.choices) : ∃ n, Level.named? level = some n := by
  simp only [Level.choices, List.mem_cons, List.not_mem_nil, or_false] at h
  rcases h with rfl | rfl | rfl | rfl | rfl <;> exact ⟨_, rfl⟩

/-- The log level of a session filters what it shows of its records and changes nothing else, for every command line, environment
and behaviour of the libraries. The two sessions have the same surroundings but for the log level of the configuration. -/
theorem level_filters (s : Surroundings) (files' : FileSystem) (words : List String) (hlogging : s.host.logging = {})
    (hname : ¬ OfTensorFlow s.loggerName)
    (hfiles : ∀ args, Arguments.ofTexts words = .ok args → args.config.isNull = false →
      Configuration.SameButLevel s.files files' args.config) :
    Filtered s.files files' words (run s words) (run { s with files := files' } words) := by
  cases hargs : Arguments.ofTexts words with
  | error stop =>
    have hsame : run { s with files := files' } words = run s words := by rw [run, run, hargs]
    rw [hsame]
    refine ⟨rfl, rfl, rfl, rfl, fun _ => rfl, fun args c c' ha => ?_⟩
    cases hargs.symm.trans ha
  | ok args =>
    rcases Configuration.SameButLevel.build (hfiles args hargs) with ⟨fault, hfault, hfault'⟩ | ⟨c, level', hc, hc'⟩
    · have hsame : run { s with files := files' } words = run s words := by
        rw [run, run, hargs]
        dsimp only
        rw [hfault, hfault']
      rw [hsame]
      refine ⟨rfl, rfl, rfl, rfl, fun _ => rfl, fun args' c c' ha hc => ?_⟩
      cases hargs.symm.trans ha
      cases hfault.symm.trans hc
    · -- the same program is run in the same world
      obtain ⟨⟨level, hm, hlevel⟩, logging, hsetUp⟩ := setUp_of_build hc s.host.logging
      obtain ⟨-, logging', hsetUp'⟩ := setUp_of_build hc' s.host.logging
      obtain ⟨hprogram, henvironment⟩ := configured_relevelled s.loggerName c level' { s.host with logging } logging'
      have hrun := run_of_setUp hargs hc hsetUp
      have hrun' := run_of_setUp (s := { s with files := files' }) hargs hc' hsetUp'
      have hhistory : (run { s with files := files' } words).history = (run s words).history := by
        rw [hrun, hrun', outcomeOf, hprogram]
        rfl
      refine ⟨?_, ?_, hhistory, ?_, fun hnone => absurd hc (hnone args c hargs), ?_⟩
      · rw [hrun, hrun', outcomeOf, hprogram]
        rfl
      · rw [hrun, hrun', output_outcomeOf, output_outcomeOf, hprogram]
        rfl
      · rw [hrun, hrun', outcomeOf, henvironment]
        rfl
      · intro args₁ c₁ c₁' ha hb hb'
        cases hargs.symm.trans ha
        cases hc.symm.trans hb
        cases hc'.symm.trans hb'
        obtain ⟨n, hn⟩ := exists_named_of_mem hm
        refine ⟨level, hm, n, hlevel, hn, ?_, fun hdebug => ?_⟩
        · rw [hhistory]
          exact errors_of_configured hlogging hname hargs hc hlevel hm hn
        · have hall := audible_records (s := { s with files := files' }) hname hargs hc'
          have hshown := errors_of_configured (s := { s with files := files' }) hlogging hname hargs hc' hdebug (by decide) rfl
          rwa [fromLevel_debug hall] at hshown

/-- A document that sets the log level and nothing else. -/
def levelDocument (level : String) : String := "[diagnostic]\nlog_level = \"" ++ level ++ "\"\n"

/-- Surroundings with such a document, in which the libraries say of everything that it is not there. -/
def leveled (level : String) : Surroundings where
  files := fun path => if path = "probe.toml" then some (.file (levelDocument level).toUTF8) else none
  host := {}
  libraries := fun _ _ => .ok (.bool false)

/-- What a session shows there at the lowest level. -/
def leveledErrors : String :=
  "src.infrastructure.backends - DEBUG - Loading torch backend\n" ++
    "src.domain.use_cases.run_diagnostic - DEBUG - Running diagnostic with the Torch backend\n" ++
    "src.domain.use_cases.run_diagnostic - INFO - No CUDA device available, skipping allocation.\n" ++
    "main - INFO - Diagnostic completed.\n"

/-- A session that shows errors alone, of which there are none, and one that shows everything. -/
theorem level_filters_leveled :
    let words := ["-c", "probe.toml"]
    (run (leveled "ERROR") words).errors = "" ∧ (run (leveled "debug") words).errors = leveledErrors ∧
      Filtered (leveled "ERROR").files (leveled "debug").files words (run (leveled "ERROR") words) (run (leveled "debug") words) := by
  intro words
  refine ⟨by decide +kernel, by decide +kernel, ?_⟩
  have hread : Toml.read (levelDocument "ERROR") = .ok [("diagnostic", .dictionary [("log_level", .str "ERROR")])] := by
    with_unfolding_all rfl
  have hread' : Toml.read (levelDocument "debug") = .ok [("diagnostic", .dictionary [("log_level", .str "debug")])] := by
    with_unfolding_all rfl
  have hfiles : ∀ args, Arguments.ofTexts words = .ok args → args.config.isNull = false →
      Configuration.SameButLevel (leveled "ERROR").files (leveled "debug").files args.config := by
    intro args hargs _
    cases (show Arguments.ofTexts words = .ok { config := .str "probe.toml" } from rfl).symm.trans hargs
    exact .documents ⟨_, _, rfl, rfl, hread⟩ ⟨_, _, rfl, rfl, hread'⟩ rfl rfl
      ⟨rfl, ⟨"ERROR", rfl, by decide⟩, ⟨"debug", rfl, by decide +kernel⟩⟩
  exact level_filters (leveled "ERROR") (leveled "debug").files words rfl (by decide +kernel) hfiles

end Session

end AccelProbe
