import AccelProbe.Proofs.Logging.Steps
import AccelProbe.Proofs.Session.Sequence

/-!
# What a silencing takes away

TensorFlow's loggers are silenced before the library is loaded. That takes records away and changes nothing for the loggers of
others. It can show a record, too: a logger with a level of its own does not ask the root, so errors of TensorFlow's pass where the
root lets only graver records through.
-/

namespace AccelProbe

namespace Logging

open LoggerTree

/-- With a silencing among the steps, a logger of others shows what it shows without it. -/
theorem log_inserted_of_others (first rest : List Step) {r : LogRecord} (ho : ¬ OfTensorFlow r.logger) :
    ((after {} (first ++ .quieten :: rest)).log r).2 = ((after {} (first ++ rest)).log r).2 := by
  have hplain : IsPlain r.logger := isPlain_of_others ho
  have hbar : ∀ quiet rootLevel, bar quiet rootLevel r.logger = rootLevel :=
    fun quiet rootLevel => if_neg fun hx => ho hx.2
  have hroot := sameRoot_insert {} first rest
  rw [(Settled.unconfigured.after _).log_eq r fun _ => hplain, (Settled.unconfigured.after _).log_eq r fun _ => hplain, hbar, hbar, hroot.1,
    hroot.shown_eq]

/-- With a silencing among the steps, a logger of TensorFlow's shows what it shows without it, or nothing, unless the record is an
error or graver and below the level of the root. -/
theorem log_inserted (first rest : List Step) {r : LogRecord} (hf : OfTensorFlow r.logger) (hplain : IsPlain r.logger)
    (hl : ¬ (Level.error ≤ r.level ∧ r.level < (after {} (first ++ rest)).rootLevel)) :
    ((after {} (first ++ .quieten :: rest)).log r).2 = "" ∨
      ((after {} (first ++ .quieten :: rest)).log r).2 = ((after {} (first ++ rest)).log r).2 := by
  have hroot := sameRoot_insert {} first rest
  have hquiet : (false || (first ++ .quieten :: rest).any Step.silences) = true := by simp [Step.silences]
  have hsilenced := (Settled.unconfigured.after (first ++ .quieten :: rest)).log_eq r fun _ => hplain
  have husual := (Settled.unconfigured.after (first ++ rest)).log_eq r fun _ => hplain
  have hbar : bar true (after {} (first ++ .quieten :: rest)).rootLevel r.logger = Level.error := if_pos ⟨rfl, hf⟩
  rw [hquiet, hbar, hroot.shown_eq] at hsilenced
  by_cases hp : 0 < r.level ∧ Level.error ≤ r.level
  · have hpasses : bar (false || (first ++ rest).any Step.silences) (after {} (first ++ rest)).rootLevel r.logger ≤ r.level := by
      unfold bar
      split
      · exact hp.2
      · have hnot : ¬ r.level < (after {} (first ++ rest)).rootLevel := fun hlt => hl ⟨hp.2, hlt⟩
        omega
    rw [if_pos hp] at hsilenced
    rw [if_pos ⟨hp.1, hpasses⟩] at husual
    exact Or.inr (hsilenced.trans husual.symm)
  · rw [if_neg hp] at hsilenced
    exact Or.inl hsilenced

/-- With a silencing among the steps, a logger shows what it shows of a record that passes without it, or nothing, however its name is
written; and nothing of a record that is below the level of the root and no error. -/
theorem log_inserted_bounded (first rest : List Step) (r : LogRecord) :
    (((after {} (first ++ .quieten :: rest)).log r).2 = "" ∨
        ((after {} (first ++ .quieten :: rest)).log r).2 = (after {} (first ++ rest)).shown r) ∧
      (r.level < (after {} (first ++ rest)).rootLevel → r.level < Level.error →
        ((after {} (first ++ .quieten :: rest)).log r).2 = "") := by
  have hroot := sameRoot_insert {} first rest
  refine ⟨?_, fun hlt => (Settled.unconfigured.after _).log_eq_empty (hroot.1.symm ▸ hlt)⟩
  rw [log_snd, hroot.shown_eq]
  split
  · exact Or.inr rfl
  · exact Or.inl rfl

/-- Steps after which a logger of TensorFlow's has another one above it and does not know of it. The search for the loggers above
the first one finds that of the second, but not from there the silenced one: two points stand behind its name. -/
def detachedSteps : List Step :=
  [.setUp (.str "INFO"), .quieten, .log ⟨"tensorflow...x", Level.info, ""⟩, .log ⟨"tensorflow..", Level.info, ""⟩]

/-- Two points must not stand right behind the name of a silenced logger for a silencing to show nothing below it: here the logger has
the level of the root, and it does not notice until decisions are forgotten, which a silencing does. -/
theorem log_inserted_detached :
    ((after {} (detachedSteps ++ .quieten :: [])).log ⟨"tensorflow...x", Level.info, "loaded"⟩).2 =
        "tensorflow...x - INFO - loaded\n" ∧
      ((after {} (detachedSteps ++ [])).log ⟨"tensorflow...x", Level.info, "loaded"⟩).2 = "" := by
  decide +kernel

/-- Once TensorFlow's loggers are silenced, no record is shown that is below the level of the root and no error, whatever was logged
before. -/
theorem log_silenced {l : Logging} {quiet : Bool} (h : Settled l quiet) (earlier : List LogRecord) {r : LogRecord}
    (hroot : r.level < l.rootLevel) (herror : r.level < Level.error) : ((l.quieten.logAll earlier).1.log r).2 = "" := by
  refine (h.quieten.logAll earlier).log_eq_empty ?_ herror
  rw [(SameRoot.logAll l.quieten earlier).1]
  exact hroot

/-- The level of the root after a set-up of unconfigured logging with the name of a level that a configuration may have. -/
theorem rootLevel_setUp {level : String} {n : Int} (hm : level ∈ Level.choices) (hn : Level.named? level = some n) :
    ((({} : Logging).setUp (.str level)).1).rootLevel = n := by
  have hmeaning : meaning? level = some (.level n) := by
    rw [meaning?, hn]
  simp only [setUp, Configuration.upper_of_mem_choices hm, hmeaning]
  rfl

end Logging

namespace Session

/-- A session that chose TensorFlow leaves the log set up as configured and TensorFlow's loggers silenced. -/
theorem logging_of_tensorflow {s : Surroundings} {words : List String} {args : Arguments} {c : Configuration}
    (hargs : Arguments.ofTexts words = .ok args) (hc : Configuration.build s.files args = .ok c)
    (hl : c.backend = .str (Library.key .tensorflow)) :
    (run s words).host.logging = (s.host.logging.setUp c.logLevel).1.quieten := by
  obtain ⟨-, logging, hlogging⟩ := setUp_of_build hc s.host.logging
  have hcreate : Backend.create c.backend { s.host with logging } =
      (Host.quieten { s.host with logging }, Backend.load (Host.quieten { s.host with logging }) .tensorflow) := by
    rw [Backend.create, hl, library?_key]
    rfl
  rw [run_of_setUp hargs hc hlogging, outcomeOf, configured, hcreate, hlogging]
  rfl

/-- To silence TensorFlow's loggers takes records of theirs away and changes nothing else, wherever it stands among the steps of
logging, with one exception: an error that is below the level of the root may be shown. That holds of the loggers that the search does
not miss below a silenced one. Of any other it is still true that a record is shown as it is or not at all, and that none is shown
that is below the level of the root and no error. So a session on TensorFlow shows no record below the configured level, unless the
record is an error or graver. -/
theorem silencing_removes (first rest : List Logging.Step) (r : LogRecord) :
    (¬ Logging.OfTensorFlow r.logger →
        ((Logging.after {} (first ++ .quieten :: rest)).log r).2 = ((Logging.after {} (first ++ rest)).log r).2) ∧
      (Logging.OfTensorFlow r.logger → Logging.IsPlain r.logger →
        ((Logging.after {} (first ++ .quieten :: rest)).log r).2 = "" ∨
          ((Logging.after {} (first ++ .quieten :: rest)).log r).2 = ((Logging.after {} (first ++ rest)).log r).2 ∨
            Level.error ≤ r.level ∧ r.level < (Logging.after {} (first ++ rest)).rootLevel) ∧
      ((((Logging.after {} (first ++ .quieten :: rest)).log r).2 = "" ∨
          ((Logging.after {} (first ++ .quieten :: rest)).log r).2 = (Logging.after {} (first ++ rest)).shown r) ∧
        (r.level < (Logging.after {} (first ++ rest)).rootLevel → r.level < Level.error →
          ((Logging.after {} (first ++ .quieten :: rest)).log r).2 = "")) ∧
      ∀ (s : Surroundings) (words : List String) (args : Arguments) (c : Configuration) (level : String) (n : Int),
        s.host.logging = {} → Arguments.ofTexts words = .ok args → Configuration.build s.files args = .ok c →
        c.backend = .str (Library.key .tensorflow) → c.logLevel = .str level → Level.named? level = some n →
        ∀ earlier : List LogRecord, r.level < n → r.level < Level.error →
          (((run s words).host.logging.logAll earlier).1.log r).2 = "" := by
  refine ⟨Logging.log_inserted_of_others first rest, ?_, Logging.log_inserted_bounded first rest r, ?_⟩
  · intro hf hr
    by_cases hl : Level.error ≤ r.level ∧ r.level < (Logging.after {} (first ++ rest)).rootLevel
    · exact Or.inr (Or.inr hl)
    · rcases Logging.log_inserted first rest hf hr hl with hnone | hsame
      · exact Or.inl hnone
      · exact Or.inr (Or.inl hsame)
  · intro s words args c level n hhost hargs hc hl hlevel hn earlier hlt herror
    obtain ⟨⟨level', hm, hlevel'⟩, -⟩ := setUp_of_build hc s.host.logging
    obtain rfl : level' = level := by
      rw [hlevel'] at hlevel
      exact Value.str.inj hlevel
    have hroot : (({} : Logging).setUp (.str level')).1.rootLevel = n := Logging.rootLevel_setUp hm hn
    rw [logging_of_tensorflow hargs hc hl, hhost, hlevel']
    exact Logging.log_silenced (Logging.Settled.unconfigured.setUp _) earlier (hroot.symm ▸ hlt) herror

/-- Surroundings in which nothing was configured and TensorFlow answers to nothing. -/
def untouched : Surroundings where
  files := fun _ => none
  host := {}
  libraries := fun _ _ => .ok .null

/-- A warning of TensorFlow's is taken away from a log that shows what a run does, and a session on TensorFlow shows none of its
details. -/
theorem silencing_removes_warning :
    ((Logging.after {} ([.setUp (.str "INFO")] ++ [])).log ⟨"tensorflow.python", Level.warning, "slow"⟩).2 ≠ "" ∧
      ((Logging.after {} ([.setUp (.str "INFO")] ++ .quieten :: [])).log ⟨"tensorflow.python", Level.warning, "slow"⟩).2 = "" ∧
      (((run untouched ["-b", "tensorflow"]).host.logging.logAll []).1.log ⟨"absl", Level.debug, "slow"⟩).2 = "" := by
  have hdiffer : ((Logging.after {} ([.setUp (.str "INFO")] ++ .quieten :: [])).log ⟨"tensorflow.python", Level.warning, "slow"⟩).2 ≠
      ((Logging.after {} ([.setUp (.str "INFO")] ++ [])).log ⟨"tensorflow.python", Level.warning, "slow"⟩).2 := by decide +kernel
  refine ⟨by decide +kernel, ?_, ?_⟩
  · have hsilenced := (silencing_removes [.setUp (.str "INFO")] [] ⟨"tensorflow.python", Level.warning, "slow"⟩).2.1
      (by decide +kernel) (by decide +kernel)
    rcases hsilenced with hnone | hsame | ⟨herror, -⟩
    · exact hnone
    · exact absurd hsame hdiffer
    · exact absurd herror (by decide)
  · exact (silencing_removes [] [] ⟨"absl", Level.debug, "slow"⟩).2.2.2 untouched ["-b", "tensorflow"] _ _ "INFO" Level.info rfl rfl
      rfl rfl rfl rfl [] (by decide) (by decide)

/-- An error of TensorFlow's where the root lets through only what ends a run: it is shown because of the silencing. -/
theorem silencing_reveals :
    ((Logging.after {} ([.setUp (.str "CRITICAL")] ++ .quieten :: [])).log ⟨"tensorflow", Level.error, "boom"⟩).2 =
        "tensorflow - ERROR - boom\n" ∧
      ((Logging.after {} ([.setUp (.str "CRITICAL")] ++ [])).log ⟨"tensorflow", Level.error, "boom"⟩).2 = "" := by
  decide +kernel

end Session

end AccelProbe
