import AccelProbe.Proofs.Logging.Steps

/-!
# What is written of a record

The first set-up that gives the root its handler decides what the root lets through, and no later step changes that. So what is written
of a record follows from the steps before it in a few words: which set-up came first, and whether TensorFlow's loggers were silenced.
A logger with two points right behind the name of a silenced one may come to stand below no silenced logger, or below one that it
does not notice. Of its records it is known that they pass where the root and a silenced logger let them through, and that they do
not where neither does.
-/

namespace AccelProbe

namespace Logging

/-- What the level of a set-up stands for, if it is a name that stands for anything. -/
def Step.meaning? : Step → Option Meaning
  | setUp (.str name) => Logging.meaning? (Text.upper name)
  | _ => none

/-- What the first of several set-ups stands for that finds a meaning for its level: the one that gives the root its handler. -/
def attached? (steps : List Step) : Option Meaning := steps.findSome? Step.meaning?

/-- The root that was given a handler for a meaning, or none. A meaning that is no level leaves the root its own. -/
def rootOf : Option Meaning → Logging
  | none => {}
  | some (.level n) => { rootLevel := n, handlers := 1 }
  | some (.text _) => { handlers := 1 }
  | some .other => { handlers := 1 }

/-- The level that a record has to reach at a logger after several steps: that of errors at the loggers of TensorFlow once they are
silenced, and else that of the set-up that gave the root its handler. -/
def threshold (steps : List Step) (name : String) : Int :=
  if steps.any Step.silences = true ∧ OfTensorFlow name then Level.error else (rootOf (attached? steps)).rootLevel

/-- Whether this is the level that the set-ups among several steps gave to the root. -/
inductive RootLevelFrom (steps : List Step) : Int → Prop where
  /-- The root has no handler yet, and its first level. -/
  | unconfigured (h : (after {} steps).handlers = 0) : RootLevelFrom steps Level.warning
  /-- A set-up with the name of a level gave the root its handler, and this level. -/
  | configured {before rest : List Step} {name : String} {n : Int} (hsteps : steps = before ++ .setUp (.str name) :: rest)
      (hbefore : (after {} before).handlers = 0) (hhandlers : ((after {} before).setUp (.str name)).1.handlers = 1)
      (hset : ((after {} before).setUp (.str name)).2 = none) (hname : Level.named? (Text.upper name) = some n) :
      RootLevelFrom steps n
  /-- A set-up gave the root its handler and then failed on its level. -/
  | failed {before rest : List Step} {level : Value} {fault : Fault} (hsteps : steps = before ++ .setUp level :: rest)
      (hbefore : (after {} before).handlers = 0) (hhandlers : ((after {} before).setUp level).1.handlers = 1)
      (hset : ((after {} before).setUp level).2 = some fault) : RootLevelFrom steps Level.warning

/-- What a record leaves where it is written: its line once the root has a handler, and before that its bare message. -/
def writing (steps : List Step) (r : LogRecord) : String :=
  if (after {} steps).handlers = 0 then r.message ++ "\n" else handlerLine r

/-- What is said of the records of a logger that may miss the silenced one above it: how it is written, and which records surely are. -/
structure Bounded (steps : List Step) (r : LogRecord) : Prop where
  /-- It is written like any other, or not at all. -/
  form : ((after {} steps).log r).2 = "" ∨ ((after {} steps).log r).2 = writing steps r
  /-- It is not written where it reaches neither the level of its logger nor that of the root, nor where a root without a handler
  shows no such record. -/
  reached : ((after {} steps).log r).2 ≠ "" →
    (threshold steps r.logger ≤ r.level ∨ (rootOf (attached? steps)).rootLevel ≤ r.level) ∧
      ((after {} steps).handlers = 0 → Level.warning ≤ r.level)
  /-- It is written where it reaches both levels and a root without a handler shows it. -/
  admitted : threshold steps r.logger ≤ r.level → (rootOf (attached? steps)).rootLevel ≤ r.level →
    ((after {} steps).handlers = 0 → Level.warning ≤ r.level) → ((after {} steps).log r).2 = writing steps r

variable {l : Logging}

/-! ## The root -/

/-- A set-up that finds no meaning for its level changes nothing. -/
theorem setUp_of_meaningless {level : Value} (h : (Step.setUp level).meaning? = none) : (l.setUp level).1 = l := by
  unfold setUp
  cases level with
  | str name =>
    have hname : meaning? (Text.upper name) = none := h
    simp only [hname]
  | _ => rfl

/-- Neither does a step change the root that has a handler already, nor a step that is no set-up or finds no meaning. -/
theorem sameRoot_step {s : Step} (h : l.handlers ≠ 0 ∨ s.meaning? = none) : SameRoot (l.step s) l := by
  cases s with
  | setUp level =>
    cases hm : (Step.setUp level).meaning? with
    | none =>
      change SameRoot (l.setUp level).1 l
      rw [setUp_of_meaningless hm]
      exact ⟨rfl, rfl⟩
    | some m =>
      have hhandlers : l.handlers ≠ 0 := h.resolve_right fun hnone => nomatch hm.symm.trans hnone
      cases level with
      | str name =>
        have hname : meaning? (Text.upper name) = some m := hm
        change SameRoot (l.setUp (.str name)).1 l
        simp only [setUp, hname, attach, if_pos hhandlers]
        exact ⟨rfl, rfl⟩
      | _ => cases hm
  | quieten => exact sameRoot_quieten l
  | log r => exact root_judge l r

/-- Once the root has a handler no later step changes it. -/
theorem sameRoot_after (h : l.handlers ≠ 0) (steps : List Step) : SameRoot (l.after steps) l := by
  induction steps generalizing l with
  | nil => exact ⟨rfl, rfl⟩
  | cons s steps ih =>
    have hstep := sameRoot_step (s := s) (Or.inl h)
    have hhandlers : (l.step s).handlers ≠ 0 := hstep.2 ▸ h
    exact (ih hhandlers).trans hstep

/-- A set-up that finds a meaning for its level gives the unconfigured root its handler. -/
theorem sameRoot_step_of_meaning {s : Step} {m : Meaning} (hl : SameRoot l {}) (hm : s.meaning? = some m) :
    SameRoot (l.step s) (rootOf (some m)) := by
  cases s with
  | setUp level =>
    cases level with
    | str name =>
      have hname : meaning? (Text.upper name) = some m := hm
      have hattached := hl.attach m
      change SameRoot (l.setUp (.str name)).1 _
      simp only [setUp, hname]
      refine hattached.trans ?_
      cases m <;> exact ⟨rfl, rfl⟩
    | _ => cases hm
  | quieten => cases hm
  | log r => cases hm

/-- The root after several steps is that of the first set-up that finds a meaning for its level. -/
theorem sameRoot_rootOf (hl : SameRoot l {}) (steps : List Step) : SameRoot (l.after steps) (rootOf (attached? steps)) := by
  induction steps generalizing l with
  | nil => exact hl
  | cons s steps ih =>
    unfold attached?
    rw [List.findSome?_cons]
    cases hm : s.meaning? with
    | none => exact ih ((sameRoot_step (Or.inr hm)).trans hl)
    | some m =>
      have hstep := sameRoot_step_of_meaning hl hm
      have hhandlers : (l.step s).handlers ≠ 0 := by
        rw [hstep.2]
        cases m <;> exact Nat.one_ne_zero
      exact (sameRoot_after hhandlers steps).trans hstep

/-- What is a level where one is expected is the level of that name. -/
theorem named?_of_meaning?_eq_level {name : String} {n : Int} (h : meaning? name = some (.level n)) : Level.named? name = some n := by
  unfold meaning? at h
  cases hn : Level.named? name with
  | some n' =>
    rw [hn] at h
    cases h
    rfl
  | none =>
    simp only [hn] at h
    split at h
    · cases h
    · split at h
      · cases h
      · cases h

/-- The root after several steps has the level that the set-ups among them gave to it. -/
theorem rootLevelFrom (steps : List Step) : RootLevelFrom steps (rootOf (attached? steps)).rootLevel := by
  have hroot := fun steps => @sameRoot_rootOf {} ⟨rfl, rfl⟩ steps
  cases hm : attached? steps with
  | none =>
    refine .unconfigured ?_
    rw [(hroot steps).2, hm]
    rfl
  | some m =>
    obtain ⟨before, s, rest, hsteps, hs, hnone⟩ := List.findSome?_eq_some_iff.mp hm
    have hbefore : (after {} before).handlers = 0 := by
      rw [(hroot before).2, attached?, List.findSome?_eq_none_iff.mpr hnone]
      rfl
    cases s with
    | setUp level =>
      cases level with
      | str name =>
        have hmeaning : meaning? (Text.upper name) = some m := hs
        have hsetUp : (after {} before).setUp (.str name) = (after {} before).attach m := by
          simp only [setUp, hmeaning]
        have hattach : ∀ m, ((after {} before).attach m).1.handlers = 1 := by
          intro m
          rw [attach, if_neg (not_not_intro hbefore)]
          cases m <;> rfl
        have hhandlers : ((after {} before).setUp (.str name)).1.handlers = 1 := hsetUp ▸ hattach m
        have hfault : ((after {} before).setUp (.str name)).2 = ((after {} before).attach m).2 := by rw [hsetUp]
        rw [attach, if_neg (not_not_intro hbefore)] at hfault
        cases m with
        | level n => exact .configured hsteps hbefore hhandlers hfault (named?_of_meaning?_eq_level hmeaning)
        | text form => exact .failed hsteps hbefore hhandlers hfault
        | other => exact .failed hsteps hbefore hhandlers hfault
      | _ => cases hs
    | quieten => cases hs
    | log r => cases hs

/-- The root has at most one handler. -/
theorem handlers_le_one (steps : List Step) : (after {} steps).handlers ≤ 1 := by
  rw [(sameRoot_rootOf ⟨rfl, rfl⟩ steps).2]
  cases attached? steps with
  | none => exact Nat.zero_le 1
  | some m => cases m <;> exact Nat.le_refl 1

/-! ## A record -/

/-- What the root shows of a record that passed: what it leaves, unless a root without a handler passes over it. -/
theorem shown_after (steps : List Step) (r : LogRecord) :
    (after {} steps).shown r = if (after {} steps).handlers = 0 → Level.warning ≤ r.level then writing steps r else "" := by
  unfold shown writing
  by_cases hhandlers : (after {} steps).handlers = 0
  · by_cases hgrave : Level.warning ≤ r.level
    · rw [if_pos hhandlers, if_pos hgrave, if_pos fun _ => hgrave, if_pos hhandlers]
    · rw [if_pos hhandlers, if_neg hgrave, if_neg fun hx => hgrave (hx hhandlers)]
  · have hhandler : (after {} steps).handlers = 1 := by
      have hone := handlers_le_one steps
      omega
    rw [if_neg hhandlers, if_pos fun hnone => absurd hnone hhandlers, if_neg hhandlers, hhandler]
    exact String.empty_append

/-- What is written of a record of a logger that misses no silenced one. -/
theorem log_after (steps : List Step) {r : LogRecord} (hpositive : 0 < r.level)
    (hname : steps.any Step.silences = true → IsPlain r.logger) :
    ((after {} steps).log r).2 =
      if threshold steps r.logger ≤ r.level ∧ ((after {} steps).handlers = 0 → Level.warning ≤ r.level) then writing steps r
      else "" := by
  have hsettled : Settled (after {} steps) (steps.any Step.silences) := Settled.unconfigured.after steps
  have hbar : bar (steps.any Step.silences) (after {} steps).rootLevel r.logger = threshold steps r.logger := by
    rw [bar, (sameRoot_rootOf ⟨rfl, rfl⟩ steps).1]
    rfl
  rw [hsettled.log_eq r hname, hbar, shown_after]
  by_cases hreaches : threshold steps r.logger ≤ r.level
  · rw [if_pos ⟨hpositive, hreaches⟩]
    by_cases hshown : (after {} steps).handlers = 0 → Level.warning ≤ r.level
    · rw [if_pos hshown, if_pos ⟨hreaches, hshown⟩]
    · rw [if_neg hshown, if_neg fun hx => hshown hx.2]
  · rw [if_neg fun hx => hreaches hx.2, if_neg fun hx => hreaches hx.1]

/-- A logger that the search may miss is one of TensorFlow's, so its level is that of errors once they are silenced. -/
theorem threshold_of_not_isPlain {steps : List Step} (hsilenced : steps.any Step.silences = true) {name : String}
    (hname : ¬ IsPlain name) : threshold steps name = Level.error :=
  if_pos ⟨hsilenced, Decidable.byContradiction fun ho => hname (isPlain_of_others ho)⟩

/-- What is known of a record of a logger that may miss a silenced one. -/
theorem bounded_after (steps : List Step) {r : LogRecord} (hpositive : 0 < r.level) (hsilenced : steps.any Step.silences = true)
    (hname : ¬ IsPlain r.logger) : Bounded steps r := by
  have hsettled : Settled (after {} steps) (steps.any Step.silences) := Settled.unconfigured.after steps
  have hroot : (after {} steps).rootLevel = (rootOf (attached? steps)).rootLevel := (sameRoot_rootOf ⟨rfl, rfl⟩ steps).1
  have hthreshold : threshold steps r.logger = Level.error := threshold_of_not_isPlain hsilenced hname
  have hbetween := hsettled.between_passes r
  rw [hroot] at hbetween
  have hshown := shown_after steps r
  refine ⟨?_, ?_, ?_⟩
  · rw [log_snd, hshown]
    by_cases hpassed : ((after {} steps).judge r).2 = true
    · rw [if_pos hpassed]
      by_cases hgrave : (after {} steps).handlers = 0 → Level.warning ≤ r.level
      · exact Or.inr (if_pos hgrave)
      · exact Or.inl (if_neg hgrave)
    · exact Or.inl (if_neg hpassed)
  · intro hwritten
    rw [log_snd] at hwritten
    have hpassed : ((after {} steps).judge r).2 = true := Decidable.byContradiction fun hp => hwritten (if_neg hp)
    rw [if_pos hpassed, hshown] at hwritten
    refine ⟨?_, Decidable.byContradiction fun hgrave => hwritten (if_neg hgrave)⟩
    obtain ⟨-, hle | ⟨-, hle⟩⟩ := hbetween.reached hpassed
    · exact Or.inr hle
    · exact Or.inl (hthreshold ▸ hle)
  · intro herror hle hgrave
    rw [log_snd, hbetween.admitted hpositive hle fun _ => hthreshold ▸ herror, if_pos rfl, hshown, if_pos hgrave]

/-- The root has at most one handler, and once it has one no step changes its handlers or its level. A record of a positive level is
written exactly where its level reaches that of its logger and, as long as there is no handler, that of warnings. The level of a logger
is that of errors for the loggers of TensorFlow, once they are silenced, and else that of the set-up that gave the root its handler.
What is written is the line of the record, or its bare message as long as there is no handler. Once TensorFlow's loggers are silenced,
no two points may stand right behind the name of one of them for that; where they do, a record that reaches neither the level of its
logger nor that of the root is not written, one that reaches both is, and what is written has the same form. -/
theorem written_eq (steps : List Step) :
    (after {} steps).handlers ≤ 1 ∧
      (∀ later, (after {} steps).handlers = 1 → SameRoot (after {} (steps ++ later)) (after {} steps)) ∧
      RootLevelFrom steps (rootOf (attached? steps)).rootLevel ∧
      ∀ r : LogRecord, 0 < r.level →
        ((steps.any Step.silences = true → IsPlain r.logger) →
          ((after {} steps).log r).2 =
            if threshold steps r.logger ≤ r.level ∧ ((after {} steps).handlers = 0 → Level.warning ≤ r.level) then writing steps r
            else "") ∧
          (steps.any Step.silences = true → ¬ IsPlain r.logger → Bounded steps r) := by
  refine ⟨handlers_le_one steps, ?_, rootLevelFrom steps, ?_⟩
  · intro later hhandlers
    rw [after, List.foldl_append]
    exact sameRoot_after (hhandlers ▸ Nat.one_ne_zero) later
  · intro r hpositive
    exact ⟨log_after steps hpositive, bounded_after steps hpositive⟩

/-- What is written of an error after a set-up that failed on its level, whether the search finds the silenced logger or may miss it;
the set-up behind it changes nothing. -/
theorem written_eq_failed :
    let steps : List Step := [.setUp (.str "basic_format"), .quieten, .setUp (.str "DEBUG")]
    let r : LogRecord := ⟨"absl.flags..x", Level.error, "boom"⟩
    let missed : LogRecord := ⟨"absl..flags", Level.error, "boom"⟩
    0 < r.level ∧ (steps.any Step.silences = true → IsPlain r.logger) ∧ ¬ IsPlain missed.logger ∧
      RootLevelFrom steps Level.warning ∧ ((after {} steps).log r).2 = "absl.flags..x - ERROR - boom\n" ∧
      ((after {} steps).log missed).2 = "absl..flags - ERROR - boom\n" := by
  intro steps r missed
  have hplain : IsPlain r.logger := by decide +kernel
  have hmissed : ¬ IsPlain missed.logger := by decide +kernel
  have hlevel : (rootOf (attached? steps)).rootLevel = Level.warning := by decide +kernel
  obtain ⟨-, -, hroot, hwritten⟩ := written_eq steps
  have hadmitted := ((hwritten missed (by decide)).2 rfl hmissed).admitted (by decide +kernel) (by decide +kernel) fun _ => by decide
  exact ⟨by decide, fun _ => hplain, hmissed, hlevel ▸ hroot,
    ((hwritten r (by decide)).1 fun _ => hplain).trans (by decide +kernel), hadmitted.trans (by decide +kernel)⟩

/-- Steps after which a logger below TensorFlow's has an own idea of where it stands: two points stand right behind the name of the
silenced logger, so that one is not found above it, until the logger between the two comes into being. -/
def skippedSteps : List Step :=
  [.setUp (.str "INFO"), .quieten, .log ⟨"tensorflow..x", Level.info, "a"⟩, .log ⟨"tensorflow.", Level.info, "b"⟩]

/-- No level is that of such a logger: it lets a detail through that it let through before, and no warning. -/
theorem written_skipped :
    threshold skippedSteps "tensorflow..x" = Level.error ∧
      ((after {} skippedSteps).log ⟨"tensorflow..x", Level.info, "c"⟩).2 = "tensorflow..x - INFO - c\n" ∧
      ((after {} skippedSteps).log ⟨"tensorflow..x", Level.warning, "d"⟩).2 = "" ∧
      ¬ ∃ bar : Int, ∀ r : LogRecord, r.logger = "tensorflow..x" → 0 < r.level →
        (((after {} skippedSteps).log r).2 ≠ "" ↔ bar ≤ r.level) := by
  have hdetail : ((after {} skippedSteps).log ⟨"tensorflow..x", Level.info, "c"⟩).2 = "tensorflow..x - INFO - c\n" := by
    decide +kernel
  have hwarning : ((after {} skippedSteps).log ⟨"tensorflow..x", Level.warning, "d"⟩).2 = "" := by decide +kernel
  refine ⟨by decide +kernel, hdetail, hwarning, ?_⟩
  rintro ⟨bar, hbar⟩
  have hlow : bar ≤ Level.info := (hbar ⟨"tensorflow..x", Level.info, "c"⟩ rfl (by decide)).mp (by rw [hdetail]; decide)
  have hhigh : bar ≤ Level.warning := Int.le_trans hlow (by decide)
  exact (hbar ⟨"tensorflow..x", Level.warning, "d"⟩ rfl (by decide)).mpr hhigh hwarning

end Logging

end AccelProbe
