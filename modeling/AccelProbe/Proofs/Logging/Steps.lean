import AccelProbe.Proofs.Logging.Thresholds

/-!
# Steps of logging

The root is set up, TensorFlow's loggers are silenced, and records are logged, in any order. The loggers stay settled through all of
it. The root does not look at the other loggers, so its level and its handlers are the same with or without a silencing.
-/

namespace AccelProbe

namespace Logging

open LoggerTree

/-- A step of logging. -/
inductive Step where
  /-- The root is set up with the level of a name. -/
  | setUp (level : Value)
  /-- The loggers of TensorFlow are silenced. -/
  | quieten
  /-- A record is logged. -/
  | log (r : LogRecord)

/-- The loggers after a step. -/
def step (l : Logging) : Step → Logging
  | .setUp level => (l.setUp level).1
  | .quieten => l.quieten
  | .log r => (l.log r).1

/-- The loggers after several steps. -/
def after (l : Logging) (steps : List Step) : Logging := steps.foldl step l

/-- Whether a step silences the loggers of TensorFlow. -/
def Step.silences : Step → Bool
  | setUp _ => false
  | quieten => true
  | log _ => false

variable {l l' : Logging} {quiet : Bool}

/-- A record changes neither the level nor the handlers of the root. -/
theorem root_judge (l : Logging) (r : LogRecord) :
    (l.judge r).1.rootLevel = l.rootLevel ∧ (l.judge r).1.handlers = l.handlers := by
  unfold judge
  split <;> exact ⟨rfl, rfl⟩

/-- What is shown of a record: nothing, unless it passes its logger. -/
theorem log_snd (l : Logging) (r : LogRecord) : (l.log r).2 = if (l.judge r).2 then l.shown r else "" := by
  have hshown : (l.judge r).1.shown r = l.shown r := by
    unfold shown
    rw [(root_judge l r).2]
  rw [log]
  simp only [hshown]

/-! ## Loggers stay settled -/

/-- After a level was set there is no decision that was kept. -/
theorem decisions_setLevel {t : LoggerTree} {name c : String} {level : Int} {g : Logger}
    (h : (t.setLevel name level).logger? c = some g) : g.decisions = [] := by
  rw [LoggerTree.setLevel, logger?_forget] at h
  obtain ⟨g₀, -, rfl⟩ := Option.map_eq_some_iff.mp h
  rfl

theorem Settled.quieten (h : Settled l quiet) : Settled l.quieten true where
  sound := (h.sound.setLevel "tensorflow" Level.error).setLevel "absl" Level.error
  levels := by
    intro name
    change ((l.loggers.setLevel "tensorflow" Level.error).setLevel "absl" Level.error).level name = _
    rw [level_setLevel, level_setLevel, h.levels]
    by_cases ha : name = "absl"
    · have hm : name ∈ tensorflowLoggers := by simp [tensorflowLoggers, ha]
      rw [if_pos ha, if_pos ⟨rfl, hm⟩]
    · by_cases ht : name = "tensorflow"
      · have hm : name ∈ tensorflowLoggers := by simp [tensorflowLoggers, ht]
        rw [if_neg ha, if_pos ht, if_pos ⟨rfl, hm⟩]
      · have hm : name ∉ tensorflowLoggers := by simp [tensorflowLoggers, ha, ht]
        rw [if_neg ha, if_neg ht, if_neg fun hx => hm hx.2, if_neg fun hx => hm hx.2]
  decided := by
    intro c g level passed hg hd
    rw [decisions_setLevel hg] at hd
    cases hd
  bounded := by
    intro c g level passed hg hd
    rw [decisions_setLevel hg] at hd
    cases hd

theorem Settled.attach (h : Settled l quiet) (m : Meaning) : Settled (l.attach m).1 quiet := by
  unfold Logging.attach
  by_cases hh : l.handlers ≠ 0
  · rw [if_pos hh]
    exact h
  · rw [if_neg hh]
    cases m with
    | level n =>
      -- the level of the root changes, and with it what every logger has decided
      have hnil : ∀ {c g}, l.loggers.forget.logger? c = some g → g.decisions = [] := by
        intro c g hg
        rw [logger?_forget] at hg
        obtain ⟨g₀, -, rfl⟩ := Option.map_eq_some_iff.mp hg
        rfl
      refine ⟨h.sound.forget, fun name => (level_forget l.loggers name).trans (h.levels name), ?_, ?_⟩
      · intro c g level passed hg hd
        rw [hnil hg] at hd
        cases hd
      · intro c g level passed hg hd
        rw [hnil hg] at hd
        cases hd
    | text s => exact ⟨h.sound, h.levels, h.decided, h.bounded⟩
    | other => exact ⟨h.sound, h.levels, h.decided, h.bounded⟩

theorem Settled.setUp (h : Settled l quiet) (level : Value) : Settled (l.setUp level).1 quiet := by
  unfold Logging.setUp
  cases level with
  | str s =>
    simp only
    cases meaning? (Text.upper s) with
    | none => exact h
    | some m => exact h.attach m
  | _ => exact h

/-- A step keeps the loggers settled; a silencing silences them. -/
theorem Settled.step (h : Settled l quiet) (s : Step) : Settled (l.step s) (quiet || s.silences) := by
  cases s with
  | setUp level =>
    rw [Step.silences, Bool.or_false]
    exact h.setUp level
  | quieten =>
    rw [Step.silences, Bool.or_true]
    exact h.quieten
  | log r =>
    rw [Step.silences, Bool.or_false]
    exact h.judge r

/-- So do several steps. -/
theorem Settled.after (h : Settled l quiet) (steps : List Step) : Settled (l.after steps) (quiet || steps.any Step.silences) := by
  induction steps generalizing l quiet with
  | nil =>
    rw [List.any_nil, Bool.or_false]
    exact h
  | cons s steps ih =>
    rw [List.any_cons, ← Bool.or_assoc]
    exact ih (h.step s)

/-- Records that are logged one after the other keep the loggers settled. -/
theorem Settled.logAll (h : Settled l quiet) (records : List LogRecord) : Settled (l.logAll records).1 quiet := by
  induction records generalizing l with
  | nil => exact h
  | cons r records ih => exact ih (h.judge r)

/-- What settled loggers show of a record. -/
theorem Settled.log_eq (h : Settled l quiet) (r : LogRecord) (hname : quiet = true → IsPlain r.logger) :
    (l.log r).2 = if 0 < r.level ∧ bar quiet l.rootLevel r.logger ≤ r.level then l.shown r else "" := by
  rw [log_snd, h.passes_eq r hname]
  by_cases hp : 0 < r.level ∧ bar quiet l.rootLevel r.logger ≤ r.level
  · rw [decide_eq_true hp, if_pos rfl, if_pos hp]
  · rw [decide_eq_false hp, if_neg Bool.false_ne_true, if_neg hp]

/-- Settled loggers show nothing of a record that is below the level of the root and no error, whatever its logger is named. -/
theorem Settled.log_eq_empty (h : Settled l quiet) {r : LogRecord} (hroot : r.level < l.rootLevel)
    (herror : r.level < Level.error) : (l.log r).2 = "" := by
  rw [log_snd]
  by_cases hp : (l.judge r).2 = true
  · obtain ⟨-, hle | ⟨-, hle⟩⟩ := (h.between_passes r).reached hp
    · omega
    · omega
  · rw [if_neg hp]

/-! ## Own levels -/

/-- A record changes the level of no logger. -/
theorem ownLevel_judge (l : Logging) (r : LogRecord) (name : String) : (l.judge r).1.ownLevel name = l.ownLevel name := by
  unfold judge
  split
  · rfl
  · change (l.loggers.judge l.rootLevel r.logger r.level).1.level name = l.loggers.level name
    simp only [LoggerTree.judge]
    rw [level_update]
    · exact level_add l.loggers r.logger name
    · exact fun _ => rfl

/-- So do several records. -/
theorem ownLevel_logAll (l : Logging) (records : List LogRecord) (name : String) :
    (l.logAll records).1.ownLevel name = l.ownLevel name := by
  induction records generalizing l with
  | nil => rfl
  | cons r records ih => exact (ih _).trans (ownLevel_judge l r name)

/-- A set-up of the root changes the level of no other logger. -/
theorem ownLevel_setUp (l : Logging) (level : Value) (name : String) : (l.setUp level).1.ownLevel name = l.ownLevel name := by
  have hattach : ∀ m, (l.attach m).1.ownLevel name = l.ownLevel name := by
    intro m
    unfold attach
    split
    · rfl
    · cases m with
      | level n => exact level_forget l.loggers name
      | text s => rfl
      | other => rfl
  unfold setUp
  cases level with
  | str s =>
    simp only
    cases meaning? (Text.upper s) with
    | none => rfl
    | some m => exact hattach m
  | _ => rfl

/-! ## The root -/

/-- Whether two states of the loggers agree on the root. -/
def SameRoot (l l' : Logging) : Prop := l.rootLevel = l'.rootLevel ∧ l.handlers = l'.handlers

/-- To silence loggers changes nothing of the root. -/
theorem sameRoot_quieten (l : Logging) : SameRoot l.quieten l := ⟨rfl, rfl⟩

theorem SameRoot.trans {l'' : Logging} (h : SameRoot l l') (h' : SameRoot l' l'') : SameRoot l l'' :=
  ⟨h.1.trans h'.1, h.2.trans h'.2⟩

theorem SameRoot.attach (h : SameRoot l l') (m : Meaning) : SameRoot (l.attach m).1 (l'.attach m).1 := by
  unfold Logging.attach
  rw [h.2]
  by_cases hh : l'.handlers ≠ 0
  · rw [if_pos hh, if_pos hh]
    exact h
  · rw [if_neg hh, if_neg hh]
    cases m with
    | level n => exact ⟨rfl, rfl⟩
    | text s => exact ⟨h.1, rfl⟩
    | other => exact ⟨h.1, rfl⟩

/-- A step does to the root what it does whatever the other loggers are. -/
theorem SameRoot.step (h : SameRoot l l') (s : Step) : SameRoot (l.step s) (l'.step s) := by
  cases s with
  | setUp level =>
    change SameRoot (l.setUp level).1 (l'.setUp level).1
    unfold Logging.setUp
    cases level with
    | str s =>
      simp only
      cases meaning? (Text.upper s) with
      | none => exact h
      | some m => exact h.attach m
    | _ => exact h
  | quieten => exact h
  | log r =>
    obtain ⟨hlevel, hhandlers⟩ := root_judge l r
    obtain ⟨hlevel', hhandlers'⟩ := root_judge l' r
    exact ⟨hlevel.trans (h.1.trans hlevel'.symm), hhandlers.trans (h.2.trans hhandlers'.symm)⟩

theorem SameRoot.after (h : SameRoot l l') (steps : List Step) : SameRoot (l.after steps) (l'.after steps) := by
  induction steps generalizing l l' with
  | nil => exact h
  | cons s steps ih => exact ih (h.step s)

theorem SameRoot.logAll (l : Logging) (records : List LogRecord) : SameRoot (l.logAll records).1 l := by
  induction records generalizing l with
  | nil => exact ⟨rfl, rfl⟩
  | cons r records ih => exact (ih _).trans (root_judge l r)

/-- Steps with a silencing among them do to the root what they do without it. -/
theorem sameRoot_insert (l : Logging) (first rest : List Step) :
    SameRoot (l.after (first ++ .quieten :: rest)) (l.after (first ++ rest)) := by
  unfold Logging.after
  rw [List.foldl_append, List.foldl_append, List.foldl_cons]
  exact SameRoot.after (sameRoot_quieten _) rest

/-- What is shown of a record that passes depends on the root alone. -/
theorem SameRoot.shown_eq (h : SameRoot l l') (r : LogRecord) : l.shown r = l'.shown r := by
  unfold shown
  rw [h.2]

end Logging

end AccelProbe
