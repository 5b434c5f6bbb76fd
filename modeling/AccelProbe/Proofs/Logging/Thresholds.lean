import AccelProbe.Proofs.Logging.Tree

/-!
# What a logger lets through

Only two loggers ever have a level of their own: those that TensorFlow's loggers begin with, once they are silenced. So a logger of
TensorFlow's lets errors through from then on, and every other logger what the root does. Decisions that were kept agree with that,
as long as the search finds the silenced logger above a logger. Where it does not, a decision still lies between what the root and a
silenced logger decide. `Settled` is what every step keeps of the loggers, `passes_eq` and `between_passes` are what comes of it for
a record.
-/

namespace AccelProbe

namespace LoggerTree

variable {t : LoggerTree} {rootLevel : Int}

/-! ## Levels on the way up -/

/-- A logger whose way up meets no level has that of the root. -/
theorem levelFrom_of_unset {P : String → Prop} (hzero : ∀ {c g}, P c → t.logger? c = some g → g.level = Level.unset)
    (hup : ∀ {c g p}, P c → t.logger? c = some g → g.parent = some p → P p) (bound : Nat) {c : String} (hc : P c) :
    t.levelFrom rootLevel bound (some c) = rootLevel := by
  induction bound generalizing c with
  | zero => rfl
  | succ bound ih =>
    rw [levelFrom]
    cases hg : t.logger? c with
    | none => rfl
    | some g =>
      simp only
      rw [if_pos (hzero hc hg)]
      cases hp : g.parent with
      | none => cases bound <;> rfl
      | some p => exact ih (hup hc hg hp)

/-- The level of a logger is that of the root, or one that some logger has of its own. -/
theorem levelFrom_cases (bound : Nat) (c : Option String) :
    t.levelFrom rootLevel bound c = rootLevel ∨
      ∃ name, t.level name ≠ Level.unset ∧ t.levelFrom rootLevel bound c = t.level name := by
  induction bound generalizing c with
  | zero => exact Or.inl (by cases c <;> rfl)
  | succ bound ih =>
    cases c with
    | none => exact Or.inl rfl
    | some c =>
      rw [levelFrom]
      cases hg : t.logger? c with
      | none => exact Or.inl rfl
      | some g =>
        simp only
        by_cases hl : g.level = Level.unset
        · rw [if_pos hl]
          exact ih g.parent
        · rw [if_neg hl]
          have hlevel : t.level c = g.level := level_of_logger? hg
          exact Or.inr ⟨c, hlevel ▸ hl, hlevel.symm⟩

/-- Below a logger with a level, every logger that the search does not cut off from it has that level, as long as none in between has
one. -/
theorem levelFrom_of_head (h : t.Sound) {head : String} {level : Int} (hne : head ≠ "")
    (hroot : ¬ head.toList <+: rootName.toList) (hhead : t.level head = level) (hlevel : level ≠ Level.unset)
    (hzero : ∀ c, IsAbove head c → t.level c = Level.unset) (bound : Nat) {c : String} {g : Logger}
    (hg : t.logger? c = some g) (hd : ¬ IsDetached head c) (hc : c = head ∨ IsAbove head c) (hb : c.length < bound) :
    t.levelFrom rootLevel bound (some c) = level := by
  induction bound generalizing c g with
  | zero => exact absurd hb (Nat.not_lt_zero _)
  | succ bound ih =>
    rw [levelFrom, hg]
    simp only
    rcases hc with rfl | hc
    · have hown : g.level = level := (level_of_logger? hg).symm.trans hhead
      rw [if_neg (hown ▸ hlevel)]
      exact hown
    · have hown : g.level = Level.unset := (level_of_logger? hg).symm.trans (hzero c hc)
      have hexists : ∃ g', t.logger? head = some g' := by
        cases hg' : t.logger? head with
        | some g' => exact ⟨g', rfl⟩
        | none => exact absurd (hhead.symm.trans (level_of_logger?_eq_none hg')) hlevel
      obtain ⟨g', hg'⟩ := hexists
      obtain ⟨p, hp, hhp⟩ := h.nearest hg (mem_namesAbove hne hc hd) hg' hroot
      obtain ⟨hpc, gp, hgp⟩ := h.parent hg hp
      have hlt : p.length < c.length := hpc.length_lt
      rw [if_pos hown, hp]
      refine ih hgp (fun hdp => hd (hdp.of_isAbove hpc)) ?_ (by omega)
      rcases hhp with rfl | hhp
      · exact Or.inl rfl
      · exact Or.inr hhp

/-- A changed logger keeps its level where the change does. -/
theorem level_update (t : LoggerTree) (name other : String) {f : Logger → Logger} (hf : ∀ g, (f g).level = g.level) :
    (t.update name f).level other = t.level other := by
  unfold update
  cases hg : t.logger? name with
  | none => rfl
  | some g =>
    refine (level_put t name other _).trans ?_
    by_cases ho : other = name
    · rw [if_pos ho, ho, level_of_logger? hg]
      exact hf g
    · rw [if_neg ho]

/-- A decision that a logger has once a logger came into being it had before: a new logger has none. -/
theorem lookup_add {name c : String} {g : Logger} {level : Int} {passed : Bool} (h : (t.add name).logger? c = some g)
    (hd : g.decisions.lookup level = some passed) :
    ∃ g₀, t.logger? c = some g₀ ∧ g₀.decisions.lookup level = some passed := by
  cases hnew : t.logger? name with
  | some g₁ =>
    rw [add_of_logger? hnew] at h
    exact ⟨g, h, hd⟩
  | none =>
    rcases logger?_add_cases hnew h with ⟨-, rfl⟩ | ⟨g₀, hg₀, ⟨-, rfl⟩ | ⟨-, rfl⟩⟩
    · cases hd
    · exact ⟨g₀, hg₀, rehang_decisions name g₀ ▸ hd⟩
    · exact ⟨g, hg₀, hd⟩

/-- A decision that a logger has once one of them keeps another is the one that is kept, or the logger had it before. -/
theorem lookup_keep {name c : String} {g gc : Logger} {level level' : Int} {kept passed : Bool} (hg : t.logger? name = some g)
    (hc : (t.update name fun g => { g with decisions := (level, kept) :: g.decisions }).logger? c = some gc)
    (hd : gc.decisions.lookup level' = some passed) :
    (c = name ∧ level' = level ∧ passed = kept) ∨ ∃ g₀, t.logger? c = some g₀ ∧ g₀.decisions.lookup level' = some passed := by
  rw [logger?_update] at hc
  by_cases hcn : c = name
  · subst hcn
    rw [if_pos rfl, hg] at hc
    obtain rfl := Option.some.inj hc
    simp only [List.lookup_cons] at hd
    by_cases hl : level' = level
    · subst hl
      rw [beq_self_eq_true] at hd
      exact Or.inl ⟨rfl, rfl, (Option.some.inj hd).symm⟩
    · rw [beq_eq_false_iff_ne.mpr hl] at hd
      exact Or.inr ⟨g, hg, hd⟩
  · rw [if_neg hcn] at hc
    exact Or.inr ⟨gc, hc, hd⟩

end LoggerTree

namespace Logging

open LoggerTree

/-- The level that a record has to reach at a logger. -/
def bar (quiet : Bool) (rootLevel : Int) (name : String) : Int :=
  if quiet = true ∧ OfTensorFlow name then Level.error else rootLevel

/-- What a decision about a record of some level has to be, whoever makes it: the root and a silenced logger may decide otherwise, and
what both of them decide is decided. -/
structure Between (quiet : Bool) (rootLevel level : Int) (passed : Bool) : Prop where
  /-- What passes reaches the level of the root, or that of errors where loggers are silenced. -/
  reached : passed = true → 0 < level ∧ (rootLevel ≤ level ∨ quiet = true ∧ Level.error ≤ level)
  /-- What reaches the level of the root, and that of errors where loggers are silenced, passes. -/
  admitted : 0 < level → rootLevel ≤ level → (quiet = true → Level.error ≤ level) → passed = true

/-- What is decided by the level of the root, or by that of errors where loggers are silenced, lies between the two. -/
theorem between_decide {quiet : Bool} {rootLevel level threshold : Int}
    (h : threshold = rootLevel ∨ quiet = true ∧ threshold = Level.error) :
    Between quiet rootLevel level (decide (0 < level ∧ threshold ≤ level)) where
  reached := by
    intro hp
    obtain ⟨hpos, hle⟩ := of_decide_eq_true hp
    rcases h with rfl | ⟨hq, rfl⟩
    · exact ⟨hpos, Or.inl hle⟩
    · exact ⟨hpos, Or.inr ⟨hq, hle⟩⟩
  admitted := by
    intro hpos hroot herror
    rcases h with rfl | ⟨hq, rfl⟩
    · exact decide_eq_true ⟨hpos, hroot⟩
    · exact decide_eq_true ⟨hpos, herror hq⟩

/-- What is true of loggers of which only those of TensorFlow were silenced, if any. -/
structure Settled (l : Logging) (quiet : Bool) : Prop where
  /-- The tree is sound. -/
  sound : l.loggers.Sound
  /-- Two loggers have a level once they are silenced, and no other one ever has. -/
  levels : ∀ name, l.loggers.level name = if quiet = true ∧ name ∈ tensorflowLoggers then Level.error else Level.unset
  /-- What a logger decided it would decide again; of the silenced ones this is known of those that the search does not miss. -/
  decided : ∀ {name g level passed}, l.loggers.logger? name = some g → g.decisions.lookup level = some passed →
    (quiet = true → IsPlain name) → passed = decide (0 < level ∧ bar quiet l.rootLevel name ≤ level)
  /-- What a logger decided, whatever it is named, lies between the decisions of the root and of a silenced logger. -/
  bounded : ∀ {name g level passed}, l.loggers.logger? name = some g → g.decisions.lookup level = some passed →
    Between quiet l.rootLevel level passed

namespace Settled

variable {l : Logging} {quiet : Bool}

/-- Unconfigured logging is settled. -/
theorem unconfigured : Settled {} false where
  sound := .empty
  levels := fun _ => (if_neg fun h => Bool.false_ne_true h.1).symm
  decided := nofun
  bounded := nofun

/-- Neither name that TensorFlow's loggers begin with could be the root's. -/
theorem heads_ne {head : String} (h : head ∈ tensorflowLoggers) :
    head ≠ "" ∧ ¬ head.toList <+: rootName.toList ∧ ∀ c ∈ tensorflowLoggers, ¬ IsAbove head c := by
  revert head
  decide

/-- The level that a record has to reach at a logger that is there. -/
theorem threshold_eq (h : Settled l quiet) {name : String} {g : Logger} (hg : l.loggers.logger? name = some g)
    (hname : quiet = true → IsPlain name) : l.loggers.threshold l.rootLevel name = bar quiet l.rootLevel name := by
  have hlevel : ∀ {c g}, l.loggers.logger? c = some g →
      g.level = if quiet = true ∧ c ∈ tensorflowLoggers then Level.error else Level.unset :=
    fun hc => (level_of_logger? hc).symm.trans (h.levels _)
  by_cases hq : quiet = true ∧ OfTensorFlow name
  · obtain ⟨rfl, head, hm, hhead⟩ := hq
    rw [bar, if_pos ⟨rfl, head, hm, hhead⟩]
    obtain ⟨hne, hroot, hheads⟩ := heads_ne hm
    refine levelFrom_of_head h.sound hne hroot ?_ (by decide) ?_ _ hg (hname rfl head hm) hhead (Nat.lt_succ_self _)
    · rw [h.levels, if_pos ⟨rfl, hm⟩]
    · intro c hc
      rw [h.levels, if_neg fun hx => hheads c hx.2 hc]
  · rw [bar, if_neg hq]
    cases quiet with
    | false => exact levelFrom_of_unset (P := fun _ => True) (fun _ hc => by simp [hlevel hc]) (fun _ _ _ => trivial) _ trivial
    | true =>
      have hnot : ¬ OfTensorFlow name := fun hf => hq ⟨rfl, hf⟩
      refine levelFrom_of_unset (P := fun c => ¬ OfTensorFlow c) ?_ ?_ _ hnot
      · intro c g hc hcg
        rw [hlevel hcg, if_neg fun hx => hc ⟨c, hx.2, Or.inl rfl⟩]
      · intro c g p hc hcg hp hpf
        exact hc (hpf.of_isAbove (h.sound.parent hcg hp).1)

/-- Whatever the name of a logger is, what a record has to reach is the level of the root, or errors' once they are silenced. -/
theorem threshold_cases (h : Settled l quiet) (name : String) :
    l.loggers.threshold l.rootLevel name = l.rootLevel ∨
      quiet = true ∧ l.loggers.threshold l.rootLevel name = Level.error := by
  have hcases : l.loggers.threshold l.rootLevel name = l.rootLevel ∨
      ∃ head, l.loggers.level head ≠ Level.unset ∧ l.loggers.threshold l.rootLevel name = l.loggers.level head :=
    levelFrom_cases (name.length + 1) (some name)
  rcases hcases with hr | ⟨head, hne, hl⟩
  · exact Or.inl hr
  · rw [h.levels] at hne hl
    by_cases hq : quiet = true ∧ head ∈ tensorflowLoggers
    · rw [if_pos hq] at hl
      exact Or.inr ⟨hq.1, hl⟩
    · rw [if_neg hq] at hne
      exact absurd rfl hne

/-- Loggers stay settled when one comes into being. -/
theorem add (h : Settled l quiet) (name : String) : Settled { l with loggers := l.loggers.add name } quiet where
  sound := h.sound.add name
  levels := fun other => (level_add l.loggers name other).trans (h.levels other)
  decided := by
    intro c g level passed hg hd hc
    obtain ⟨g₀, hg₀, hd₀⟩ := lookup_add hg hd
    exact h.decided hg₀ hd₀ hc
  bounded := by
    intro c g level passed hg hd
    obtain ⟨g₀, hg₀, hd₀⟩ := lookup_add hg hd
    exact h.bounded hg₀ hd₀

/-- What a logger that is there makes of a record, now or before. -/
theorem decision_eq (h : Settled l quiet) {name : String} {g : Logger} (hg : l.loggers.logger? name = some g) (level : Int)
    (hname : quiet = true → IsPlain name) :
    l.loggers.decision l.rootLevel name level = decide (0 < level ∧ bar quiet l.rootLevel name ≤ level) := by
  rw [decision, hg, Option.bind_some]
  cases hd : g.decisions.lookup level with
  | some passed => exact h.decided hg hd hname
  | none =>
    simp only
    rw [h.threshold_eq hg hname]

/-- What a logger decides, now or before, lies between the decisions of the root and of a silenced logger. -/
theorem between_decision (h : Settled l quiet) (name : String) (level : Int) :
    Between quiet l.rootLevel level (l.loggers.decision l.rootLevel name level) := by
  rw [decision]
  cases hg : l.loggers.logger? name with
  | none => exact between_decide (h.threshold_cases name)
  | some g =>
    rw [Option.bind_some]
    cases hlook : g.decisions.lookup level with
    | none => exact between_decide (h.threshold_cases name)
    | some passed => exact h.bounded hg hlook

/-- Loggers stay settled when one of them keeps what it decides. -/
theorem keep (h : Settled l quiet) {name : String} {g : Logger} (hg : l.loggers.logger? name = some g) (level : Int) :
    Settled
      { l with
        loggers :=
          l.loggers.update name fun g =>
            { g with decisions := (level, l.loggers.decision l.rootLevel name level) :: g.decisions } }
      quiet where
  sound := h.sound.update name (f := fun g => { g with decisions := _ }) fun _ => rfl
  levels := by
    intro other
    refine Eq.trans ?_ (h.levels other)
    exact level_update l.loggers name other fun _ => rfl
  decided := by
    intro c gc level' passed hc hd hplain
    rcases lookup_keep hg hc hd with ⟨rfl, rfl, rfl⟩ | ⟨g₀, hg₀, hd₀⟩
    · exact h.decision_eq hg level' hplain
    · exact h.decided hg₀ hd₀ hplain
  bounded := by
    intro c gc level' passed hc hd
    rcases lookup_keep hg hc hd with ⟨-, rfl, rfl⟩ | ⟨g₀, hg₀, hd₀⟩
    · exact h.between_decision name level'
    · exact h.bounded hg₀ hd₀

/-! ## A record -/

/-- Loggers stay settled when a record goes through one of them. -/
theorem judge (h : Settled l quiet) (r : LogRecord) : Settled (l.judge r).1 quiet := by
  unfold Logging.judge
  by_cases hr : loggerName r.logger = rootName
  · rw [if_pos hr]
    exact h
  · rw [if_neg hr]
    obtain ⟨g, hg⟩ := logger?_add l.loggers r.logger
    exact (h.add r.logger).keep hg r.level

/-- Whether a record passes its logger. -/
theorem passes_eq (h : Settled l quiet) (r : LogRecord) (hname : quiet = true → IsPlain r.logger) :
    (l.judge r).2 = decide (0 < r.level ∧ bar quiet l.rootLevel r.logger ≤ r.level) := by
  unfold Logging.judge
  by_cases hr : loggerName r.logger = rootName
  · have hnot : ¬ (quiet = true ∧ OfTensorFlow r.logger) := fun hx => hx.2.ne_root hr
    rw [if_pos hr, bar, if_neg hnot]
  · rw [if_neg hr]
    obtain ⟨g, hg⟩ := logger?_add l.loggers r.logger
    exact (h.add r.logger).decision_eq hg r.level hname

/-- What a logger makes of a record, whatever it is named, lies between the decisions of the root and of a silenced logger. -/
theorem between_passes (h : Settled l quiet) (r : LogRecord) : Between quiet l.rootLevel r.level (l.judge r).2 := by
  unfold Logging.judge
  by_cases hr : loggerName r.logger = rootName
  · rw [if_pos hr]
    exact between_decide (Or.inl rfl)
  · rw [if_neg hr]
    exact (h.add r.logger).between_decision r.logger r.level

end Settled

end Logging

end AccelProbe
