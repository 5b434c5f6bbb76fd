import AccelProbe.Proofs.Logging.Written

/-!
# What a failed set-up leaves behind

The name of a level is looked up before a set-up changes anything, so a name that stands for nothing leaves the loggers as they were,
and the next set-up finds them so. Two names stand for something that is no level. A set-up with one of them gives the root its handler
first and fails afterwards, and no later set-up takes effect. Once the root has a handler no set-up changes anything, whatever its name.
-/

namespace AccelProbe

namespace Logging

/-- The names in upper case that stand for something else than a level. -/
def misnomers : List String := [standardForm.1, tableName]

/-- The loggers after set-ups with these names. -/
def attempt (l : Logging) (names : List String) : Logging := l.after (names.map fun name => .setUp (.str name))

/-- Whether a set-up that finds the root without a handler takes effect: it succeeds, gives the root one handler and this level, and
leaves the levels of all other loggers. -/
structure Effective (l : Logging) (name : String) (n : Int) : Prop where
  /-- It succeeds. -/
  succeeds : (l.setUp (.str name)).2 = none
  /-- The root has one handler. -/
  handlers : (l.setUp (.str name)).1.handlers = 1
  /-- The root has the level. -/
  rootLevel : (l.setUp (.str name)).1.rootLevel = n
  /-- The other loggers have the levels that they had. -/
  others : ∀ other, (l.setUp (.str name)).1.ownLevel other = l.ownLevel other

/-- What comes of set-ups in a state of the loggers. -/
structure Attempted (l : Logging) : Prop where
  /-- A set-up fails exactly where its name stands for nothing, or for no level as long as the root has no handler. -/
  fails : ∀ name, (l.setUp (.str name)).2 ≠ none ↔
    meaning? (Text.upper name) = none ∨ l.handlers = 0 ∧ Text.upper name ∈ misnomers
  /-- A set-up that fails leaves everything as it was, unless its name is a misnomer and the root has no handler. -/
  unchanged : ∀ name, (l.setUp (.str name)).2 ≠ none → ¬ (l.handlers = 0 ∧ Text.upper name ∈ misnomers) →
    (l.setUp (.str name)).1 = l
  /-- A misnomer leaves the root with a handler and nothing else changed. -/
  halfDone : ∀ name, l.handlers = 0 → Text.upper name ∈ misnomers → (l.setUp (.str name)).1 = { l with handlers := 1 }
  /-- Where the root has a handler no set-up changes anything. -/
  configured : l.handlers ≠ 0 → ∀ name, (l.setUp (.str name)).1 = l
  /-- Where it has none, the first set-up with the name of a level takes effect after any number of others that failed, none of them
  with a misnomer. -/
  effective : l.handlers = 0 → ∀ names : List String,
    (∀ name ∈ names, Level.named? (Text.upper name) = none ∧ Text.upper name ∉ misnomers) →
    ∀ name n, Level.named? (Text.upper name) = some n → Effective (l.attempt names) name n

/-! ## What a name stands for -/

/-- The name of a level stands for that level. -/
theorem meaning?_of_named? {name : String} {n : Int} (h : Level.named? name = some n) : meaning? name = some (.level n) := by
  rw [meaning?, h]

/-- A misnomer stands for something that is no level. -/
theorem meaning?_of_misnomer {name : String} (h : name ∈ misnomers) : ∃ m, meaning? name = some m ∧ ∀ n, m ≠ .level n := by
  simp only [misnomers, List.mem_cons, List.not_mem_nil, or_false] at h
  rcases h with rfl | rfl
  · exact ⟨_, rfl, nofun⟩
  · exact ⟨_, rfl, nofun⟩

/-- All other names stand for nothing. -/
theorem meaning?_eq_none_iff {name : String} : meaning? name = none ↔ Level.named? name = none ∧ name ∉ misnomers := by
  constructor
  · intro h
    refine ⟨?_, fun hm => ?_⟩
    · cases hn : Level.named? name with
      | none => rfl
      | some n => cases (meaning?_of_named? hn).symm.trans h
    · obtain ⟨m, hm, -⟩ := meaning?_of_misnomer hm
      cases hm.symm.trans h
  · rintro ⟨hn, hm⟩
    simp only [misnomers, List.mem_cons, List.not_mem_nil, or_false, not_or] at hm
    rw [meaning?, hn]
    dsimp only
    rw [if_neg hm.1, if_neg hm.2]

/-! ## One set-up -/

variable {l : Logging} {name : String}

/-- A set-up with a name that stands for nothing fails and changes nothing. -/
theorem setUp_of_meaning?_eq_none (h : meaning? (Text.upper name) = none) :
    l.setUp (.str name) = (l, some (.unknownName (Text.upper name))) := by
  simp only [setUp, h]

/-- Where the root has a handler, a set-up with a name that stands for something succeeds and changes nothing. -/
theorem setUp_of_configured (hl : l.handlers ≠ 0) {m : Meaning} (h : meaning? (Text.upper name) = some m) :
    l.setUp (.str name) = (l, none) := by
  simp only [setUp, h, attach, if_pos hl]

/-- Where the root has none, a set-up with a misnomer gives it one and fails. -/
theorem setUp_of_misnomer (hl : l.handlers = 0) (h : Text.upper name ∈ misnomers) :
    ∃ fault, l.setUp (.str name) = ({ l with handlers := 1 }, some fault) := by
  obtain ⟨m, hm, hlevel⟩ := meaning?_of_misnomer h
  simp only [setUp, hm, attach, if_neg (not_not_intro hl)]
  cases m with
  | level n => exact absurd rfl (hlevel n)
  | text form => exact ⟨_, rfl⟩
  | other => exact ⟨_, rfl⟩

/-- Where the root has none, a set-up with the name of a level takes effect. -/
theorem effective_of_named? (hl : l.handlers = 0) {n : Int} (h : Level.named? (Text.upper name) = some n) :
    Effective l name n := by
  have hsetUp : l.setUp (.str name) = ({ l with handlers := 1, rootLevel := n, loggers := l.loggers.forget }, none) := by
    simp only [setUp, meaning?_of_named? h, attach, if_neg (not_not_intro hl)]
  refine ⟨?_, ?_, ?_, fun other => ownLevel_setUp l (.str name) other⟩
  · rw [hsetUp]
  · rw [hsetUp]
  · rw [hsetUp]

/-! ## Several set-ups -/

/-- Set-ups with names that stand for nothing change nothing, however many there are. -/
theorem attempt_eq {names : List String} (h : ∀ name ∈ names, meaning? (Text.upper name) = none) : l.attempt names = l := by
  induction names with
  | nil => rfl
  | cons name names ih =>
    have hstep : l.step (.setUp (.str name)) = l := by
      rw [step, setUp_of_meaning?_eq_none (h name List.mem_cons_self)]
    have hrest := ih fun other hother => h other (List.mem_cons_of_mem name hother)
    calc l.attempt (name :: names) = (l.step (.setUp (.str name))).attempt names := rfl
      _ = l.attempt names := by rw [hstep]
      _ = l := hrest

/-- A set-up that fails leaves the loggers as they were, in every state and with every name but two; where the root has no handler the
first set-up with the name of a level takes effect, whatever failed before it. Only a name that stands for something else than a level
leaves the root with a handler when it fails. -/
theorem setUp_atomic (l : Logging) : Attempted l := by
  have hmeaningless (name : String) (hf : (l.setUp (.str name)).2 ≠ none)
      (h : ¬ (l.handlers = 0 ∧ Text.upper name ∈ misnomers)) : meaning? (Text.upper name) = none := by
    cases hm : meaning? (Text.upper name) with
    | none => rfl
    | some m =>
      by_cases hl : l.handlers = 0
      · cases hn : Level.named? (Text.upper name) with
        | none => exact absurd (meaning?_eq_none_iff.mpr ⟨hn, fun hx => h ⟨hl, hx⟩⟩) (by simp [hm])
        | some n => exact absurd (effective_of_named? hl hn).succeeds hf
      · exact absurd (congrArg Prod.snd (setUp_of_configured hl hm)) hf
  refine ⟨?fails, ?unchanged, ?halfDone, ?configured, ?effective⟩
  case fails =>
    intro name
    constructor
    · intro hf
      by_cases h : l.handlers = 0 ∧ Text.upper name ∈ misnomers
      · exact Or.inr h
      · exact Or.inl (hmeaningless name hf h)
    · rintro (hm | ⟨hl, hm⟩)
      · rw [setUp_of_meaning?_eq_none hm]
        exact nofun
      · obtain ⟨fault, hfault⟩ := setUp_of_misnomer hl hm
        rw [hfault]
        exact nofun
  case unchanged =>
    intro name hf h
    rw [setUp_of_meaning?_eq_none (hmeaningless name hf h)]
  case halfDone =>
    intro name hl hm
    obtain ⟨fault, hfault⟩ := setUp_of_misnomer hl hm
    rw [hfault]
  case configured =>
    intro hl name
    cases hm : meaning? (Text.upper name) with
    | none => rw [setUp_of_meaning?_eq_none hm]
    | some m => rw [setUp_of_configured hl hm]
  case effective =>
    intro hl names hnames name n hn
    rw [attempt_eq fun other hother => meaning?_eq_none_iff.mpr (hnames other hother)]
    exact effective_of_named? hl hn

/-- After two names that stand for nothing a set-up takes effect, in any letter case of its level. -/
theorem setUp_atomic_debug :
    (∀ name ∈ ["loud", "level_9"], Level.named? (Text.upper name) = none ∧ Text.upper name ∉ misnomers) ∧
      ((({} : Logging).attempt ["loud", "level_9"]).setUp (.str "Debug")).1.rootLevel = Level.debug := by
  have hnames : ∀ name ∈ ["loud", "level_9"], Level.named? (Text.upper name) = none ∧ Text.upper name ∉ misnomers := by
    decide +kernel
  exact ⟨hnames, ((setUp_atomic {}).effective rfl _ hnames "Debug" Level.debug (by decide +kernel)).rootLevel⟩

/-- The standard form of a record in place of a level: the set-up fails, but the root has a handler then, and the next set-up succeeds
without an effect. -/
theorem setUp_halfDone :
    ((({} : Logging).setUp (.str "basic_format")).2 = some (.notALevel "%(levelname)s:%(name)s:%(message)s") ∧
      (({} : Logging).setUp (.str "basic_format")).1 ≠ {} ∧
      (({} : Logging).setUp (.str "basic_format")).1.setUp (.str "DEBUG") = ({ handlers := 1 }, none)) := by
  decide +kernel

end Logging

end AccelProbe
