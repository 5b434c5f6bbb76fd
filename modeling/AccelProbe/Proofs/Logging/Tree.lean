import AccelProbe.Proofs.Logging.Names

/-!
# The shape of the tree of loggers

A logger that comes into being takes its place between loggers that are there: below the nearest one above it, and above those that
were kept in mind for it. `Sound` says what this keeps true of the tree: the logger above a logger is the nearest one that the
search finds, and a logger is kept in mind wherever a nearer one may still come. The one exception is in the way loggers are hung
below a new one, which takes the root for a logger with the name `root`.
-/

namespace AccelProbe

namespace LoggerTree

variable (t : LoggerTree) (name other newcomer : String)

/-! ## What the operations do to loggers and to those kept in mind -/

theorem logger?_put_logger (g : Logger) :
    (t.put name (.logger g)).logger? other = if other = name then some g else t.logger? other := by
  unfold logger?
  rw [find?_put]
  by_cases h : other = name
  · rw [if_pos h, if_pos h]
  · rw [if_neg h, if_neg h]

theorem logger?_put_awaited (below : List String) :
    (t.put name (.awaited below)).logger? other = if other = name then none else t.logger? other := by
  unfold logger?
  rw [find?_put]
  by_cases h : other = name
  · rw [if_pos h, if_pos h]
  · rw [if_neg h, if_neg h]

theorem waiting_put_logger (g : Logger) :
    (t.put name (.logger g)).waiting other = if other = name then [] else t.waiting other := by
  unfold waiting
  rw [find?_put]
  by_cases h : other = name
  · rw [if_pos h, if_pos h]
  · rw [if_neg h, if_neg h]

theorem waiting_put_awaited (below : List String) :
    (t.put name (.awaited below)).waiting other = if other = name then below else t.waiting other := by
  unfold waiting
  rw [find?_put]
  by_cases h : other = name
  · rw [if_pos h, if_pos h]
  · rw [if_neg h, if_neg h]

/-- Where there is a logger, none is kept in mind. -/
theorem waiting_of_logger? {t : LoggerTree} {name : String} {g : Logger} (h : t.logger? name = some g) : t.waiting name = [] := by
  unfold logger? at h
  unfold waiting
  cases he : t.find? name with
  | none => rfl
  | some e =>
    cases e with
    | logger g' => rfl
    | awaited below => simp [he] at h

theorem logger?_update (f : Logger → Logger) :
    (t.update name f).logger? other = if other = name then (t.logger? name).map f else t.logger? other := by
  unfold update
  cases hg : t.logger? name with
  | none =>
    by_cases h : other = name
    · rw [if_pos h, h]
      exact hg
    · rw [if_neg h]
  | some g => exact logger?_put_logger t name other (f g)

theorem waiting_update (f : Logger → Logger) : (t.update name f).waiting other = t.waiting other := by
  unfold update
  cases hg : t.logger? name with
  | none => rfl
  | some g =>
    refine (waiting_put_logger t name other (f g)).trans ?_
    by_cases h : other = name
    · rw [if_pos h, h, waiting_of_logger? hg]
    · rw [if_neg h]

theorem find?_forget : t.forget.find? name = (t.find? name).map LoggerEntry.forget := by
  unfold find? forget
  induction t.entries with
  | nil => rfl
  | cons e rest ih =>
    obtain ⟨key, entry⟩ := e
    simp only [List.map_cons, List.lookup_cons]
    by_cases h : name == key
    · rw [h]
      rfl
    · rw [Bool.not_eq_true] at h
      rw [h]
      exact ih

theorem logger?_forget : t.forget.logger? name = (t.logger? name).map fun g => { g with decisions := [] } := by
  unfold logger?
  rw [find?_forget]
  cases t.find? name with
  | none => rfl
  | some e => cases e <;> rfl

theorem waiting_forget : t.forget.waiting name = t.waiting name := by
  unfold waiting
  rw [find?_forget]
  cases t.find? name with
  | none => rfl
  | some e => cases e <;> rfl

/-- A logger as it is once a new one came into being for which it was kept in mind. -/
def rehang (newcomer : String) (g : Logger) : Logger :=
  if newcomer.toList.isPrefixOf (g.parent.getD rootName).toList then g else { g with parent := some newcomer }

theorem hang_eq : hang newcomer t name = t.update name (rehang newcomer) := rfl

theorem rehang_rehang (g : Logger) : rehang newcomer (rehang newcomer g) = rehang newcomer g := by
  unfold rehang
  by_cases h : newcomer.toList.isPrefixOf (g.parent.getD rootName).toList = true
  · rw [if_pos h, if_pos h]
  · rw [if_neg h]
    simp

theorem rehang_decisions (g : Logger) : (rehang newcomer g).decisions = g.decisions := by
  unfold rehang
  split <;> rfl

/-- A logger either stays below the one it had, whose name begins with the new one, or hangs below the new one. -/
theorem rehang_parent (g : Logger) :
    (newcomer.toList <+: (g.parent.getD rootName).toList ∧ (rehang newcomer g).parent = g.parent) ∨
      (¬ newcomer.toList <+: (g.parent.getD rootName).toList ∧ (rehang newcomer g).parent = some newcomer) := by
  unfold rehang
  by_cases h : newcomer.toList.isPrefixOf (g.parent.getD rootName).toList = true
  · rw [if_pos h]
    exact Or.inl ⟨List.isPrefixOf_iff_prefix.mp h, rfl⟩
  · rw [if_neg h]
    exact Or.inr ⟨fun hp => h (List.isPrefixOf_iff_prefix.mpr hp), rfl⟩

theorem logger?_hangAll (names : List String) :
    (names.foldl (hang newcomer) t).logger? other =
      if other ∈ names then (t.logger? other).map (rehang newcomer) else t.logger? other := by
  induction names generalizing t with
  | nil => simp
  | cons name names ih =>
    rw [List.foldl_cons, ih, hang_eq, logger?_update]
    by_cases ho : other = name
    · subst ho
      rw [if_pos rfl, if_pos List.mem_cons_self]
      split
      · rw [Option.map_map]
        exact congrArg (Option.map · _) (funext (rehang_rehang newcomer))
      · rfl
    · rw [if_neg ho]
      simp only [List.mem_cons, ho, false_or]

/-- To hang loggers anew makes none and takes none away. -/
theorem isSome_hangAll (names : List String) :
    ((names.foldl (hang newcomer) t).logger? other).isSome = (t.logger? other).isSome := by
  rw [logger?_hangAll]
  split
  · exact Option.isSome_map ..
  · rfl

theorem waiting_hangAll (names : List String) : (names.foldl (hang newcomer) t).waiting other = t.waiting other := by
  induction names generalizing t with
  | nil => rfl
  | cons name names ih => rw [List.foldl_cons, ih, hang_eq, waiting_update]

/-- Another entry where there is no logger, and is none then, changes no logger. -/
theorem logger?_put_awaited_of_none {t : LoggerTree} {name : String} (h : t.logger? name = none) (below : List String) :
    (t.put name (.awaited below)).logger? other = t.logger? other := by
  rw [logger?_put_awaited]
  by_cases ho : other = name
  · rw [if_pos ho, ho, h]
  · rw [if_neg ho]

/-- One step up: the search stops at a logger; elsewhere the new logger is kept in mind beside those that are, and the search goes
on. -/
theorem climb_cons (rest : List String) :
    t.climb newcomer (name :: rest) =
      if (t.logger? name).isSome then (t, some name)
      else (t.put name (.awaited (newcomer :: t.waiting name))).climb newcomer rest := by
  rw [climb]
  unfold logger? waiting
  cases t.find? name with
  | none => rfl
  | some e => cases e <;> rfl

theorem logger?_climb (names : List String) : (t.climb newcomer names).1.logger? other = t.logger? other := by
  induction names generalizing t with
  | nil => rfl
  | cons name rest ih =>
    rw [climb_cons]
    by_cases h : (t.logger? name).isSome = true
    · rw [if_pos h]
    · rw [if_neg h, ih]
      exact logger?_put_awaited_of_none other (Option.not_isSome_iff_eq_none.mp h) _

/-- The logger above a new one is the first logger among the names above it. -/
theorem climb_snd (names : List String) : (t.climb newcomer names).2 = names.find? fun a => (t.logger? a).isSome := by
  induction names generalizing t with
  | nil => rfl
  | cons name rest ih =>
    rw [climb_cons, List.find?_cons]
    by_cases h : (t.logger? name).isSome = true
    · rw [if_pos h, h]
    · have hn : t.logger? name = none := Option.not_isSome_iff_eq_none.mp h
      rw [if_neg h, ih, Bool.eq_false_iff.mpr h]
      refine congrArg (List.find? · rest) (funext fun a => ?_)
      rw [logger?_put_awaited_of_none a hn]

/-- Who is kept in mind after a climb was so before, or is the new logger at a name above it. -/
theorem mem_waiting_climb {b : String} (names : List String) (h : b ∈ (t.climb newcomer names).1.waiting other) :
    b ∈ t.waiting other ∨ b = newcomer ∧ other ∈ names := by
  induction names generalizing t with
  | nil => exact Or.inl h
  | cons name rest ih =>
    rw [climb_cons] at h
    by_cases hl : (t.logger? name).isSome = true
    · rw [if_pos hl] at h
      exact Or.inl h
    · rw [if_neg hl] at h
      rcases ih _ h with hb | ⟨hb, ho⟩
      · rw [waiting_put_awaited] at hb
        by_cases ho : other = name
        · rw [if_pos ho] at hb
          rcases List.mem_cons.mp hb with hb | hb
          · exact Or.inr ⟨hb, ho ▸ List.mem_cons_self⟩
          · exact Or.inl (ho ▸ hb)
        · rw [if_neg ho] at hb
          exact Or.inl hb
      · exact Or.inr ⟨hb, List.mem_cons_of_mem _ ho⟩

/-- Who was kept in mind before a climb is so afterwards. -/
theorem waiting_climb_of_mem {b : String} (names : List String) (h : b ∈ t.waiting other) :
    b ∈ (t.climb newcomer names).1.waiting other := by
  induction names generalizing t with
  | nil => exact h
  | cons name rest ih =>
    rw [climb_cons]
    by_cases hl : (t.logger? name).isSome = true
    · rw [if_pos hl]
      exact h
    · rw [if_neg hl]
      refine ih _ ?_
      rw [waiting_put_awaited]
      by_cases ho : other = name
      · rw [if_pos ho]
        exact List.mem_cons_of_mem _ (ho ▸ h)
      · rw [if_neg ho]
        exact h

/-- At a name without a logger the new logger is kept in mind, unless the climb ended before at a logger. -/
theorem climb_reaches (names : List String) (hm : other ∈ names) (hn : t.logger? other = none) :
    newcomer ∈ (t.climb newcomer names).1.waiting other ∨
      ∃ p front back, (t.climb newcomer names).2 = some p ∧ names = front ++ p :: back ∧ other ∈ back := by
  induction names generalizing t with
  | nil => exact absurd hm List.not_mem_nil
  | cons name rest ih =>
    rw [climb_cons]
    by_cases hl : (t.logger? name).isSome = true
    · rw [if_pos hl]
      refine Or.inr ⟨name, [], rest, rfl, rfl, ?_⟩
      rcases List.mem_cons.mp hm with rfl | hm
      · rw [hn] at hl
        exact absurd hl (by decide)
      · exact hm
    · have hnone : t.logger? name = none := Option.not_isSome_iff_eq_none.mp hl
      rw [if_neg hl]
      by_cases ho : other = name
      · refine Or.inl (waiting_climb_of_mem _ _ _ rest ?_)
        rw [waiting_put_awaited, if_pos ho]
        exact List.mem_cons_self
      · have hm : other ∈ rest := (List.mem_cons.mp hm).resolve_left ho
        have hn' := (logger?_put_awaited_of_none other hnone (newcomer :: t.waiting name)).trans hn
        rcases ih _ hm hn' with hw | ⟨p, front, back, hp, hsplit, hb⟩
        · exact Or.inl hw
        · exact Or.inr ⟨p, name :: front, back, hp, by rw [hsplit]; rfl, hb⟩

/-! ## The coming into being of a logger -/

variable {t name other}

theorem add_of_logger? {g : Logger} (h : t.logger? name = some g) : t.add name = t := by
  rw [add, h]

/-- The loggers after a new one came into being: the new one, below the first logger above it; those that were kept in mind for
it, hung anew; and the others. -/
theorem logger?_add_of_none (h : t.logger? name = none) (c : String) :
    (t.add name).logger? c =
      if c = name then some { parent := (namesAbove name).find? fun a => (t.logger? a).isSome }
      else if c ∈ t.waiting name then (t.logger? c).map (rehang name)
      else t.logger? c := by
  rw [add, h]
  simp only [logger?_put_logger, climb_snd, logger?_climb, isSome_hangAll]
  by_cases hc : c = name
  · rw [if_pos hc, if_pos hc]
  · rw [if_neg hc, if_neg hc, logger?_hangAll]

/-- Who is kept in mind once a logger came into being was so before, or is the new logger at a name above it. -/
theorem mem_waiting_add {a b : String} (h : b ∈ (t.add name).waiting a) :
    b ∈ t.waiting a ∨ b = name ∧ a ∈ namesAbove name := by
  cases hg : t.logger? name with
  | some g =>
    rw [add_of_logger? hg] at h
    exact Or.inl h
  | none =>
    rw [add, hg] at h
    simp only [waiting_put_logger] at h
    by_cases ha : a = name
    · rw [if_pos ha] at h
      exact absurd h List.not_mem_nil
    · rw [if_neg ha] at h
      rcases mem_waiting_climb _ _ _ _ h with hb | hb
      · rw [waiting_hangAll] at hb
        exact Or.inl hb
      · exact Or.inr hb

/-- Who was kept in mind is so at every other name once a logger came into being. -/
theorem waiting_add_of_mem {a b : String} (ha : a ≠ name) (h : b ∈ t.waiting a) : b ∈ (t.add name).waiting a := by
  cases hg : t.logger? name with
  | some g =>
    rw [add_of_logger? hg]
    exact h
  | none =>
    rw [add, hg]
    simp only [waiting_put_logger]
    rw [if_neg ha]
    refine waiting_climb_of_mem _ _ _ _ ?_
    rw [waiting_hangAll]
    exact h

/-- A new logger is kept in mind at the names above it that have no logger, up to the logger that it comes to hang below. -/
theorem reaches_of_add {a : String} (hg : t.logger? name = none) (hm : a ∈ namesAbove name) (hn : t.logger? a = none) :
    name ∈ (t.add name).waiting a ∨
      ∃ p front back, (namesAbove name).find? (fun a => (t.logger? a).isSome) = some p ∧
        namesAbove name = front ++ p :: back ∧ a ∈ back := by
  have hne : a ≠ name := fun he => Nat.lt_irrefl _ (he ▸ isAbove_of_mem hm).length_lt
  have hn' : ((t.waiting name).foldl (hang name) t).logger? a = none := by
    rw [← Option.not_isSome_iff_eq_none, isSome_hangAll, hn]
    exact Bool.false_ne_true
  have hreach := climb_reaches ((t.waiting name).foldl (hang name) t) a name (namesAbove name) hm hn'
  rw [climb_snd] at hreach
  simp only [isSome_hangAll] at hreach
  rw [add, hg]
  simp only [waiting_put_logger]
  rw [if_neg hne]
  exact hreach

/-- A logger that is there stays there when another one comes into being. -/
theorem exists_add_of_logger? (name : String) {c : String} {g : Logger} (h : t.logger? c = some g) :
    ∃ g', (t.add name).logger? c = some g' := by
  cases hg : t.logger? name with
  | some g₁ =>
    rw [add_of_logger? hg]
    exact ⟨g, h⟩
  | none =>
    rw [logger?_add_of_none hg, h]
    split
    · exact ⟨_, rfl⟩
    · split
      · exact ⟨_, rfl⟩
      · exact ⟨g, rfl⟩

/-- A logger that is there once a new one came into being is the new one, or was there before; then it was hung anew, or it is what
it was. -/
theorem logger?_add_cases (hg : t.logger? name = none) {c : String} {g : Logger} (h : (t.add name).logger? c = some g) :
    c = name ∧ g = { parent := (namesAbove name).find? fun a => (t.logger? a).isSome } ∨
      ∃ g₀, t.logger? c = some g₀ ∧ (c ∈ t.waiting name ∧ g = rehang name g₀ ∨ c ∉ t.waiting name ∧ g = g₀) := by
  rw [logger?_add_of_none hg] at h
  by_cases hc : c = name
  · rw [if_pos hc] at h
    exact Or.inl ⟨hc, (Option.some.inj h).symm⟩
  · rw [if_neg hc] at h
    by_cases hw : c ∈ t.waiting name
    · rw [if_pos hw] at h
      obtain ⟨g₀, hg₀, rfl⟩ := Option.map_eq_some_iff.mp h
      exact Or.inr ⟨g₀, hg₀, Or.inl ⟨hw, rfl⟩⟩
    · rw [if_neg hw] at h
      exact Or.inr ⟨g, h, Or.inr ⟨hw, rfl⟩⟩

/-! ## What stays true of the tree -/

/-- What is true of every tree of loggers that came into being one after the other. -/
structure Sound (t : LoggerTree) : Prop where
  /-- The logger above a logger is there, and its name stands before a point of the other's. -/
  parent : ∀ {c g p}, t.logger? c = some g → g.parent = some p → IsAbove p c ∧ ∃ g', t.logger? p = some g'
  /-- The loggers that are kept in mind at a name lie below it. -/
  kept : ∀ {a b}, b ∈ t.waiting a → IsAbove a b
  /-- No logger that the search finds is nearer than the one above a logger, unless its name could be the root's. -/
  nearest : ∀ {c g a g'}, t.logger? c = some g → a ∈ namesAbove c → t.logger? a = some g' →
    ¬ a.toList <+: rootName.toList → ∃ p, g.parent = some p ∧ (a = p ∨ IsAbove a p)
  /-- A logger is kept in mind at every name that the search finds nearer than the logger above it. -/
  awaited : ∀ {c g a}, t.logger? c = some g → a ∈ namesAbove c → t.logger? a = none →
    c ∈ t.waiting a ∨ ∃ p, g.parent = some p ∧ IsAbove a p

namespace Sound

/-- There is nothing to be said of the empty tree. -/
theorem empty : Sound {} where
  parent := nofun
  kept := nofun
  nearest := nofun
  awaited := nofun

/-- Once a new logger came into being, the logger above an old one is the same as before, or the new one, which then lies below
the one from before. -/
theorem parent_grows (h : t.Sound) {c p : String} {g₀ g : Logger} (hg₀ : t.logger? c = some g₀) (hp : g₀.parent = some p)
    (hg : c ∈ t.waiting name ∧ g = rehang name g₀ ∨ c ∉ t.waiting name ∧ g = g₀) :
    ∃ p', g.parent = some p' ∧ (p = p' ∨ IsAbove p p') := by
  rcases hg with ⟨hw, rfl⟩ | ⟨-, rfl⟩
  · rcases rehang_parent name g₀ with ⟨-, hsame⟩ | ⟨hn, hnew⟩
    · exact ⟨p, hsame.trans hp, Or.inl rfl⟩
    · rw [hp] at hn
      exact ⟨name, hnew, Or.inr ((h.parent hg₀ hp).1.of_not_isPrefix (h.kept hw) hn)⟩
  · exact ⟨p, hp, Or.inl rfl⟩

/-- The logger above a new logger is there. -/
theorem exists_of_find? {p : String} (hp : (namesAbove name).find? (fun a => (t.logger? a).isSome) = some p) :
    IsAbove p name ∧ ∃ g, t.logger? p = some g := by
  have hsome : (t.logger? p).isSome = true := List.find?_some (p := fun a => (t.logger? a).isSome) hp
  exact ⟨isAbove_of_mem (List.mem_of_find?_eq_some hp), Option.isSome_iff_exists.mp hsome⟩

theorem parent_add (h : t.Sound) (hnew : t.logger? name = none) {c p : String} {g : Logger}
    (hc : (t.add name).logger? c = some g) (hp : g.parent = some p) :
    IsAbove p c ∧ ∃ g', (t.add name).logger? p = some g' := by
  rcases logger?_add_cases hnew hc with ⟨rfl, rfl⟩ | ⟨g₀, hg₀, hg⟩
  · obtain ⟨habove, g', hg'⟩ := exists_of_find? hp
    exact ⟨habove, exists_add_of_logger? c hg'⟩
  · have hsame : g₀.parent = some p → IsAbove p c ∧ ∃ g', (t.add name).logger? p = some g' := by
      intro hp₀
      obtain ⟨habove, g', hg'⟩ := h.parent hg₀ hp₀
      exact ⟨habove, exists_add_of_logger? name hg'⟩
    rcases hg with ⟨hw, rfl⟩ | ⟨-, rfl⟩
    · rcases rehang_parent name g₀ with ⟨-, hstays⟩ | ⟨-, hhung⟩
      · exact hsame (hstays.symm.trans hp)
      · obtain rfl : name = p := Option.some.inj (hhung.symm.trans hp)
        exact ⟨h.kept hw, logger?_add t name⟩
    · exact hsame hp

theorem nearest_add (h : t.Sound) (hnew : t.logger? name = none) {c a : String} {g g' : Logger}
    (hc : (t.add name).logger? c = some g) (ha : a ∈ namesAbove c) (hg' : (t.add name).logger? a = some g')
    (hroot : ¬ a.toList <+: rootName.toList) : ∃ p, g.parent = some p ∧ (a = p ∨ IsAbove a p) := by
  rcases logger?_add_cases hnew hc with ⟨rfl, rfl⟩ | ⟨g₀, hg₀, hg⟩
  · -- the search for the logger above the new one did not pass over a logger
    rcases logger?_add_cases hnew hg' with ⟨rfl, -⟩ | ⟨g₁, hg₁, -⟩
    · exact absurd (isAbove_of_mem ha).length_lt (Nat.lt_irrefl _)
    · cases hfind : (namesAbove c).find? fun a => (t.logger? a).isSome with
      | none =>
        have hn := List.find?_eq_none.mp hfind a ha
        rw [hg₁] at hn
        exact absurd rfl hn
      | some p =>
        obtain ⟨-, front, back, hsplit, hfront⟩ := List.find?_eq_some_iff_append.mp hfind
        refine ⟨p, rfl, ?_⟩
        rw [hsplit] at ha
        rcases List.mem_append.mp ha with ha | ha
        · have hn := hfront a ha
          rw [hg₁] at hn
          exact absurd hn Bool.false_ne_true
        · rcases List.mem_cons.mp ha with ha | ha
          · exact Or.inl ha
          · exact Or.inr (isAbove_of_later hsplit ha)
  · have hgrown : (∃ p, g₀.parent = some p ∧ (a = p ∨ IsAbove a p)) → ∃ p, g.parent = some p ∧ (a = p ∨ IsAbove a p) := by
      rintro ⟨p, hp, hap⟩
      obtain ⟨p', hp', hpp'⟩ := h.parent_grows hg₀ hp hg
      refine ⟨p', hp', ?_⟩
      rcases hap with rfl | hap
      · exact hpp'
      · rcases hpp' with rfl | hpp'
        · exact Or.inr hap
        · exact Or.inr (hap.trans hpp')
    rcases logger?_add_cases hnew hg' with ⟨rfl, -⟩ | ⟨g₁, hg₁, -⟩
    · -- the new logger is looked for above an old one, so the old one was kept in mind for it or hangs below it anyway
      rcases h.awaited hg₀ ha hnew with hw | ⟨p, hp, hap⟩
      · rcases hg with ⟨-, rfl⟩ | ⟨hw', -⟩
        · rcases rehang_parent a g₀ with ⟨hpre, hstays⟩ | ⟨-, hhung⟩
          · cases hp : g₀.parent with
            | none =>
              rw [hp] at hpre
              exact absurd hpre hroot
            | some p =>
              rw [hp] at hpre
              exact ⟨p, hstays.trans hp, (h.kept hw).eq_or_of_isPrefix (h.parent hg₀ hp).1 hpre⟩
          · exact ⟨a, hhung, Or.inl rfl⟩
        · exact absurd hw hw'
      · exact hgrown ⟨p, hp, Or.inr hap⟩
    · exact hgrown (h.nearest hg₀ ha hg₁ hroot)

theorem awaited_add (h : t.Sound) (hnew : t.logger? name = none) {c a : String} {g : Logger}
    (hc : (t.add name).logger? c = some g) (ha : a ∈ namesAbove c) (hn : (t.add name).logger? a = none) :
    c ∈ (t.add name).waiting a ∨ ∃ p, g.parent = some p ∧ IsAbove a p := by
  have hne : a ≠ name := by
    rintro rfl
    obtain ⟨g', hg'⟩ := logger?_add t a
    rw [hg'] at hn
    cases hn
  have hn₀ : t.logger? a = none := by
    cases hg₁ : t.logger? a with
    | none => rfl
    | some g₁ =>
      obtain ⟨g', hg'⟩ := exists_add_of_logger? name hg₁
      rw [hg'] at hn
      cases hn
  rcases logger?_add_cases hnew hc with ⟨rfl, rfl⟩ | ⟨g₀, hg₀, hg⟩
  · rcases reaches_of_add hnew ha hn₀ with hw | ⟨p, front, back, hp, hsplit, hb⟩
    · exact Or.inl hw
    · exact Or.inr ⟨p, hp, isAbove_of_later hsplit hb⟩
  · rcases h.awaited hg₀ ha hn₀ with hw | ⟨p, hp, hap⟩
    · exact Or.inl (waiting_add_of_mem hne hw)
    · obtain ⟨p', hp', rfl | hpp'⟩ := h.parent_grows hg₀ hp hg
      · exact Or.inr ⟨p, hp', hap⟩
      · exact Or.inr ⟨p', hp', hap.trans hpp'⟩

/-- The tree stays sound when a logger comes into being. -/
theorem add (h : t.Sound) (name : String) : (t.add name).Sound := by
  cases hnew : t.logger? name with
  | some g =>
    rw [add_of_logger? hnew]
    exact h
  | none =>
    refine ⟨h.parent_add hnew, ?_, h.nearest_add hnew, h.awaited_add hnew⟩
    intro a b hb
    rcases mem_waiting_add hb with hb | ⟨rfl, ha⟩
    · exact h.kept hb
    · exact isAbove_of_mem ha

/-- The tree stays sound as long as every logger stays where it is, whatever becomes of its level and its decisions. -/
theorem of_same_places {t' : LoggerTree} (h : t.Sound) (hw : ∀ a, t'.waiting a = t.waiting a)
    (hg : ∀ c, (t'.logger? c).map Logger.parent = (t.logger? c).map Logger.parent) : t'.Sound := by
  have hback : ∀ {c g'}, t'.logger? c = some g' → ∃ g, t.logger? c = some g ∧ g.parent = g'.parent := by
    intro c g' hc
    have hm := hg c
    rw [hc] at hm
    exact Option.map_eq_some_iff.mp hm.symm
  have hforth : ∀ {c g}, t.logger? c = some g → ∃ g', t'.logger? c = some g' := by
    intro c g hc
    have hm := hg c
    rw [hc] at hm
    obtain ⟨g', hg', -⟩ := Option.map_eq_some_iff.mp hm
    exact ⟨g', hg'⟩
  constructor
  · intro c g' p hc hp
    obtain ⟨g, hg, hsame⟩ := hback hc
    obtain ⟨habove, gp, hgp⟩ := h.parent hg (hsame.trans hp)
    exact ⟨habove, hforth hgp⟩
  · intro a b hb
    rw [hw] at hb
    exact h.kept hb
  · intro c g' a g₁ hc ha hg₁ hroot
    obtain ⟨g, hg, hsame⟩ := hback hc
    obtain ⟨g₂, hg₂, -⟩ := hback hg₁
    rw [← hsame]
    exact h.nearest hg ha hg₂ hroot
  · intro c g' a hc ha hn
    obtain ⟨g, hg, hsame⟩ := hback hc
    have hn₀ : t.logger? a = none := by
      cases hga : t.logger? a with
      | none => rfl
      | some ga =>
        obtain ⟨g₁, hg₁⟩ := hforth hga
        rw [hg₁] at hn
        cases hn
    rw [hw, ← hsame]
    exact h.awaited hg ha hn₀

/-- The tree stays sound when a logger is changed that stays where it is. -/
theorem update (h : t.Sound) (name : String) {f : Logger → Logger} (hf : ∀ g, (f g).parent = g.parent) :
    (t.update name f).Sound := by
  refine h.of_same_places (waiting_update t name · f) ?_
  intro c
  rw [logger?_update]
  by_cases hc : c = name
  · rw [if_pos hc, hc, Option.map_map]
    exact congrArg (Option.map · _) (funext hf)
  · rw [if_neg hc]

/-- The tree stays sound when decisions are forgotten. -/
theorem forget (h : t.Sound) : t.forget.Sound := by
  refine h.of_same_places (waiting_forget t) ?_
  intro c
  rw [logger?_forget, Option.map_map]
  rfl

/-- The tree stays sound when the level of a logger is set. -/
theorem setLevel (h : t.Sound) (name : String) (level : Int) : (t.setLevel name level).Sound :=
  ((h.add name).update name (f := fun g => { g with level }) fun _ => rfl).forget

/-- The tree stays sound when a record goes through a logger. -/
theorem judge (h : t.Sound) (rootLevel : Int) (name : String) (level : Int) : (t.judge rootLevel name level).1.Sound :=
  (h.add name).update name (f := fun g => { g with decisions := _ }) fun _ => rfl

end Sound

end LoggerTree

end AccelProbe
