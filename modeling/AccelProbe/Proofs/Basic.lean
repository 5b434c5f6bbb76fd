/-!
# Steps that may fail, and texts that differ

What comes of steps that may fail has come of each of them in turn: the first lemmas take a success apart into those of its steps.
The last ones tell texts apart of which only a part is known.
-/

namespace AccelProbe

variable {ε α β : Type}

/-- What comes of two steps one after the other comes of the second, with what came of the first. -/
theorem exists_of_bind_eq_ok {x : Except ε α} {f : α → Except ε β} {b : β} (h : (x >>= f) = .ok b) :
    ∃ a, x = .ok a ∧ f a = .ok b := by
  cases x with
  | ok a => exact ⟨a, rfl, h⟩
  | error e => cases h

/-- What comes of a step in another form came of the step. -/
theorem exists_of_map_eq_ok {x : Except ε α} {f : α → β} {b : β} (h : x.map f = .ok b) : ∃ a, x = .ok a ∧ f a = b := by
  cases x with
  | ok a => exact ⟨a, rfl, Except.ok.inj h⟩
  | error e => cases h

/-- A step whose fault is named otherwise succeeds as the step does. -/
theorem mapError_eq_ok_iff {δ : Type} {x : Except ε α} {f : ε → δ} {a : α} : x.mapError f = .ok a ↔ x = .ok a := by
  cases x with
  | ok b =>
    change Except.ok b = Except.ok a ↔ Except.ok b = Except.ok a
    rw [Except.ok.injEq, Except.ok.injEq]
  | error e =>
    constructor
    · intro h
      cases h
    · intro h
      cases h

/-- A step whose fault is named otherwise fails as the step does. -/
theorem mapError_eq_error_iff {δ : Type} {x : Except ε α} {f : ε → δ} {d : δ} :
    x.mapError f = .error d ↔ ∃ e, x = .error e ∧ d = f e := by
  cases x with
  | ok b =>
    constructor
    · intro h
      cases h
    · rintro ⟨e, h, -⟩
      cases h
  | error e =>
    constructor
    · intro h
      exact ⟨e, rfl, (Except.error.inj h).symm⟩
    · rintro ⟨_, h, rfl⟩
      cases h
      rfl

/-- Each of the results for the items of a list is that of one item. -/
theorem exists_of_mem_mapM {f : α → Except ε β} {xs : List α} {ys : List β} (h : xs.mapM f = .ok ys) :
    ∀ y ∈ ys, ∃ x ∈ xs, f x = .ok y := by
  induction xs generalizing ys with
  | nil =>
    cases h
    exact nofun
  | cons x xs ih =>
    rw [List.mapM_cons] at h
    obtain ⟨y, hy, h⟩ := exists_of_bind_eq_ok h
    obtain ⟨rest, hrest, h⟩ := exists_of_bind_eq_ok h
    cases h
    intro z hz
    rcases List.mem_cons.mp hz with rfl | hz
    · exact ⟨x, List.mem_cons_self, hy⟩
    · obtain ⟨x', hx', hf⟩ := ih hrest z hz
      exact ⟨x', List.mem_cons_of_mem x hx', hf⟩

/-- Steps that succeed for a list have succeeded for each of its items. -/
theorem exists_of_mapM_eq_ok {f : α → Except ε β} {xs : List α} {ys : List β} (h : xs.mapM f = .ok ys) :
    ∀ x ∈ xs, ∃ y, f x = .ok y := by
  induction xs generalizing ys with
  | nil => exact nofun
  | cons x xs ih =>
    rw [List.mapM_cons] at h
    obtain ⟨y, hy, h⟩ := exists_of_bind_eq_ok h
    obtain ⟨rest, hrest, -⟩ := exists_of_bind_eq_ok h
    exact List.forall_mem_cons.mpr ⟨⟨y, hy⟩, ih hrest⟩

/-- Steps that succeed for each item of a list succeed for the list. -/
theorem exists_mapM_eq_ok {f : α → Except ε β} {xs : List α} (h : ∀ x ∈ xs, ∃ y, f x = .ok y) : ∃ ys, xs.mapM f = .ok ys := by
  induction xs with
  | nil => exact ⟨[], rfl⟩
  | cons x xs ih =>
    obtain ⟨y, hy⟩ := h x List.mem_cons_self
    obtain ⟨ys, hys⟩ := ih fun x' hx' => h x' (List.mem_cons_of_mem x hx')
    exact ⟨y :: ys, by rw [List.mapM_cons, hy, hys]; rfl⟩

/-- The results for the items of a list are what each result is known to be. -/
theorem eq_map_of_mapM_eq_ok {f : α → Except ε β} {g : α → β} {xs : List α} {ys : List β} (h : xs.mapM f = .ok ys)
    (hf : ∀ x y, f x = .ok y → y = g x) : ys = xs.map g := by
  induction xs generalizing ys with
  | nil => exact (Except.ok.inj h).symm
  | cons x xs ih =>
    rw [List.mapM_cons] at h
    obtain ⟨y, hy, h⟩ := exists_of_bind_eq_ok h
    obtain ⟨rest, hrest, h⟩ := exists_of_bind_eq_ok h
    cases h
    rw [hf x y hy, ih hrest, List.map_cons]

/-- Steps that succeed for each item of a list have the list of their results. -/
theorem mapM_eq_ok_map {f : α → Except ε β} {g : α → β} {xs : List α} (h : ∀ x ∈ xs, f x = .ok (g x)) :
    xs.mapM f = .ok (xs.map g) := by
  induction xs with
  | nil => rfl
  | cons x xs ih =>
    have hrest : xs.mapM f = .ok (xs.map g) := ih fun x' hx' => h x' (List.mem_cons_of_mem x hx')
    rw [List.mapM_cons, h x List.mem_cons_self, hrest]
    rfl

/-- What a function tells of items, another tells of them that tells them apart. -/
theorem map_eq_map_of_imp {γ : Type} {f : α → β} {g : α → γ} (h : ∀ x y, f x = f y → g x = g y) {xs ys : List α}
    (heq : xs.map f = ys.map f) : xs.map g = ys.map g := by
  induction xs generalizing ys with
  | nil =>
    cases ys with
    | nil => rfl
    | cons y ys => cases heq
  | cons x xs ih =>
    cases ys with
    | nil => cases heq
    | cons y ys =>
      obtain ⟨hx, hxs⟩ := List.cons.inj heq
      rw [List.map_cons, List.map_cons, h x y hx, ih hxs]

/-- A text that begins otherwise is another text. -/
theorem append_ne {p rest t : String} (h : ¬ p.toList <+: t.toList) : p ++ rest ≠ t := by
  rintro rfl
  refine h ?_
  rw [String.toList_append]
  exact List.prefix_append _ _

/-- A text with a piece that is longer than another text is not that text. -/
theorem append_append_ne {p s rest t : String} (h : t.length < s.length) : p ++ s ++ rest ≠ t := by
  rintro rfl
  rw [String.length_append, String.length_append] at h
  omega

end AccelProbe
