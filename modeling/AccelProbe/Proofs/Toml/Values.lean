import AccelProbe.Proofs.Toml.Scalars
import AccelProbe.Proofs.Toml.Steps

/-!
# Values as they are written

A collection is written as a list: its items with commas between them, in brackets. The reader of an array takes one item after the
other off what is left, so a list of scalars is read back item by item, and a tuple is read as a list.
-/

namespace AccelProbe

namespace Toml

/-- Whether a value has a written form: it is a scalar, or a collection of scalars. -/
inductive HasForm : Value → Prop where
  /-- A scalar. -/
  | scalar {v : Value} (h : IsScalar v) : HasForm v
  /-- A list of scalars. -/
  | list {items : List Value} (h : ∀ item ∈ items, IsScalar item) : HasForm (.list items)
  /-- A tuple of scalars, which is written as a list. -/
  | tuple {items : List Value} (h : ∀ item ∈ items, IsScalar item) : HasForm (.tuple items)

/-- The written form of items, with blanks behind the commas between them. -/
def itemsText (gap : List Char) : List Value → List Char
  | [] => []
  | [item] => scalarText item
  | item :: items => scalarText item ++ ',' :: gap ++ itemsText gap items

/-- The written form of a value. -/
def valueText (gap : List Char) : Value → List Char
  | .list items => '[' :: itemsText gap items ++ [']']
  | .tuple items => '[' :: itemsText gap items ++ [']']
  | v => scalarText v

/-- The value that is read where this one was written: a collection is read as a list. -/
def asRead : Value → Value
  | .tuple items => .list items
  | v => v

/-- Whether a character may begin a scalar. -/
def BeginsScalar (c : Char) : Prop := c = '\x22' ∨ c = 't' ∨ c = 'f' ∨ c.isDigit = true

/-- The written form of a scalar begins with such a character. -/
theorem exists_scalarText_eq_cons {v : Value} (h : IsScalar v) : ∃ c cs, scalarText v = c :: cs ∧ BeginsScalar c := by
  cases h with
  | @str s h => exact ⟨'\x22', s.toList ++ ['\x22'], rfl, Or.inl rfl⟩
  | bool b =>
    cases b with
    | true => exact ⟨'t', _, rfl, Or.inr (Or.inl rfl)⟩
    | false => exact ⟨'f', _, rfl, Or.inr (Or.inr (Or.inl rfl))⟩
  | @int n h =>
    obtain ⟨d, ds, hds, hd, -⟩ := exists_ofNat_eq_cons n
    exact ⟨d, ds, hds, Or.inr (Or.inr (Or.inr hd))⟩

/-- What may begin a scalar is none of these characters. -/
theorem BeginsScalar.ne {c d : Char} (h : BeginsScalar c) (hd : d ∈ ['[', '\x7b', ']', ',', '#', '\n', ' ', '\t']) : c ≠ d := by
  rintro rfl
  rcases h with rfl | rfl | rfl | h
  · revert hd; decide
  · revert hd; decide
  · revert hd; decide
  · simp only [List.mem_cons, List.not_mem_nil, or_false] at hd
    rcases hd with rfl | rfl | rfl | rfl | rfl | rfl | rfl | rfl <;> exact absurd h (by decide)

/-- A value that begins as a scalar is read as one. -/
theorem value_of_beginsScalar {c : Char} (hc : BeginsScalar c) (cs : List Char) (bound : Nat) {store : Nat}
    (hstore : mostSteps ≤ store) : value (bound + 1) store (c :: cs) = scalar (c :: cs) := by
  have hlist : c ≠ '[' := hc.ne (by decide)
  have htable : c ≠ '\x7b' := hc.ne (by decide)
  unfold value
  split
  next heq => exact absurd (List.cons.inj heq).1 hlist
  next heq => exact absurd (List.cons.inj heq).1 htable
  next =>
    rw [afford_scalarSteps hstore]
    rfl

/-- A scalar is read as a value, too. -/
theorem value_scalarText {v : Value} (h : IsScalar v) {rest : List Char} (hrest : EndsValue rest) (bound : Nat) {store : Nat}
    (hstore : mostSteps ≤ store) : value (bound + 1) store (scalarText v ++ rest) = .ok (v, rest) := by
  obtain ⟨c, cs, htext, hc⟩ := exists_scalarText_eq_cons h
  have hread := scalar_scalarText h hrest
  rw [htext, List.cons_append] at hread ⊢
  rw [value_of_beginsScalar hc _ _ hstore, hread]

/-- Blanks and then something else are passed over. -/
theorem skipFiller_append {gap : List Char} (hgap : ∀ c ∈ gap, isBlank c = true) {c : Char} (hc : isFiller c = false)
    (hcomment : c ≠ '#') (cs : List Char) : skipFiller false (gap ++ c :: cs) = .ok (c :: cs) := by
  induction gap with
  | nil => simp [skipFiller, hc, hcomment]
  | cons blank gap ih =>
    obtain ⟨hblank, hgap⟩ := List.forall_mem_cons.mp hgap
    have hfiller : isFiller blank = true := by rw [isFiller, hblank, Bool.true_or]
    rw [List.cons_append, skipFiller, if_neg Bool.false_ne_true, if_pos hfiller, ih hgap]

theorem BeginsScalar.not_filler {c : Char} (h : BeginsScalar c) : isFiller c = false := by
  have hspace : c ≠ ' ' := h.ne (by decide)
  have htab : c ≠ '\t' := h.ne (by decide)
  have hline : c ≠ '\n' := h.ne (by decide)
  simp [isFiller, isBlank, hspace, htab, hline]

section

variable {item : Value} (h : IsScalar item) (bound : Nat) {store : Nat} (hstore : mostSteps ≤ store)

include h hstore

/-- An item with the closing bracket behind it is the last one. -/
theorem arrayItems_last (rest : List Char) :
    arrayItems (bound + 2) store (scalarText item ++ ']' :: rest) = .ok ([item], rest) := by
  obtain ⟨c, cs, htext, hc⟩ := exists_scalarText_eq_cons h
  have hopen : c ≠ ']' := hc.ne (by decide)
  have hvalue : value (bound + 1) store (scalarText item ++ ']' :: rest) = .ok (item, ']' :: rest) :=
    value_scalarText h (endsValue_cons (Or.inr (Or.inr rfl))) bound hstore
  rw [htext, List.cons_append] at hvalue ⊢
  rw [arrayItems, hvalue]
  · change (passFiller store (']' :: rest)).bind _ = _
    rw [passFiller_eq hstore]
    rfl
  · exact fun rest heq => hopen (List.cons.inj heq).1

/-- Behind an item with a comma come the others. -/
theorem arrayItems_next {cs behind rest : List Char} {items : List Value} (hskip : skipFiller false cs = .ok behind)
    (hitems : arrayItems (bound + 1) store behind = .ok (items, rest)) :
    arrayItems (bound + 2) store (scalarText item ++ ',' :: cs) = .ok (item :: items, rest) := by
  obtain ⟨c, left, htext, hc⟩ := exists_scalarText_eq_cons h
  have hopen : c ≠ ']' := hc.ne (by decide)
  have hvalue : value (bound + 1) store (scalarText item ++ ',' :: cs) = .ok (item, ',' :: cs) :=
    value_scalarText h (endsValue_cons (Or.inr (Or.inl rfl))) bound hstore
  rw [htext, List.cons_append] at hvalue ⊢
  rw [arrayItems, hvalue]
  · change (passFiller store (',' :: cs)).bind _ = _
    rw [passFiller_eq hstore]
    change (passFiller store cs).bind _ = _
    rw [passFiller_eq hstore, hskip]
    change (arrayItems (bound + 1) store behind).bind _ = _
    rw [hitems]
    rfl
  · exact fun rest heq => hopen (List.cons.inj heq).1

end

/-- Items with the closing bracket behind them begin with no filler. -/
theorem exists_itemsText_eq_cons (gap : List Char) {items : List Value} (h : ∀ item ∈ items, IsScalar item) (rest : List Char) :
    ∃ c cs, itemsText gap items ++ ']' :: rest = c :: cs ∧ isFiller c = false ∧ c ≠ '#' := by
  rcases items with _ | ⟨item, items⟩
  · exact ⟨']', rest, rfl, rfl, by decide⟩
  · obtain ⟨c, cs, htext, hc⟩ := exists_scalarText_eq_cons (h item List.mem_cons_self)
    rcases items with _ | ⟨next, items⟩
    · exact ⟨c, cs ++ ']' :: rest, by simp [itemsText, htext], hc.not_filler, hc.ne (by decide)⟩
    · refine ⟨c, cs ++ ',' :: gap ++ itemsText gap (next :: items) ++ ']' :: rest, ?_, hc.not_filler, hc.ne (by decide)⟩
      simp [itemsText, htext]

/-- Items are read as they are written, up to the bracket behind them. -/
theorem arrayItems_itemsText {gap : List Char} (hgap : ∀ c ∈ gap, isBlank c = true) {items : List Value}
    (h : ∀ item ∈ items, IsScalar item) {bound store : Nat} (hbound : items.length < bound) (hstore : mostSteps ≤ store)
    (rest : List Char) : arrayItems bound store (itemsText gap items ++ ']' :: rest) = .ok (items, rest) := by
  induction items generalizing bound with
  | nil =>
    obtain ⟨bound, rfl⟩ := Nat.exists_eq_add_one_of_ne_zero (Nat.ne_of_gt hbound)
    simp [itemsText, arrayItems]
  | cons item items ih =>
    have hlength : items.length + 1 < bound := hbound
    obtain ⟨bound, rfl⟩ : ∃ smaller, bound = smaller + 2 := ⟨bound - 2, by omega⟩
    obtain ⟨hitem, hitems⟩ := List.forall_mem_cons.mp h
    cases items with
    | nil => exact arrayItems_last hitem bound hstore rest
    | cons next items =>
      have hothers := @ih hitems (bound + 1) (by omega)
      obtain ⟨c, cs, hcs, hfiller, hcomment⟩ := exists_itemsText_eq_cons gap hitems rest
      rw [hcs] at hothers
      have hnext := arrayItems_next hitem bound hstore (skipFiller_append hgap hfiller hcomment cs) hothers
      rw [← hnext, ← hcs]
      simp [itemsText]

/-- There are no more items than characters. -/
theorem length_le_itemsText (gap : List Char) {items : List Value} (h : ∀ item ∈ items, IsScalar item) :
    items.length ≤ (itemsText gap items).length := by
  induction items with
  | nil => exact Nat.le_refl 0
  | cons item items ih =>
    obtain ⟨hitem, hitems⟩ := List.forall_mem_cons.mp h
    obtain ⟨c, cs, htext, -⟩ := exists_scalarText_eq_cons hitem
    have hrest := ih hitems
    cases items with
    | nil => simp [itemsText, htext]
    | cons next items =>
      simp only [itemsText, htext, List.length_append, List.length_cons] at hrest ⊢
      omega

/-- Items between brackets are read as a list. -/
theorem value_items {gap : List Char} (hgap : ∀ c ∈ gap, isBlank c = true) {items : List Value}
    (h : ∀ item ∈ items, IsScalar item) {bound : Nat} (hbound : (itemsText gap items).length ≤ bound) (rest : List Char) :
    value (bound + 2) depthStore ('[' :: itemsText gap items ++ ']' :: rest) = .ok (.list items, rest) := by
  have hstore : mostSteps ≤ depthStore - arraySteps := by decide
  have hlength : items.length < bound + 1 := Nat.lt_succ_of_le (Nat.le_trans (length_le_itemsText gap h) hbound)
  have hitems := arrayItems_itemsText hgap h hlength hstore rest
  obtain ⟨c, cs, hcs, hfiller, hcomment⟩ := exists_itemsText_eq_cons gap h rest
  have hskip : skipFiller false (c :: cs) = .ok (c :: cs) := @skipFiller_append [] nofun c hfiller hcomment cs
  rw [hcs] at hitems
  rw [List.cons_append, hcs, value]
  change (passFiller (depthStore - arraySteps) (c :: cs)).bind _ = _
  rw [passFiller_eq hstore, hskip]
  change (arrayItems (bound + 1) (depthStore - arraySteps) (c :: cs)).bind _ = _
  rw [hitems]
  rfl

/-- A value is read as it is written. -/
theorem value_valueText {gap : List Char} (hgap : ∀ c ∈ gap, isBlank c = true) {v : Value} (h : HasForm v) {rest : List Char}
    (hrest : EndsValue rest) {bound : Nat} (hbound : (valueText gap v).length ≤ bound) :
    value (bound + 2) depthStore (valueText gap v ++ rest) = .ok (asRead v, rest) := by
  have hitems : ∀ {items : List Value}, (∀ item ∈ items, IsScalar item) → ('[' :: itemsText gap items ++ [']']).length ≤ bound →
      value (bound + 2) depthStore ('[' :: itemsText gap items ++ [']'] ++ rest) = .ok (.list items, rest) := by
    intro items hitems hlength
    rw [List.append_assoc]
    refine value_items hgap hitems ?_ rest
    simp only [List.length_append, List.length_cons] at hlength
    omega
  cases h with
  | scalar h =>
    have hread := @value_scalarText _ h rest hrest (bound + 1) depthStore (by decide)
    cases h with
    | str _ => exact hread
    | bool _ => exact hread
    | int _ => exact hread
  | list h => exact hitems h hbound
  | tuple h => exact hitems h hbound

/-- The written form of a value begins with no blank. -/
theorem exists_valueText_eq_cons (gap : List Char) {v : Value} (h : HasForm v) : ∃ c cs, valueText gap v = c :: cs ∧ isBlank c = false := by
  cases h with
  | @scalar v h =>
    obtain ⟨c, cs, htext, hc⟩ := exists_scalarText_eq_cons h
    have hblank : isBlank c = false := (Bool.or_eq_false_iff.mp hc.not_filler).1
    cases h with
    | str _ => exact ⟨c, cs, htext, hblank⟩
    | bool _ => exact ⟨c, cs, htext, hblank⟩
    | int _ => exact ⟨c, cs, htext, hblank⟩
  | list h => exact ⟨'[', _, rfl, rfl⟩
  | tuple h => exact ⟨'[', _, rfl, rfl⟩

/-- The written form of a scalar has no line end of two characters. -/
theorem notMem_scalarText {v : Value} (h : IsScalar v) : '\r' ∉ scalarText v := by
  cases h with
  | @str s h =>
    intro hm
    simp only [scalarText, List.mem_cons, List.mem_append, List.cons_append, List.not_mem_nil, or_false] at hm
    rcases hm with hm | hm | hm
    · exact absurd hm (by decide)
    · exact absurd (h '\r' hm).2.2 (by decide)
    · exact absurd hm (by decide)
  | bool b => cases b <;> decide
  | int h => exact fun hm => absurd (Digits.isDigit_of_mem_ofNat hm) (by decide)

theorem notMem_itemsText {gap : List Char} (hgap : ∀ c ∈ gap, isBlank c = true) {items : List Value}
    (h : ∀ item ∈ items, IsScalar item) : '\r' ∉ itemsText gap items := by
  have hblank : '\r' ∉ gap := fun hm => absurd (hgap '\r' hm) (by decide)
  induction items with
  | nil => exact nofun
  | cons item items ih =>
    obtain ⟨hitem, hitems⟩ := List.forall_mem_cons.mp h
    cases items with
    | nil => exact notMem_scalarText hitem
    | cons next items =>
      have hfirst := notMem_scalarText hitem
      have hrest := ih hitems
      simp [itemsText, hfirst, hblank, hrest]

theorem notMem_valueText {gap : List Char} (hgap : ∀ c ∈ gap, isBlank c = true) {v : Value} (h : HasForm v) :
    '\r' ∉ valueText gap v := by
  cases h with
  | scalar h =>
    have hscalar := notMem_scalarText h
    cases h with
    | str _ => exact hscalar
    | bool _ => exact hscalar
    | int _ => exact hscalar
  | list h => simp [valueText, notMem_itemsText hgap h]
  | tuple h => simp [valueText, notMem_itemsText hgap h]

end Toml

end AccelProbe
