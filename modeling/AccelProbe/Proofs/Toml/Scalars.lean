import AccelProbe.Proofs.Decimal.Digits
import AccelProbe.Toml.Expression

/-!
# Scalars as they are written

A text, a truth value or an integer is written in one of the forms that a document allows. Whatever stands behind it, as long as that
ends a value, the reader gives the scalar back and leaves the rest.
-/

namespace AccelProbe

namespace Toml

/-- Whether a character may stand for itself in a text between double quotes. -/
def IsPlain (c : Char) : Prop := c ≠ '\x22' ∧ c ≠ '\\' ∧ isForbidden c = false

/-- Whether a value is a scalar that has a written form: a text that needs no escapes, a truth value, or an integer from zero on that is
not too long. -/
inductive IsScalar : Value → Prop where
  /-- A text. -/
  | str {s : String} (h : ∀ c ∈ s.toList, IsPlain c) : IsScalar (.str s)
  /-- A truth value. -/
  | bool (b : Bool) : IsScalar (.bool b)
  /-- An integer from zero on. -/
  | int {n : Nat} (h : Digits.fits n = true) : IsScalar (.int n)

/-- The written form of a scalar. -/
def scalarText : Value → List Char
  | .str s => '\x22' :: s.toList ++ ['\x22']
  | .bool true => ['t', 'r', 'u', 'e']
  | .bool false => ['f', 'a', 'l', 's', 'e']
  | .int n => Digits.ofInt n
  | _ => []

/-- Whether characters end a value: there are none, or first comes a line end, a comma or a closing bracket. -/
def EndsValue (cs : List Char) : Prop := ∀ c ∈ cs.head?, c = '\n' ∨ c = ',' ∨ c = ']'

/-- What ends a value begins with one of three characters, if with any. -/
theorem EndsValue.cases {cs : List Char} (h : EndsValue cs) :
    cs = [] ∨ ∃ c rest, cs = c :: rest ∧ (c = '\n' ∨ c = ',' ∨ c = ']') := by
  cases cs with
  | nil => exact Or.inl rfl
  | cons c rest => exact Or.inr ⟨c, rest, rfl, h c rfl⟩

theorem endsValue_cons {c : Char} {rest : List Char} (h : c = '\n' ∨ c = ',' ∨ c = ']') : EndsValue (c :: rest) := by
  rintro d hd
  obtain rfl := Option.some.inj hd
  exact h

/-! ## Texts -/

/-- The reader of a text gives back the characters that stand for themselves. -/
theorem escapedText_of_plain {cs : List Char} (h : ∀ c ∈ cs, IsPlain c) (rest : List Char) :
    escapedText false .plain (cs ++ '\x22' :: rest) = .ok (cs, rest) := by
  induction cs with
  | nil => rfl
  | cons c cs ih =>
    obtain ⟨⟨hquote, hslash, hforbidden⟩, hcs⟩ := List.forall_mem_cons.mp h
    have hstep : escapedText false .plain (c :: (cs ++ '\x22' :: rest)) =
        inFront c (escapedText false .plain (cs ++ '\x22' :: rest)) := by
      simp [escapedText, hquote, hslash, hforbidden]
    rw [List.cons_append, hstep, ih hcs]
    rfl

/-- A double quote that no two others follow begins a text on one line. -/
theorem text?_of_quote {cs : List Char} (h : ∀ rest, cs ≠ '\x22' :: '\x22' :: rest) :
    text? ('\x22' :: cs) = some (asString (escapedText false .plain cs)) := by
  unfold text?
  split
  next heq => exact absurd (List.cons.inj heq).2 (h _)
  next heq => exact absurd (List.cons.inj heq).1 (by decide)
  next heq => rw [(List.cons.inj heq).2]
  next heq => exact absurd (List.cons.inj heq).1 (by decide)
  next hother _ => exact absurd rfl (hother cs)

/-- A text is read back. -/
theorem text?_scalarText {s : String} (h : ∀ c ∈ s.toList, IsPlain c) {rest : List Char} (hrest : EndsValue rest) :
    text? (scalarText (.str s) ++ rest) = some (.ok (s, rest)) := by
  have hread : asString (escapedText false .plain (s.toList ++ '\x22' :: rest)) = .ok (s, rest) := by
    rw [escapedText_of_plain h, asString]
    change Except.ok (String.ofList s.toList, rest) = _
    rw [String.ofList_toList]
  have htext : scalarText (.str s) ++ rest = '\x22' :: (s.toList ++ '\x22' :: rest) := by
    simp [scalarText]
  rw [htext, text?_of_quote, hread]
  intro behind heq
  cases hs : s.toList with
  | nil =>
    -- the text is empty, and what ends it is no quote
    rw [hs, List.nil_append] at heq
    rcases hrest '\x22' (by rw [(List.cons.inj heq).2]; rfl) with hc | hc | hc <;> exact absurd hc (by decide)
  | cons c cs =>
    rw [hs, List.cons_append] at heq
    exact (h c (hs ▸ List.mem_cons_self)).1 (List.cons.inj heq).1

/-! ## Integers -/

/-- The digits of a number begin with a digit, which is no zero unless the number is. -/
theorem exists_ofNat_eq_cons (n : Nat) :
    ∃ d ds, Digits.ofNat n = d :: ds ∧ d.isDigit = true ∧ (0 < n → d ≠ '0') := by
  induction n using Nat.strongRecOn with
  | ind n ih =>
    by_cases hn : n < 10
    · refine ⟨Nat.digitChar n, [], Nat.toDigits_of_lt_base hn, ?_, ?_⟩
      · exact (Nat.isDigit_digitChar).trans (decide_eq_true hn)
      · intro hpos hzero
        exact absurd (Nat.digitChar_eq_zero.mp hzero) (Nat.ne_of_gt hpos)
    · obtain ⟨d, ds, hds, hdigit, hzero⟩ := ih (n / 10) (by omega)
      refine ⟨d, ds ++ [Nat.digitChar (n % 10)], ?_, hdigit, fun _ => hzero (by omega)⟩
      rw [← List.cons_append, ← hds]
      exact Nat.toDigits_of_base_le (by decide) (by omega)

/-- Digits are read as far as they go. -/
theorem moreDigits_append {digit : Char → Bool} {ds rest : List Char} (hds : ∀ c ∈ ds, digit c = true)
    (hrest : ∀ c ∈ rest.head?, digit c = false ∧ c ≠ '_') : moreDigits digit (ds ++ rest) = (ds, rest) := by
  induction ds with
  | nil =>
    cases rest with
    | nil => rfl
    | cons c rest =>
      obtain ⟨hdigit, hunderscore⟩ := hrest c rfl
      simp [moreDigits, hdigit, hunderscore]
  | cons d ds ih =>
    obtain ⟨hd, hds⟩ := List.forall_mem_cons.mp hds
    rw [List.cons_append, moreDigits, if_pos hd, ih hds]

/-- What ends a value is no digit and no mark of a number. -/
theorem EndsValue.head {cs : List Char} (h : EndsValue cs) : ∀ c ∈ cs.head?, c.isDigit = false ∧ c ≠ '_' := by
  intro c hc
  rcases h c hc with rfl | rfl | rfl <;> decide

/-- The whole part of a decimal is read as it is written. -/
theorem whole?_ofNat (n : Nat) {rest : List Char} (hrest : EndsValue rest) :
    whole? (Digits.ofNat n ++ rest) = some (Digits.ofNat n, rest) := by
  by_cases hn : n = 0
  · subst hn
    rfl
  · obtain ⟨d, ds, hds, hd, hzero⟩ := exists_ofNat_eq_cons n
    have hdigits : moreDigits Char.isDigit (Digits.ofNat n ++ rest) = (Digits.ofNat n, rest) :=
      moreDigits_append (fun _ => Digits.isDigit_of_mem_ofNat) hrest.head
    rw [hds, List.cons_append] at hdigits ⊢
    unfold whole?
    split
    next heq => exact absurd (List.cons.inj heq).1 (hzero (Nat.pos_of_ne_zero hn))
    next => rw [digits?, List.head?_cons, Option.any_some, if_pos hd, hdigits]

/-- A number of another base begins with a zero. -/
theorem based?_of_head {cs : List Char} (h : cs.head? ≠ some '0') : based? cs = none := by
  unfold based?
  split
  next => exact absurd rfl h
  next => rfl

/-- Digits that end a value are no number of another base. -/
theorem based?_ofNat (n : Nat) {rest : List Char} (hrest : EndsValue rest) : based? (Digits.ofNat n ++ rest) = none := by
  by_cases hn : n = 0
  · subst hn
    rcases hrest.cases with rfl | ⟨c, rest, rfl, rfl | rfl | rfl⟩ <;> rfl
  · obtain ⟨d, ds, hds, -, hzero⟩ := exists_ofNat_eq_cons n
    refine based?_of_head ?_
    rw [hds]
    exact fun heq => hzero (Nat.pos_of_ne_zero hn) (Option.some.inj heq)

/-- A number that is not too long is read as it is written. -/
theorem number?_ofNat {n : Nat} (hn : Digits.fits n = true) {rest : List Char} (hrest : EndsValue rest) :
    number? (Digits.ofNat n ++ rest) = some (.ok (.int n, rest)) := by
  have hsign : Numeral.takeSign (Digits.ofNat n ++ rest) = (false, Digits.ofNat n ++ rest) := by
    obtain ⟨d, ds, hds, hd, -⟩ := exists_ofNat_eq_cons n
    rw [hds, List.cons_append]
    unfold Numeral.takeSign
    split
    next heq => exact absurd ((List.cons.inj heq).1 ▸ hd) (by decide)
    next heq => exact absurd ((List.cons.inj heq).1 ▸ hd) (by decide)
    next => rfl
  have hfraction : fraction? rest = none := by
    rcases hrest.cases with rfl | ⟨c, rest, rfl, rfl | rfl | rfl⟩ <;> rfl
  have hexponent : exponent? rest = none := by
    rcases hrest.cases with rfl | ⟨c, rest, rfl, rfl | rfl | rfl⟩ <;> rfl
  have hlength : ¬ Digits.limit < (Digits.ofNat n).length := Nat.not_lt.mpr ((Digits.fits_iff n).mp hn)
  have hdecimal : decimal? (Digits.ofNat n ++ rest) = some (.ok (.int n, rest)) := by
    rw [decimal?, hsign]
    simp only [whole?_ofNat n hrest, hfraction, hexponent, if_neg hlength, Digits.toNat_ofNat]
    rfl
  rw [number?, based?_ofNat n hrest, hdecimal]

/-! ## Moments -/

/-- A year takes digits. -/
theorem exists_of_year? {cs rest : List Char} {year : Nat} (h : year? cs = some (year, rest)) :
    ∃ ds, (∀ c ∈ ds, c.isDigit = true) ∧ cs = ds ++ rest := by
  unfold year? at h
  split at h
  next a b c d left =>
    split at h
    next hdigits =>
      obtain ⟨-, rfl⟩ := Prod.mk.inj (Option.some.inj h)
      exact ⟨[a, b, c, d], List.all_eq_true.mp hdigits, rfl⟩
    next => cases h
  next => cases h

/-- So does a number of two digits. -/
theorem exists_of_twoDigits? {low high n : Nat} {cs rest : List Char} (h : twoDigits? low high cs = some (n, rest)) :
    ∃ ds, (∀ c ∈ ds, c.isDigit = true) ∧ cs = ds ++ rest := by
  unfold twoDigits? at h
  split at h
  next a b left =>
    split at h
    next hdigits =>
      obtain ⟨ha, hb⟩ := Bool.and_eq_true_iff.mp hdigits
      refine ⟨[a, b], List.forall_mem_cons.mpr ⟨ha, List.forall_mem_singleton.mpr hb⟩, ?_⟩
      dsimp only at h
      split at h
      next =>
        obtain ⟨-, rfl⟩ := Prod.mk.inj (Option.some.inj h)
        rfl
      next => cases h
    next => cases h
  next => cases h

/-- What stands behind a mark stands behind it. -/
theorem eq_cons_of_behind? {mark : Char} {cs rest : List Char} (h : behind? mark cs = some rest) : cs = mark :: rest := by
  cases cs with
  | nil => cases h
  | cons c left =>
    obtain ⟨rfl, hrest⟩ := Option.ite_none_right_eq_some.mp (h : (if c = mark then some left else none) = some rest)
    rw [Option.some.inj hrest]

/-- A moment has a mark behind its first digits. -/
theorem exists_of_moment? {cs : List Char} {reading : Reading Value} (h : moment? cs = some reading) :
    ∃ ds mark rest, (∀ c ∈ ds, c.isDigit = true) ∧ (mark = '-' ∨ mark = ':') ∧ cs = ds ++ mark :: rest := by
  unfold moment? at h
  split at h
  next date behind hdate =>
    unfold date? at hdate
    obtain ⟨⟨year, left⟩, hyear, hdate⟩ := Option.bind_eq_some_iff.mp hdate
    obtain ⟨rest, hmark, -⟩ := Option.bind_eq_some_iff.mp hdate
    obtain ⟨ds, hds, rfl⟩ := exists_of_year? hyear
    exact ⟨ds, '-', rest, hds, Or.inl rfl, by rw [eq_cons_of_behind? hmark]⟩
  next =>
    obtain ⟨⟨time, behind⟩, htime, -⟩ := Option.map_eq_some_iff.mp h
    unfold timeOfDay? at htime
    obtain ⟨⟨hour, left⟩, hhour, htime⟩ := Option.bind_eq_some_iff.mp htime
    obtain ⟨rest, hmark, -⟩ := Option.bind_eq_some_iff.mp htime
    obtain ⟨ds, hds, rfl⟩ := exists_of_twoDigits? hhour
    exact ⟨ds, ':', rest, hds, Or.inr rfl, by rw [eq_cons_of_behind? hmark]⟩

/-- Digits that end a value are no moment. -/
theorem moment?_ofNat (n : Nat) {rest : List Char} (hrest : EndsValue rest) : moment? (Digits.ofNat n ++ rest) = none := by
  cases hm : moment? (Digits.ofNat n ++ rest) with
  | none => rfl
  | some reading =>
    obtain ⟨ds, mark, behind, hds, hmark, heq⟩ := exists_of_moment? hm
    have hnot : mark.isDigit = false := by rcases hmark with rfl | rfl <;> rfl
    -- behind the digits of the number stands what ends it, behind those of the moment its mark
    have hnumber : (Digits.ofNat n ++ rest).dropWhile Char.isDigit = rest.dropWhile Char.isDigit :=
      List.dropWhile_append_of_pos fun _ => Digits.isDigit_of_mem_ofNat
    have hmoment : (ds ++ mark :: behind).dropWhile Char.isDigit = mark :: behind := by
      rw [List.dropWhile_append_of_pos hds, List.dropWhile_cons_of_neg (by simp [hnot])]
    rw [heq, hmoment] at hnumber
    rcases hrest.cases with rfl | ⟨c, left, rfl, hc⟩
    · cases hnumber
    · have hcdigit : c.isDigit = false := by rcases hc with rfl | rfl | rfl <;> rfl
      rw [List.dropWhile_cons_of_neg (by simp [hcdigit])] at hnumber
      have hsame : mark = c := (List.cons.inj hnumber).1
      subst hsame
      rcases hmark with rfl | rfl <;> rcases hc with hc | hc | hc <;> exact absurd hc (by decide)

/-! ## Scalars -/

/-- A digit begins neither a text nor a truth value. -/
theorem text?_flag?_of_isDigit {d : Char} (hd : d.isDigit = true) (cs : List Char) :
    text? (d :: cs) = none ∧ flag? (d :: cs) = none := by
  have hne : ∀ {c}, c.isDigit = false → d ≠ c := by
    rintro c hc rfl
    exact Bool.false_ne_true (hc.symm.trans hd)
  constructor
  · unfold text?
    split
    next heq => exact absurd (List.cons.inj heq).1 (hne rfl)
    next heq => exact absurd (List.cons.inj heq).1 (hne rfl)
    next heq => exact absurd (List.cons.inj heq).1 (hne rfl)
    next heq => exact absurd (List.cons.inj heq).1 (hne rfl)
    next => rfl
  · unfold flag?
    split
    next heq => exact absurd (List.cons.inj heq).1 (hne rfl)
    next heq => exact absurd (List.cons.inj heq).1 (hne rfl)
    next => rfl

/-- A scalar is read as it is written. -/
theorem scalar_scalarText {v : Value} (h : IsScalar v) {rest : List Char} (hrest : EndsValue rest) :
    scalar (scalarText v ++ rest) = .ok (v, rest) := by
  cases h with
  | str h =>
    rw [scalar, text?_scalarText h hrest]
    rfl
  | bool b => cases b <;> rfl
  | @int n h =>
    change scalar (Digits.ofNat n ++ rest) = _
    have hhead : text? (Digits.ofNat n ++ rest) = none ∧ flag? (Digits.ofNat n ++ rest) = none := by
      obtain ⟨d, ds, hds, hd, -⟩ := exists_ofNat_eq_cons n
      rw [hds]
      exact text?_flag?_of_isDigit hd (ds ++ rest)
    rw [scalar, hhead.1]
    dsimp only
    rw [hhead.2]
    dsimp only
    rw [moment?_ofNat n hrest]
    dsimp only
    rw [number?_ofNat h hrest]
    rfl

end Toml

end AccelProbe
