import AccelProbe.Logging.State

/-!
# Names of loggers

The points in the name of a logger tell which loggers lie above it. The search for them passes over the character before a point
that it found, so of two points in a row it sees the last one only. A name above another one is found unless two points stand right
behind it; two points further on hide only what stands between it and them.
-/

namespace AccelProbe

namespace LoggerTree

/-- Whether a name stands before a point of another one. -/
def IsAbove (a c : String) : Prop := a.toList ++ ['.'] <+: c.toList

instance (a c : String) : Decidable (IsAbove a c) := inferInstanceAs (Decidable (_ <+: _))

/-- Whether two points stand right behind a name in another one. -/
def IsDetached (a c : String) : Prop := a.toList ++ ['.', '.'] <+: c.toList

instance (a c : String) : Decidable (IsDetached a c) := inferInstanceAs (Decidable (_ <+: _))

namespace IsAbove

variable {a b c : String}

theorem isPrefix (h : IsAbove a c) : a.toList <+: c.toList := (List.prefix_append _ _).trans h

theorem length_lt (h : IsAbove a c) : a.length < c.length := by
  have hl : (a.toList ++ ['.']).length ≤ c.toList.length := List.IsPrefix.length_le h
  rw [List.length_append, List.length_singleton, String.length_toList, String.length_toList] at hl
  omega

theorem trans (h : IsAbove a b) (h' : IsAbove b c) : IsAbove a c := List.IsPrefix.trans h h'.isPrefix

/-- Of two names above a name, the shorter one is above the other. -/
theorem of_length_lt (ha : IsAbove a c) (hb : IsAbove b c) (hl : a.length < b.length) : IsAbove a b := by
  have hlen : (a.toList ++ ['.']).length ≤ b.toList.length := by
    rw [List.length_append, List.length_singleton, String.length_toList, String.length_toList]
    omega
  exact List.prefix_of_prefix_length_le ha hb.isPrefix hlen

/-- Of two names above a name, one that does not begin the other lies below it. -/
theorem of_not_isPrefix (ha : IsAbove a c) (hb : IsAbove b c) (hn : ¬ b.toList <+: a.toList) : IsAbove a b := by
  rcases Nat.lt_or_ge a.length b.length with hl | hl
  · exact of_length_lt ha hb hl
  · have hle : b.toList.length ≤ a.toList.length := by
      rw [String.length_toList, String.length_toList]
      exact hl
    exact absurd (List.prefix_of_prefix_length_le hb.isPrefix ha.isPrefix hle) hn

/-- Of two names above a name, one that begins the other is the same or lies above it. -/
theorem eq_or_of_isPrefix (ha : IsAbove a c) (hb : IsAbove b c) (hp : a.toList <+: b.toList) : a = b ∨ IsAbove a b := by
  rcases Nat.lt_or_ge a.length b.length with hl | hl
  · exact Or.inr (of_length_lt ha hb hl)
  · have hle : b.toList.length ≤ a.toList.length := by
      rw [String.length_toList, String.length_toList]
      exact hl
    exact Or.inl (String.toList_inj.mp (hp.eq_of_length_le hle))

end IsAbove

/-- The points behind a name stand in all that is below. -/
theorem IsDetached.of_isAbove {a b c : String} (h : IsDetached a b) (h' : IsAbove b c) : IsDetached a c :=
  List.IsPrefix.trans h h'.isPrefix

/-- A name with two points behind it in another one is above that one. -/
theorem IsDetached.isAbove {a c : String} (h : IsDetached a c) : IsAbove a c :=
  (List.prefix_append_right_inj a.toList).mpr ⟨['.'], rfl⟩ |>.trans h

/-! ## The search for the names above a name -/

/-- What the search finds stands before a point, and is not empty. -/
theorem mem_above {passOver : Bool} {l x : List Char} (hx : x ∈ above passOver l) :
    x ≠ [] ∧ ∃ rest, l.reverse = x ++ '.' :: rest := by
  induction l generalizing passOver with
  | nil => exact absurd hx List.not_mem_nil
  | cons c l ih =>
    have hmore : ∀ {passOver : Bool}, x ∈ above passOver l → x ≠ [] ∧ ∃ rest, (c :: l).reverse = x ++ '.' :: rest := by
      intro passOver hx
      obtain ⟨hne, rest, hl⟩ := ih hx
      refine ⟨hne, rest ++ [c], ?_⟩
      rw [List.reverse_cons, hl, List.append_assoc, List.cons_append]
    rw [above] at hx
    by_cases hc : (decide (c = '.') && !passOver) = true
    · rw [if_pos hc] at hx
      have hpoint : c = '.' := by
        rw [Bool.and_eq_true, decide_eq_true_eq] at hc
        exact hc.1
      by_cases hl : l.isEmpty = true
      · rw [if_pos hl] at hx
        exact absurd hx List.not_mem_nil
      · rw [if_neg hl] at hx
        rcases List.mem_cons.mp hx with rfl | hx
        · refine ⟨by simpa using hl, [], ?_⟩
          rw [List.reverse_cons, hpoint]
        · exact hmore hx
    · rw [if_neg hc] at hx
      exact hmore hx

/-- What the search finds gets shorter and shorter. -/
theorem pairwise_above (passOver : Bool) (l : List Char) : (above passOver l).Pairwise fun x y => y.length < x.length := by
  induction l generalizing passOver with
  | nil => exact List.Pairwise.nil
  | cons c l ih =>
    rw [above]
    by_cases hc : (decide (c = '.') && !passOver) = true
    · rw [if_pos hc]
      by_cases hl : l.isEmpty = true
      · rw [if_pos hl]
        exact List.Pairwise.nil
      · rw [if_neg hl]
        refine List.Pairwise.cons ?_ (ih true)
        intro y hy
        obtain ⟨-, rest, hl⟩ := mem_above hy
        rw [hl, List.length_append, List.length_cons]
        omega
    · rw [if_neg hc]
      exact ih false

/-- A character that stands in a list taken in reverse is the first of the list, or stands in the rest taken in reverse. -/
theorem reverse_cons_eq_append {c p : Char} {l x rest : List Char} (hl : (c :: l).reverse = x ++ p :: rest) :
    (c = p ∧ rest = [] ∧ l.reverse = x) ∨ ∃ rest', rest = rest' ++ [c] ∧ l.reverse = x ++ p :: rest' := by
  rw [List.reverse_cons] at hl
  rcases List.eq_nil_or_concat rest with rfl | ⟨rest', last, rfl⟩
  · obtain ⟨hrev, hc⟩ := List.append_inj' hl rfl
    exact Or.inl ⟨(List.cons.inj hc).1, rfl, hrev⟩
  · rw [List.concat_eq_append, ← List.cons_append, ← List.append_assoc] at hl
    obtain ⟨hrev, hc⟩ := List.append_inj' hl rfl
    rw [List.concat_eq_append, (List.cons.inj hc).1]
    exact Or.inr ⟨rest', rfl, hrev⟩

/-- The search finds what stands before a point that no other point follows, as long as it does not begin at that point when it has
to pass over a character. -/
theorem mem_above_of_reverse {passOver : Bool} {l x rest : List Char} (hpoint : rest.head? ≠ some '.')
    (hpass : passOver = true → rest ≠ []) (hx : x ≠ []) (hl : l.reverse = x ++ '.' :: rest) : x ∈ above passOver l := by
  induction l generalizing passOver rest with
  | nil => simp at hl
  | cons c l ih =>
    -- what stands before a point is not empty, so the search does not end here
    have hne : l.isEmpty ≠ true := by
      intro he
      rcases reverse_cons_eq_append hl with ⟨-, -, hrev⟩ | ⟨rest', -, hl'⟩
      · rw [List.isEmpty_iff.mp he] at hrev
        exact hx hrev.symm
      · rw [List.isEmpty_iff.mp he] at hl'
        simp at hl'
    rw [above]
    rcases reverse_cons_eq_append hl with ⟨rfl, hrest, hrev⟩ | ⟨rest', rfl, hl'⟩
    · -- the point that was looked for is the first character
      have hpass' : passOver = false := Bool.eq_false_iff.mpr fun h => hpass h hrest
      rw [if_pos (by simp [hpass']), if_neg hne, hrev]
      exact List.mem_cons_self
    · have hpoint' : rest'.head? ≠ some '.' := by
        intro hh
        obtain ⟨more, rfl⟩ := List.head?_eq_some_iff.mp hh
        exact hpoint rfl
      by_cases hc : (decide (c = '.') && !passOver) = true
      · obtain rfl : c = '.' := by
          rw [Bool.and_eq_true, decide_eq_true_eq] at hc
          exact hc.1
        -- the character that is passed over is not the point that was looked for: that one is followed by no other
        have hrest : rest' ≠ [] := by
          rintro rfl
          exact hpoint rfl
        rw [if_pos hc, if_neg hne]
        exact List.mem_cons_of_mem _ (ih hpoint' (fun _ => hrest) hl')
      · rw [if_neg hc]
        exact ih hpoint' nofun hl'

/-- The names that are looked for above a name are above it. -/
theorem isAbove_of_mem {a name : String} (h : a ∈ namesAbove name) : IsAbove a name := by
  obtain ⟨x, hx, rfl⟩ := List.mem_map.mp h
  obtain ⟨-, rest, hl⟩ := mem_above hx
  rw [List.reverse_reverse] at hl
  exact ⟨rest, by rw [String.toList_ofList, hl, List.append_assoc, List.singleton_append]⟩

/-- Of the names that are looked for above a name, a later one is above an earlier one. -/
theorem isAbove_of_later {name p a : String} {front back : List String} (h : namesAbove name = front ++ p :: back)
    (ha : a ∈ back) : IsAbove a p := by
  have hp : IsAbove p name := isAbove_of_mem (by rw [h]; simp)
  have ha' : IsAbove a name := isAbove_of_mem (by rw [h]; simp [ha])
  have hpair : (namesAbove name).Pairwise fun x y => y.length < x.length := by
    rw [namesAbove, List.pairwise_map]
    refine (pairwise_above _ _).imp ?_
    intro x y hxy
    rw [← String.length_toList, ← String.length_toList, String.toList_ofList, String.toList_ofList]
    exact hxy
  rw [h, List.pairwise_append, List.pairwise_cons] at hpair
  exact ha'.of_length_lt hp (hpair.2.1.1 a ha)

/-- All that is above a name is looked for, unless two points stand right behind it. -/
theorem mem_namesAbove {a name : String} (hne : a ≠ "") (h : IsAbove a name) (hd : ¬ IsDetached a name) : a ∈ namesAbove name := by
  obtain ⟨rest, hl⟩ := h
  refine List.mem_map.mpr ⟨a.toList, ?_, String.ofList_toList⟩
  have hrev : name.toList.reverse.reverse = a.toList ++ '.' :: rest := by
    rw [List.reverse_reverse, ← hl, List.append_assoc, List.singleton_append]
  refine mem_above_of_reverse ?_ nofun ?_ hrev
  · intro hh
    obtain ⟨more, rfl⟩ := List.head?_eq_some_iff.mp hh
    exact hd ⟨more, by rw [← hl, List.append_assoc, List.append_assoc]; rfl⟩
  · intro he
    exact hne (String.toList_inj.mp he)

end LoggerTree

namespace Logging

/-- Whether a logger is one of TensorFlow's: its name is that of one of its loggers, or below such a name. -/
def OfTensorFlow (name : String) : Prop := ∃ head ∈ tensorflowLoggers, name = head ∨ LoggerTree.IsAbove head name

instance (name : String) : Decidable (OfTensorFlow name) := List.decidableBEx _ _

/-- What is below a logger of TensorFlow is one of its loggers. -/
theorem OfTensorFlow.of_isAbove {a c : String} (ha : OfTensorFlow a) (h : LoggerTree.IsAbove a c) : OfTensorFlow c := by
  obtain ⟨head, hm, rfl | hh⟩ := ha
  · exact ⟨a, hm, Or.inr h⟩
  · exact ⟨head, hm, Or.inr (hh.trans h)⟩

/-- Whether the search finds the loggers of TensorFlow above a logger, from wherever below them it sets out: no two points stand right
behind one of their names. -/
def IsPlain (name : String) : Prop := ∀ head ∈ tensorflowLoggers, ¬ LoggerTree.IsDetached head name

instance (name : String) : Decidable (IsPlain name) := List.decidableBAll _ _

/-- A logger of others is none that the search could miss. -/
theorem isPlain_of_others {name : String} (h : ¬ OfTensorFlow name) : IsPlain name :=
  fun head hm hd => h ⟨head, hm, Or.inr hd.isAbove⟩

/-- TensorFlow's loggers are none of the root's. -/
theorem OfTensorFlow.ne_root {name : String} (h : OfTensorFlow name) : loggerName name ≠ LoggerTree.rootName := by
  intro hr
  unfold loggerName at hr
  split at hr
  · next he =>
    obtain rfl : name = "" := String.isEmpty_iff.mp he
    exact absurd h (by decide)
  · rw [hr] at h
    exact absurd h (by decide)

end Logging

end AccelProbe
