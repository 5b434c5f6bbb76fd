import AccelProbe.Toml.Expression

/-!
# Steps that are given back

What holds no value takes its steps for a moment only: a scalar, a name, the blanks in an array. Whatever its form, it takes no more
than a fixed number of them, so it is never refused for its depth where that many are left.
-/

namespace AccelProbe

namespace Toml

/-- The most steps that a reader takes which gives them back. -/
def mostSteps : Nat := 9

/-- No escape takes more steps than a code point in a text over several lines. -/
theorem escapeSteps_le (long : Bool) (cs : List Char) : escapeSteps long cs ≤ 4 := by
  fun_induction escapeSteps long cs with
  | case1 => exact Nat.zero_le 4
  | case2 c rest ih =>
    refine Nat.max_le.mpr ⟨?_, ih⟩
    split <;> split <;> decide
  | case3 => exact Nat.zero_le 4
  | case4 c rest _ _ ih => exact ih

theorem textSteps_le (cs : List Char) : textSteps cs ≤ 8 := by
  unfold textSteps
  split
  · exact Nat.add_le_add_left (escapeSteps_le true _) 4
  · exact Nat.add_le_add_left (escapeSteps_le false _) 4
  · decide

theorem momentSteps_le (cs : List Char) : momentSteps cs ≤ 5 := by
  unfold momentSteps
  split
  · split <;> decide
  · decide

theorem scalarSteps_le (cs : List Char) : scalarSteps cs ≤ mostSteps := by
  unfold scalarSteps
  split
  · exact Nat.le_succ_of_le (textSteps_le cs)
  · split
    · decide
    · split
      · exact Nat.le_trans (momentSteps_le cs) (by decide)
      · unfold numberSteps
        split <;> decide

theorem nameSteps_le (cs : List Char) : nameSteps cs ≤ mostSteps := by
  unfold nameSteps
  split
  · exact Nat.add_le_add_left (escapeSteps_le false _) 5
  · decide
  · decide

theorem fillerSteps_le (cs : List Char) : fillerSteps cs ≤ mostSteps := by
  unfold fillerSteps
  split <;> decide

/-- Steps that are left can be taken for a moment. -/
theorem afford_of_le {steps store : Nat} (h : steps ≤ store) : afford steps store = .ok () := if_pos h

/-- The filler in an array is passed over as elsewhere, or refused for its depth. -/
theorem passFiller_cases (store : Nat) (cs : List Char) :
    passFiller store cs = skipFiller false cs ∨ passFiller store cs = .error .tooDeep := by
  unfold passFiller afford
  split
  · exact Or.inl rfl
  · exact Or.inr rfl

section

variable {store : Nat} (h : mostSteps ≤ store)

include h

/-- With so many steps left, no scalar is refused for its depth. -/
theorem afford_scalarSteps (cs : List Char) : afford (scalarSteps cs) store = .ok () :=
  afford_of_le (Nat.le_trans (scalarSteps_le cs) h)

/-- So it is with a name. -/
theorem afford_nameSteps (cs : List Char) : afford (nameSteps cs) store = .ok () :=
  afford_of_le (Nat.le_trans (nameSteps_le cs) h)

/-- So it is with what stands between the items of an array. -/
theorem passFiller_eq (cs : List Char) : passFiller store cs = skipFiller false cs := by
  rw [passFiller, afford_of_le (Nat.le_trans (fillerSteps_le cs) h)]
  rfl

end

end Toml

end AccelProbe
