import AccelProbe.Proofs.Decimal.Rounding
import AccelProbe.Proofs.Report.Compute

/-!
# The statistics on the screen

What a compute report says of a statistic is the nearest decimal of four places. So it is off by a twenty-thousandth at most, and of any
two statistics the greater one is not the smaller one on the screen.
-/

namespace AccelProbe

namespace ComputeReport

namespace Contents

/-- The exact value of the statistic at an index, if there is one and it is finite. -/
def statistic? (c : Contents) (i : ℕ) : Option ℚ := c.statistics[i]?.bind fun entry => entry.2.rational?

/-- The decimal in which a line ends. -/
def decimal? (line : String) : Option Numeral.Parts := Numeral.parts? (Text.lastWord line.toList)

/-- A statistic with an exact value is a finite double. -/
theorem exists_of_statistic? {c : Contents} {i : ℕ} {u : ℚ} (h : c.statistic? i = some u) :
    ∃ entry, c.statistics[i]? = some entry ∧ entry.2.rational? = some u := Option.bind_eq_some_iff.mp h

/-- The line of a statistic stands behind those of the shapes, in the order of the statistics. -/
theorem getElem?_lines {c : Contents} {i : ℕ} {entry : String × Double} (h : c.statistics[i]? = some entry) :
    c.lines[i + 3]? = some (statisticText entry) := by
  have hi : i < (c.statistics.map statisticText).length := by
    rw [List.length_map]
    exact (List.getElem?_eq_some_iff.mp h).1
  change (c.statistics.map statisticText ++ _)[i]? = _
  rw [List.getElem?_append_left hi, List.getElem?_map, h]
  rfl

/-- The last word of the line of a statistic is its value as it is written. -/
theorem lastWord_statisticText (entry : String × Double) :
    Text.lastWord (statisticText entry).toList = (Fixed.text places entry.2).toList := by
  rw [statisticText, Text.toList_line_word, Text.lastWord_append (Fixed.blank_not_mem_text places entry.2)]

/-- The line of every finite statistic ends in a decimal of four places that is nearest to the exact value of the statistic, and so is off
by a twenty-thousandth at most. Of any two finite statistics, of one report or of two, the decimals stand in the order of the exact
values. -/
theorem statistics_faithful (c : Contents) :
    ((∃ lines, c.report.lines = .ok lines) ↔ c.fits = true) ∧
      (∀ lines i u, c.report.lines = .ok lines → c.statistic? i = some u →
        ∃ line p, lines[i + 3]? = some line ∧ Fixed.Rounds 4 u (Text.lastWord line.toList) p) ∧
      ∀ lines (c' : Contents) lines' i j u v, c.report.lines = .ok lines → c'.report.lines = .ok lines' →
        c.statistic? i = some u → c'.statistic? j = some v → u ≤ v →
          ∃ line line' p q, lines[i + 3]? = some line ∧ lines'[j + 3]? = some line' ∧ decimal? line = some p ∧
            decimal? line' = some q ∧ p.value ≤ q.value := by
  refine ⟨exists_lines_report_iff c, ?_, ?_⟩
  · intro lines i u h hi
    obtain ⟨entry, hentry, hu⟩ := exists_of_statistic? hi
    obtain ⟨p, hp⟩ := Fixed.rounds_text (show 0 < places by decide) hu
    refine ⟨statisticText entry, p, lines_of_lines_report h ▸ getElem?_lines hentry, ?_⟩
    rw [lastWord_statisticText]
    exact hp
  · intro lines c' lines' i j u v h h' hi hj huv
    obtain ⟨entry, hentry, hu⟩ := exists_of_statistic? hi
    obtain ⟨entry', hentry', hv⟩ := exists_of_statistic? hj
    obtain ⟨p, hp⟩ := Fixed.rounds_text (show 0 < places by decide) hu
    obtain ⟨q, hq⟩ := Fixed.rounds_text (show 0 < places by decide) hv
    refine ⟨statisticText entry, statisticText entry', p, q, lines_of_lines_report h ▸ getElem?_lines hentry,
      lines_of_lines_report h' ▸ getElem?_lines hentry', ?_, ?_, Fixed.value_le_value (by decide) hu hv huv hp.read hq.read⟩
    · rw [decimal?, lastWord_statisticText]
      exact hp.read
    · rw [decimal?, lastWord_statisticText]
      exact hq.read

/-- Contents of statistics that lie halfway between two decimals of four places. -/
def halfway : Contents where
  accelerator := "CUDA"
  deviceIndex := 0
  inputShape := [2, 3]
  resultShape := [3, 3]
  statistics := [("Mean", .finite false 1 (-5)), ("Max", .finite false 1 900), ("Min", .finite true 3 (-5))]

/-- They have lines, and the least of them stands before the mean on the screen. -/
theorem statistics_faithful_halfway :
    ∃ lines, halfway.report.lines = .ok lines ∧
      (∃ line p, lines[3]? = some line ∧ Fixed.Rounds 4 (1 / 32) (Text.lastWord line.toList) p) ∧
      ∃ line line' p q, lines[5]? = some line ∧ lines[3]? = some line' ∧ decimal? line = some p ∧ decimal? line' = some q ∧
        p.value ≤ q.value := by
  have hmean : halfway.statistic? 0 = some (1 / 32) := congrArg some (show (1 : ℕ) * (2 : ℚ) ^ (-5 : ℤ) = 1 / 32 by norm_num)
  have hleast : halfway.statistic? 2 = some (-(3 / 32)) :=
    congrArg some (show -((3 : ℕ) * (2 : ℚ) ^ (-5 : ℤ)) = -(3 / 32) by norm_num)
  obtain ⟨hlines, hrounds, horder⟩ := statistics_faithful halfway
  obtain ⟨lines, h⟩ := hlines.mpr (by decide)
  exact ⟨lines, h, hrounds lines 0 _ h hmean, horder lines halfway lines 2 0 _ _ h h hleast hmean (by norm_num)⟩

end Contents

end ComputeReport

end AccelProbe
