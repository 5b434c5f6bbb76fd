import AccelProbe.Proofs.Basic
import AccelProbe.Proofs.Decimal.Fixed
import AccelProbe.Proofs.Text.Division
import AccelProbe.Report.Compute
import AccelProbe.Value.Writing

/-!
# Telling compute reports apart

The lines of a compute report tell what was computed. The name of the accelerator stands alone in the last line, so it can be told from
the line of the multiplication, whatever words are in it. Sizes have no blank and no sign of multiplication in them. The value of a
statistic is the last word of its line, to as many places as are written.
-/

namespace AccelProbe

namespace ComputeReport

/-- What is told of a computation. -/
structure Contents where
  /-- The name of the accelerator. -/
  accelerator : String
  /-- The index of the device. -/
  deviceIndex : Int
  /-- The shape of the matrix. -/
  inputShape : List Int
  /-- The shape of the product. -/
  resultShape : List Int
  /-- The statistics of the product, in order. -/
  statistics : List (String × Double)
deriving DecidableEq

namespace Contents

/-- The report that tells this. -/
def report (c : Contents) : ComputeReport where
  accelerator := .str c.accelerator
  deviceIndex := .int c.deviceIndex
  inputShape := .tuple (c.inputShape.map .int)
  resultShape := .tuple (c.resultShape.map .int)
  statistics := .dictionary (c.statistics.map fun entry => (entry.1, .float entry.2))

/-- Whether no integer is too long to be written. -/
def fits (c : Contents) : Bool := c.inputShape.all Digits.fits && Digits.fits c.deviceIndex && c.resultShape.all Digits.fits

/-! ## The lines -/

/-- Sizes as they are written. -/
def sizesText (sizes : List Int) : String := String.intercalate "x" (sizes.map intText)

/-- The line of the multiplication. -/
def multiplicationText (c : Contents) : String :=
  "Matrix Multiplication: " ++ sizesText c.inputShape ++ " on " ++ c.accelerator ++ " device " ++ intText c.deviceIndex

/-- The line of a statistic. -/
def statisticText (entry : String × Double) : String := entry.1 ++ ": " ++ Fixed.text places entry.2

/-- All lines of the report. -/
def lines (c : Contents) : List String :=
  [heading, c.multiplicationText, "Result Shape: " ++ sizesText c.resultShape] ++ c.statistics.map statisticText ++
    [c.accelerator ++ " compute check passed!"]

/-- Sizes can be written where none of them is too long. -/
theorem toDimensions_of_fits {sizes : List Int} (h : sizes.all Digits.fits = true) :
    Value.toDimensions (sizes.map .int) = .ok (sizesText sizes) := by
  have htexts : (sizes.map Value.int).mapM Value.toText = .ok (sizes.map intText) := by
    rw [List.mapM_map]
    exact mapM_eq_ok_map fun n hm => Value.toText_int_of_fits (List.all_eq_true.mp h n hm)
  rw [Value.toDimensions, htexts]
  rfl

/-- An integer that was written is not too long. -/
theorem fits_of_toText {n : Int} {text : String} (h : (Value.int n).toText = .ok text) : Digits.fits n = true :=
  (Value.isWritable_int n).symm.trans (Value.toText_eq_ok_iff.mp h).1

/-- Sizes that were written are not too long. -/
theorem fits_of_toDimensions {sizes : List Int} {text : String} (h : Value.toDimensions (sizes.map .int) = .ok text) :
    sizes.all Digits.fits = true := by
  obtain ⟨texts, htexts, -⟩ := exists_of_map_eq_ok h
  rw [List.mapM_map] at htexts
  refine List.all_eq_true.mpr fun n hm => ?_
  obtain ⟨written, hwritten⟩ := exists_of_mapM_eq_ok htexts n hm
  exact fits_of_toText hwritten

/-- The lines of a report of which every integer can be written. -/
theorem lines_report_of_fits (c : Contents) (h : c.fits = true) : c.report.lines = .ok c.lines := by
  obtain ⟨h, hresult⟩ := Bool.and_eq_true_iff.mp h
  obtain ⟨hinput, hindex⟩ := Bool.and_eq_true_iff.mp h
  have hstatistics : (c.statistics.map fun entry => (entry.1, Value.float entry.2)).mapM statisticLine =
      .ok (c.statistics.map statisticText) := by
    rw [List.mapM_map]
    exact mapM_eq_ok_map fun entry _ => rfl
  simp only [ComputeReport.lines, report, Value.items, Value.entries, multiplicationLine, resultLine, passedLine, Bind.bind,
    Except.bind, toDimensions_of_fits hinput, toDimensions_of_fits hresult, Value.toText_int_of_fits hindex, Value.toText_str,
    hstatistics]
  rfl

/-- A report that has lines is one of which every integer can be written. -/
theorem fits_of_lines_report {c : Contents} {lines : List String} (h : c.report.lines = .ok lines) : c.fits = true := by
  obtain ⟨input, hinput, h⟩ := exists_of_bind_eq_ok h
  obtain ⟨multiplication, hmultiplication, h⟩ := exists_of_bind_eq_ok h
  obtain ⟨sizes, hsizes, h⟩ := exists_of_bind_eq_ok h
  obtain ⟨result, hresult, -⟩ := exists_of_bind_eq_ok h
  cases hinput
  cases hsizes
  obtain ⟨shape, hshape, hmultiplication⟩ := exists_of_bind_eq_ok hmultiplication
  obtain ⟨_, -, hmultiplication⟩ := exists_of_bind_eq_ok hmultiplication
  obtain ⟨index, hindex, -⟩ := exists_of_bind_eq_ok hmultiplication
  obtain ⟨product, hproduct, -⟩ := exists_of_map_eq_ok hresult
  rw [fits, fits_of_toDimensions hshape, fits_of_toText hindex, fits_of_toDimensions hproduct]
  rfl

/-- A report has lines exactly where every integer can be written. -/
theorem exists_lines_report_iff (c : Contents) : (∃ lines, c.report.lines = .ok lines) ↔ c.fits = true :=
  ⟨fun ⟨_, h⟩ => fits_of_lines_report h, fun h => ⟨c.lines, lines_report_of_fits c h⟩⟩

/-- The lines of a report are these, wherever there are any. -/
theorem lines_of_lines_report {c : Contents} {lines : List String} (h : c.report.lines = .ok lines) : c.lines = lines :=
  Except.ok.inj ((lines_report_of_fits c (fits_of_lines_report h)).symm.trans h)

/-! ## Telling them apart -/

/-- The characters of sizes as they are written. -/
theorem toList_sizesText (sizes : List Int) : (sizesText sizes).toList = ['x'].intercalate (sizes.map Digits.ofInt) := by
  have hpieces : (sizes.map intText).map String.toList = sizes.map Digits.ofInt := by
    rw [List.map_map]
    exact List.map_congr_left fun n _ => String.toList_ofList
  rw [sizesText, String.toList_intercalate, hpieces]
  rfl

/-- Sizes are written without a blank. -/
theorem blank_not_mem_sizesText (sizes : List Int) : ' ' ∉ (sizesText sizes).toList := by
  rw [toList_sizesText]
  refine not_mem_intercalate (by decide) ?_
  intro piece hm hc
  obtain ⟨n, -, rfl⟩ := List.mem_map.mp hm
  exact Digits.forall_mem_ofInt (p := (· ≠ ' ')) (by decide) (by decide) n _ hc rfl

/-- Sizes are told from the way they are written, and so is how many there are. -/
theorem sizesText_inj {sizes sizes' : List Int} (h : sizesText sizes = sizesText sizes') : sizes = sizes' := by
  have hpieces : ∀ ns : List Int, ∀ piece ∈ ns.map Digits.ofInt, 'x' ∉ piece ∧ piece ≠ [] := by
    intro ns piece hm
    obtain ⟨n, -, rfl⟩ := List.mem_map.mp hm
    exact ⟨fun hc => Digits.forall_mem_ofInt (p := (· ≠ 'x')) (by decide) (by decide) n _ hc rfl, Digits.ofInt_ne_nil n⟩
  have hdigits : sizes.map Digits.ofInt = sizes'.map Digits.ofInt := by
    rw [← filter_splitOn_intercalate (hpieces sizes), ← toList_sizesText, h, toList_sizesText,
      filter_splitOn_intercalate (hpieces sizes')]
  exact (List.map_inj_right fun _ _ => Digits.ofInt_inj).mp hdigits

/-- The characters of the line of a multiplication: the shape ends where a blank stands first behind the label. -/
theorem toList_multiplicationText (c : Contents) :
    c.multiplicationText.toList = "Matrix Multiplication: ".toList ++ ((sizesText c.inputShape).toList ++
      ' ' :: (("on " ++ c.accelerator ++ " device ").toList ++ (intText c.deviceIndex).toList)) := by
  have hon : " on ".toList = ' ' :: "on ".toList := rfl
  unfold multiplicationText
  simp only [String.toList_append, List.append_assoc, hon, List.cons_append]

/-- The shape and the index are told from the line of the multiplication, where the accelerator is known. -/
theorem multiplicationText_inj {c c' : Contents} (haccelerator : c.accelerator = c'.accelerator)
    (h : c.multiplicationText = c'.multiplicationText) : c.inputShape = c'.inputShape ∧ c.deviceIndex = c'.deviceIndex := by
  have hchars := congrArg String.toList h
  rw [toList_multiplicationText, toList_multiplicationText] at hchars
  obtain ⟨hshape, hplace⟩ :=
    eq_of_append_cons_eq (blank_not_mem_sizesText _) (blank_not_mem_sizesText _) (List.append_cancel_left hchars)
  rw [haccelerator] at hplace
  exact ⟨sizesText_inj (String.toList_inj.mp hshape), intText_inj (String.toList_inj.mp (List.append_cancel_left hplace))⟩

/-- The name of a statistic and what is written of its value are told from its line. -/
theorem statisticText_inj {entry entry' : String × Double} (h : statisticText entry = statisticText entry') :
    (entry.1, Fixed.text places entry.2) = (entry'.1, Fixed.text places entry'.2) := by
  obtain ⟨hname, hvalue⟩ := Text.eq_of_line_eq (Fixed.blank_not_mem_text places _) (Fixed.blank_not_mem_text places _) h
  exact Prod.ext hname hvalue

/-- The lines of a report tell what was computed, in whatever words the accelerator and the statistics are named: its device, its shapes,
and its statistics in order as they are written. A report has lines where none of its integers is too long. -/
theorem lines_determine (c : Contents) :
    ((∃ lines, c.report.lines = .ok lines) ↔ c.fits = true) ∧
      ∀ (c' : Contents) lines, c.report.lines = .ok lines → c'.report.lines = .ok lines →
        c.accelerator = c'.accelerator ∧ c.deviceIndex = c'.deviceIndex ∧ c.inputShape = c'.inputShape ∧
          c.resultShape = c'.resultShape ∧
          c.statistics.map (fun entry => (entry.1, Fixed.text places entry.2)) =
            c'.statistics.map fun entry => (entry.1, Fixed.text places entry.2) := by
  refine ⟨exists_lines_report_iff c, ?_⟩
  intro c' lines h h'
  have heq : c.lines = c'.lines := (lines_of_lines_report h).trans (lines_of_lines_report h').symm
  obtain ⟨hfront, hpassed⟩ := List.append_singleton_inj.mp heq
  have haccelerator : c.accelerator = c'.accelerator := (String.append_left_inj _).mp hpassed
  obtain ⟨hmultiplication, hfront⟩ := List.cons.inj (List.cons.inj hfront).2
  obtain ⟨hresult, hstatistics⟩ := List.cons.inj hfront
  obtain ⟨hinput, hindex⟩ := multiplicationText_inj haccelerator hmultiplication
  have hproduct : c.resultShape = c'.resultShape := sizesText_inj ((String.append_right_inj _).mp hresult)
  exact ⟨haccelerator, hindex, hinput, hproduct, map_eq_map_of_imp (fun _ _ => statisticText_inj) hstatistics⟩

/-- Contents of an accelerator with the words of its line in its name, of a matrix without sizes, and of one statistic. -/
def wordy (mean : Double) : Contents where
  accelerator := "GPU on 2x3 device 7"
  deviceIndex := -1
  inputShape := []
  resultShape := [-2, 0, 15]
  statistics := [("Mean: ", mean), ("", .nan)]

/-- A half. -/
def half : Double := .finite false 1 (-1)

/-- The double behind it. -/
def afterHalf : Double := .finite false 4503599627370497 (-53)

/-- Two means that are written alike leave the same lines, from which the shapes are told, and the means as they are written. -/
theorem lines_determine_wordy :
    ∃ lines, (wordy half).report.lines = .ok lines ∧ (wordy afterHalf).report.lines = .ok lines ∧
      (wordy half).resultShape = (wordy afterHalf).resultShape ∧
      (wordy half).statistics.map (fun entry => (entry.1, Fixed.text places entry.2)) =
        (wordy afterHalf).statistics.map fun entry => (entry.1, Fixed.text places entry.2) := by
  have hunits : Fixed.units places 1 (-1) = Fixed.units places 4503599627370497 (-53) := by decide
  have htext : Fixed.text places half = Fixed.text places afterHalf :=
    congrArg (fun n => String.ofList (Fixed.sign false ++ Fixed.pointed places n)) hunits
  have halike : (wordy half).lines = (wordy afterHalf).lines := by
    simp only [lines, wordy, List.map_cons, statisticText, htext]
    rfl
  have h := lines_report_of_fits (wordy half) (by decide)
  have h' := lines_report_of_fits (wordy afterHalf) (by decide)
  obtain ⟨-, -, -, hresult, hstatistics⟩ := (lines_determine (wordy half)).2 _ _ h (halike ▸ h')
  exact ⟨_, h, halike ▸ h', hresult, hstatistics⟩

end Contents

end ComputeReport

end AccelProbe
