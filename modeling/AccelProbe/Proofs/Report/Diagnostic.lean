import AccelProbe.Proofs.Decimal.Integers
import AccelProbe.Proofs.Session.Sequence
import AccelProbe.Proofs.Text.Division
import AccelProbe.Report.Diagnostic

/-!
# Reading a diagnostic report back

The printed lines of a diagnostic report can be read back. The first three are divided at their marks; the version may have marks of its
own, which stand behind the first one. All that follows the confirmation is the printed tensor, whatever lines it has. So a report is
told from any other by what is printed of it, where anything is printed: a count of devices that is too long has no text.
-/

namespace AccelProbe

namespace DiagnosticReport

/-- What the lines of a report tell. -/
structure Contents where
  /-- The name of the library. -/
  library : String
  /-- The name of the accelerator. -/
  accelerator : String
  /-- The version of the library. -/
  version : String
  /-- Whether an accelerator can be used. -/
  available : Bool
  /-- The number of devices. -/
  deviceCount : Int
  /-- What the allocated tensor prints as, if there is one. -/
  tensorText : Option String
deriving DecidableEq

namespace Contents

open Session (textOf)

/-- The report that tells this, of any tensor. -/
def report (c : Contents) (tensor : Value) : DiagnosticReport where
  library := .str c.library
  accelerator := .str c.accelerator
  version := .str c.version
  available := .bool c.available
  deviceCount := .int c.deviceCount
  tensor := tensor
  tensorText := c.tensorText.elim .null .str

/-- A name with neither a newline nor a colon in it. -/
def Nameable (name : String) : Prop := '\n' ∉ name.toList ∧ ':' ∉ name.toList

instance (name : String) : Decidable (Nameable name) := inferInstanceAs (Decidable (_ ∧ _))

/-- Contents of which each name can be found in its line, and which have a version of one line. -/
structure Legible (c : Contents) : Prop where
  /-- The name of the library can be found. -/
  library : Nameable c.library
  /-- The name of the accelerator can be found. -/
  accelerator : Nameable c.accelerator
  /-- The version is one line. -/
  version : '\n' ∉ c.version.toList

/-! ## What is printed -/

/-- A line of a report: a name, a label, and what the line says under it. -/
def labeled (name label said : String) : String := name ++ (label ++ ": ") ++ said

/-- The lines that always stand. -/
def openingLines (c : Contents) : List String :=
  [labeled c.library " Version" c.version, labeled c.accelerator " Available" (flagText (.bool c.available)),
    labeled c.accelerator " Device Count" (intText c.deviceCount)]

/-- The confirmation and the printed tensor, where there is one. -/
def closingLines (c : Contents) : List String :=
  match c.tensorText with
  | none => []
  | some text => ["Created " ++ c.accelerator ++ " tensor successfully!", text]

/-- The lines of a report, where its count can be written. -/
theorem lines_report_of_fits (c : Contents) (tensor : Value) (h : Digits.fits c.deviceCount = true) :
    (c.report tensor).lines = .ok ((c.openingLines ++ c.closingLines).map .str) := by
  have hcount : (c.report tensor).deviceCountLine = .ok (labeled c.accelerator " Device Count" (intText c.deviceCount)) := by
    rw [deviceCountLine]
    simp only [report, Value.toText_str, Value.toText_int_of_fits h]
    rfl
  rw [lines, hcount, versionLine, availabilityLine, confirmationLine, closingLines]
  simp only [report, Value.toText_str]
  cases c.tensorText <;> rfl

/-- There are none where the count is too long. -/
theorem lines_report_of_not_fits (c : Contents) (tensor : Value) (h : Digits.fits c.deviceCount = false) :
    (c.report tensor).lines = .error .integerTooLong := by
  have hcount : (c.report tensor).deviceCountLine = .error .integerTooLong := by
    rw [deviceCountLine]
    simp only [report, Value.toText_str, Value.toText_int_of_not_fits h]
    rfl
  rw [lines, hcount, versionLine, availabilityLine]
  simp only [report, Value.toText_str]
  rfl

/-! ## Reading it back -/

/-- A line under a label as the name before the label, and what the line says. -/
def divided? (label : String) (cs : List Char) : Option (String × String) :=
  (Text.divide? cs).map fun parts =>
    (String.ofList (parts.1.take (parts.1.length - label.toList.length)), String.ofList parts.2)

/-- The printed tensor: all lines behind the confirmation. -/
def tensorText? : List (List Char) → Option String
  | [] => none
  | _ :: printed => some (String.ofList (['\n'].intercalate printed))

/-- What the lines of a report tell: each of the first three under its label, and the printed tensor behind the confirmation. -/
def ofLines? : List (List Char) → Option Contents
  | first :: second :: third :: rest => do
    let (library, version) ← divided? " Version" first
    let (accelerator, flag) ← divided? " Available" second
    let (_, count) ← divided? " Device Count" third
    let deviceCount ← Numeral.integer? count
    return { library, accelerator, version, available := flag == "true", deviceCount, tensorText := tensorText? rest }
  | _ => none

/-- What the printed text of a report tells. -/
def ofText? (text : String) : Option Contents := ofLines? (Text.lines text.toList)

/-- A line is read under its label, where neither the name nor the label has a colon. -/
theorem divided?_labeled {name label : String} (hname : ':' ∉ name.toList) (hlabel : ':' ∉ label.toList) (said : String) :
    divided? label (labeled name label said).toList = some (name, said) := by
  have hfront : ':' ∉ name.toList ++ label.toList := fun hm => (List.mem_append.mp hm).elim hname hlabel
  have hchars : (labeled name label said).toList = (name.toList ++ label.toList) ++ Text.mark ++ said.toList := by
    rw [labeled, String.toList_append, String.toList_append, String.toList_append, ← List.append_assoc name.toList]
    rfl
  rw [divided?, hchars, Text.divide?_append (Text.not_mark_infix hfront), Option.map_some, List.length_append, Nat.add_sub_cancel,
    List.take_left, String.ofList_toList, String.ofList_toList]

/-- A flag is read as it is written. -/
theorem flagText_beq (b : Bool) : (flagText (.bool b) == "true") = b := by
  cases b <;> rfl

/-- A labeled line is one line where its name, its label and what it says are. -/
theorem newline_not_mem_labeled {name label said : String} (hname : '\n' ∉ name.toList) (hlabel : '\n' ∉ label.toList)
    (hsaid : '\n' ∉ said.toList) : '\n' ∉ (labeled name label said).toList := by
  have hmark : '\n' ∉ ": ".toList := by decide
  rw [labeled, String.toList_append, String.toList_append, String.toList_append]
  simp only [List.mem_append, not_or]
  exact ⟨⟨hname, hlabel, hmark⟩, hsaid⟩

/-- Each of the lines that always stand is one line. -/
theorem newline_not_mem_openingLines {c : Contents} (h : c.Legible) : ∀ line ∈ c.openingLines, '\n' ∉ line.toList := by
  have hflag : '\n' ∉ (flagText (.bool c.available)).toList := by
    cases c.available <;> decide
  have hcount : '\n' ∉ (intText c.deviceCount).toList := by
    rw [intText, String.toList_ofList]
    exact fun hm => Digits.forall_mem_ofInt (p := (· ≠ '\n')) (by decide) (by decide) c.deviceCount _ hm rfl
  rw [openingLines]
  refine List.forall_mem_cons.mpr ⟨newline_not_mem_labeled h.library.1 (by decide) h.version, ?_⟩
  refine List.forall_mem_cons.mpr ⟨newline_not_mem_labeled h.accelerator.1 (by decide) hflag, ?_⟩
  exact List.forall_mem_singleton.mpr (newline_not_mem_labeled h.accelerator.1 (by decide) hcount)

/-- What the lines that always stand tell is read from them, and the rest behind them. -/
theorem ofLines?_openingLines {c : Contents} (h : c.Legible) (hfits : Digits.fits c.deviceCount = true) (rest : List (List Char)) :
    ofLines? (c.openingLines.map String.toList ++ rest) = some { c with tensorText := tensorText? rest } := by
  have hversion := divided?_labeled h.library.2 (show ':' ∉ " Version".toList by decide) c.version
  have havailable := divided?_labeled h.accelerator.2 (show ':' ∉ " Available".toList by decide) (flagText (.bool c.available))
  have hcount := divided?_labeled h.accelerator.2 (show ':' ∉ " Device Count".toList by decide) (intText c.deviceCount)
  simp only [openingLines, List.map_cons, List.map_nil, List.cons_append, List.nil_append, ofLines?, hversion, havailable, hcount,
    Option.bind_eq_bind, Option.bind_some, Numeral.integer?_intText hfits, flagText_beq]
  rfl

/-- The printed tensor is read as it is, whatever lines it has. -/
theorem tensorText?_closingLines {c : Contents} (h : '\n' ∉ c.accelerator.toList) :
    tensorText? (Text.lines (c.closingLines.flatMap fun l => l.toList ++ ['\n'])) = c.tensorText := by
  rw [closingLines]
  cases c.tensorText with
  | none => rfl
  | some text =>
    have hconfirmation : '\n' ∉ ("Created " ++ c.accelerator ++ " tensor successfully!").toList := by
      rw [String.toList_append, String.toList_append]
      simp [h]
    rw [List.flatMap_cons, List.flatMap_cons, List.flatMap_nil, List.append_nil, List.append_assoc, List.singleton_append,
      Text.lines_append_cons hconfirmation, tensorText?, Text.intercalate_lines, String.ofList_toList]

/-- The characters of several printed lines. -/
theorem toList_textOf (ls : List String) : (textOf (ls.map .str)).toList = ls.flatMap fun line => line.toList ++ ['\n'] := by
  rw [textOf, String.toList_join, List.map_map, List.flatMap_map]
  refine congrArg (List.flatMap · ls) (funext fun line => ?_)
  exact String.toList_append

/-- What is printed of a report tells its contents. -/
theorem ofText?_textOf {c : Contents} (h : c.Legible) (hfits : Digits.fits c.deviceCount = true) :
    ofText? (textOf ((c.openingLines ++ c.closingLines).map .str)) = some c := by
  have hopening : ∀ line ∈ c.openingLines.map String.toList, '\n' ∉ line := by
    intro line hm
    obtain ⟨text, htext, rfl⟩ := List.mem_map.mp hm
    exact newline_not_mem_openingLines h text htext
  have hchars : c.openingLines.flatMap (fun line => line.toList ++ ['\n']) =
      (c.openingLines.map String.toList).flatMap (· ++ ['\n']) := by rw [List.flatMap_map]
  rw [ofText?, toList_textOf, List.flatMap_append, hchars, Text.lines_flatMap_append hopening, ofLines?_openingLines h hfits,
    tensorText?_closingLines h.accelerator.1]

/-- A report has lines only where its count can be written. -/
theorem fits_of_lines_eq_ok {c : Contents} {tensor : Value} {lines : List Value} (h : (c.report tensor).lines = .ok lines) :
    Digits.fits c.deviceCount = true ∧ lines = (c.openingLines ++ c.closingLines).map .str := by
  cases hfits : Digits.fits c.deviceCount with
  | false => exact absurd ((lines_report_of_not_fits c tensor hfits).symm.trans h) (by simp)
  | true => exact ⟨rfl, Except.ok.inj (h.symm.trans (lines_report_of_fits c tensor hfits))⟩

/-- What is printed of a report with names and a version of one line each, and names without colons, tells everything that the report
tells, and no other such report is printed alike. A report with a count that is too long is not printed at all. -/
theorem text_read_back (c : Contents) (tensor : Value) (h : c.Legible) :
    (Digits.fits c.deviceCount = false → (c.report tensor).lines = .error .integerTooLong) ∧
      (Digits.fits c.deviceCount = true → ∃ lines, (c.report tensor).lines = .ok lines ∧ ofText? (textOf lines) = some c ∧
        ∀ c' tensor' lines', c'.Legible → (c'.report tensor').lines = .ok lines' → textOf lines' = textOf lines → c' = c) := by
  refine ⟨lines_report_of_not_fits c tensor, fun hfits => ⟨_, lines_report_of_fits c tensor hfits, ofText?_textOf h hfits, ?_⟩⟩
  intro c' tensor' lines' h' hlines' htext
  obtain ⟨hfits', rfl⟩ := fits_of_lines_eq_ok hlines'
  have hread : ofText? (textOf ((c.openingLines ++ c.closingLines).map .str)) = some c' := htext ▸ ofText?_textOf h' hfits'
  exact Option.some.inj (hread.symm.trans (ofText?_textOf h hfits))

/-- Contents with marks in the version, and with a printed tensor that has lines like those of a report and ends in newlines. -/
def marked : Contents where
  library := "Torch"
  accelerator := "CUDA"
  version := "2.4.0: nightly: +cu121"
  available := true
  deviceCount := -2
  tensorText := some "tensor([[1.]])\nCUDA Device Count: 9\n\n"

/-- They are read back. -/
theorem text_read_back_marked :
    marked.Legible ∧ Digits.fits marked.deviceCount = true ∧
      ∃ lines, (marked.report .null).lines = .ok lines ∧ ofText? (textOf lines) = some marked := by
  have hlegible : marked.Legible := ⟨by decide, by decide, by decide⟩
  have hfits : Digits.fits marked.deviceCount = true := by decide
  obtain ⟨lines, hlines, hread, -⟩ := (text_read_back marked .null hlegible).2 hfits
  exact ⟨hlegible, hfits, lines, hlines, hread⟩

end Contents

end DiagnosticReport

end AccelProbe
