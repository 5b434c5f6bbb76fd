import AccelProbe.Proofs.Basic

/-!
# Dividing a text

A text is divided into its lines, of which each ends in a newline. A line of a report is a label, a mark, and what the line says under
the label. The mark is a colon with a blank behind it. The line is divided where its mark stands first; what it says last is its last
word, behind its last blank. Where an element parts two lists, and the first of them does not hold it, both can be told from the whole.
-/

namespace AccelProbe

/-- Two lists parted by the same element are the same, where it stands in neither of the parts before it. -/
theorem eq_of_append_cons_eq {α : Type} {a : α} {before before' behind behind' : List α} (h : a ∉ before) (h' : a ∉ before')
    (heq : before ++ a :: behind = before' ++ a :: behind') : before = before' ∧ behind = behind' := by
  induction before generalizing before' with
  | nil =>
    cases before' with
    | nil => exact ⟨rfl, (List.cons.inj heq).2⟩
    | cons b before' => exact absurd ((List.cons.inj heq).1 ▸ List.mem_cons_self) h'
  | cons b before ih =>
    cases before' with
    | nil => exact absurd ((List.cons.inj heq).1 ▸ List.mem_cons_self) h
    | cons b' before' =>
      obtain ⟨rfl, hrest⟩ := List.cons.inj heq
      obtain ⟨rfl, hbehind⟩ :=
        ih (fun hm => h (List.mem_cons_of_mem _ hm)) (fun hm => h' (List.mem_cons_of_mem _ hm)) hrest
      exact ⟨rfl, hbehind⟩

/-- An element that is neither in the pieces nor between them is not in the whole. -/
theorem not_mem_intercalate {α : Type} {a : α} {between : List α} {pieces : List (List α)} (hbetween : a ∉ between)
    (h : ∀ piece ∈ pieces, a ∉ piece) : a ∉ between.intercalate pieces := by
  induction pieces with
  | nil => exact List.not_mem_nil
  | cons piece pieces ih =>
    obtain ⟨hpiece, hpieces⟩ := List.forall_mem_cons.mp h
    by_cases hnil : pieces = []
    · rwa [hnil, List.intercalate_singleton]
    · rw [List.intercalate_cons_of_ne_nil hnil, List.append_assoc, List.mem_append, List.mem_append]
      exact not_or.mpr ⟨hpiece, not_or.mpr ⟨hbetween, ih hpieces⟩⟩

/-- Pieces with the same element between any two of them are found in the whole, where none of them is empty or holds it. -/
theorem filter_splitOn_intercalate {α : Type} [BEq α] [LawfulBEq α] {a : α} {pieces : List (List α)}
    (h : ∀ piece ∈ pieces, a ∉ piece ∧ piece ≠ []) : (([a].intercalate pieces).splitOn a).filter (!·.isEmpty) = pieces := by
  by_cases hnil : pieces = []
  · subst hnil
    rfl
  · rw [List.splitOn_intercalate a (fun piece hm => (h piece hm).1) hnil]
    exact List.filter_eq_self.mpr fun piece hm => by simp [(h piece hm).2]

namespace Text

/-! ## Lines -/

/-- The lines of a text of which each ends in a newline. -/
def lines (cs : List Char) : List (List Char) := (cs.splitOn '\n').dropLast

/-- The first line ends where a newline stands first. -/
theorem lines_append_cons {line : List Char} (h : '\n' ∉ line) (rest : List Char) :
    lines (line ++ '\n' :: rest) = line :: lines rest := by
  rw [lines, List.splitOn_append_cons_self_of_not_mem h, List.dropLast_cons_of_ne_nil (List.splitOn_ne_nil '\n' rest)]
  rfl

/-- Lines that are ended by newlines are read one by one. -/
theorem lines_flatMap_append {ls : List (List Char)} (h : ∀ line ∈ ls, '\n' ∉ line) (rest : List Char) :
    lines (ls.flatMap (· ++ ['\n']) ++ rest) = ls ++ lines rest := by
  induction ls with
  | nil => rfl
  | cons line ls ih =>
    obtain ⟨hline, hls⟩ := List.forall_mem_cons.mp h
    rw [List.flatMap_cons, List.append_assoc, List.append_assoc, List.singleton_append, lines_append_cons hline, ih hls,
      List.cons_append]

/-- The lines of a text that was ended by a newline make up the text, with a newline between two of them. -/
theorem intercalate_lines (cs : List Char) : ['\n'].intercalate (lines (cs ++ ['\n'])) = cs := by
  rw [lines, List.splitOn_append_cons_self, List.splitOn_nil, List.dropLast_concat, List.intercalate_splitOn]

/-! ## Labels -/

/-- The mark between a label and what a line says. -/
def mark : List Char := [':', ' ']

/-- The characters of a line with a label. -/
theorem toList_line (label said : String) : (label ++ ": " ++ said).toList = label.toList ++ mark ++ said.toList := by
  rw [String.toList_append, String.toList_append]
  rfl

/-- What stands before and behind the first mark. -/
def divide? : List Char → Option (List Char × List Char)
  | ':' :: ' ' :: behind => some ([], behind)
  | c :: rest => (divide? rest).map fun parts => (c :: parts.1, parts.2)
  | [] => none

/-- A text is divided behind a label that has no mark in it. -/
theorem divide?_append {label : List Char} (h : ¬ mark <:+: label) (said : List Char) :
    divide? (label ++ mark ++ said) = some (label, said) := by
  induction label with
  | nil => rfl
  | cons c label ih =>
    have hlabel : ¬ mark <:+: label := fun hm => h (List.infix_cons hm)
    have hrest := ih hlabel
    rw [List.cons_append, List.cons_append]
    unfold divide?
    split
    next behind heq =>
      -- a mark at the beginning would lie in the label, or be a colon with a colon behind it
      obtain ⟨rfl, htail⟩ := List.cons.inj heq
      cases label with
      | nil => exact absurd (List.cons.inj htail).1 (by decide)
      | cons d label =>
        obtain ⟨rfl, -⟩ := List.cons.inj htail
        exact absurd (List.prefix_append mark label).isInfix h
    next c' rest _ heq =>
      obtain ⟨rfl, rfl⟩ := List.cons.inj heq
      rw [hrest]
      rfl
    next heq => cases heq

/-- There is no mark where there is no colon. -/
theorem not_mark_infix {cs : List Char} (h : ':' ∉ cs) : ¬ mark <:+: cs := fun hm => h (hm.subset (by simp [mark]))

/-! ## Words -/

/-- The characters behind the last blank. -/
def lastWord (cs : List Char) : List Char := (cs.reverse.takeWhile (· != ' ')).reverse

/-- A word behind a blank is the last one. -/
theorem lastWord_append {word : List Char} (h : ' ' ∉ word) (before : List Char) : lastWord (before ++ ' ' :: word) = word := by
  have hword : ∀ c ∈ word.reverse, (c != ' ') = true := by
    intro c hc
    exact bne_iff_ne.mpr fun heq => h (heq ▸ List.mem_reverse.mp hc)
  have htake : (word.reverse ++ ' ' :: before.reverse).takeWhile (· != ' ') = word.reverse := by
    rw [List.takeWhile_append_of_pos hword, List.takeWhile_cons_of_neg (by simp), List.append_nil]
  rw [lastWord, List.reverse_append, List.reverse_cons, List.append_assoc, List.singleton_append, htake, List.reverse_reverse]

/-- Two texts are the same up to their last words where they are the same, and so are their last words. -/
theorem eq_of_append_blank_eq {before before' word word' : List Char} (h : ' ' ∉ word) (h' : ' ' ∉ word')
    (heq : before ++ ' ' :: word = before' ++ ' ' :: word') : before = before' ∧ word = word' := by
  have hword : word = word' := by rw [← lastWord_append h before, heq, lastWord_append h' before']
  subst hword
  exact ⟨List.append_cancel_right heq, rfl⟩

/-- The characters of a line with the blank of its mark before what it says. -/
theorem toList_line_word (label word : String) : (label ++ ": " ++ word).toList = (label.toList ++ [':']) ++ ' ' :: word.toList := by
  rw [toList_line, List.append_assoc, List.append_assoc]
  rfl

/-- A line that says one word is told from others by its label and the word, whatever the label is. -/
theorem eq_of_line_eq {label label' word word' : String} (h : ' ' ∉ word.toList) (h' : ' ' ∉ word'.toList)
    (heq : label ++ ": " ++ word = label' ++ ": " ++ word') : label = label' ∧ word = word' := by
  have hchars := congrArg String.toList heq
  rw [toList_line_word, toList_line_word] at hchars
  obtain ⟨hlabel, hword⟩ := eq_of_append_blank_eq h h' hchars
  exact ⟨String.toList_inj.mp (List.append_cancel_right hlabel), String.toList_inj.mp hword⟩

end Text

end AccelProbe
