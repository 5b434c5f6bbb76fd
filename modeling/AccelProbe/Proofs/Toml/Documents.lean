import AccelProbe.Proofs.Toml.Values
import AccelProbe.Toml.Document

/-!
# Documents as they are written

A document is written as a heading and one line for each entry of its table. The reader goes through it line by line: each line puts
its value behind those that were read before, so what is read in the end is the table that was written, in the same order.
-/

namespace AccelProbe

namespace Toml

/-- The line of an entry: its key, an equals sign and its value. -/
def lineText (gap : List Char) (entry : String × Value) : List Char :=
  entry.1.toList ++ [' ', '=', ' '] ++ valueText gap entry.2

/-- The lines of entries, each behind the end of the one before, and what stands at the end of the document. -/
def linesText (gap ending : List Char) : List (String × Value) → List Char
  | [] => ending
  | entry :: entries => '\n' :: lineText gap entry ++ linesText gap ending entries

/-- The document of a table under a heading. -/
def documentText (gap ending : List Char) (title : String) (entries : List (String × Value)) : String :=
  String.ofList ('[' :: title.toList ++ ']' :: linesText gap ending entries)

/-- Whether a name may stand without quotes. -/
def IsBareName (name : String) : Prop := name ≠ "" ∧ ∀ c ∈ name.toList, isBare c = true

/-! ## Lines -/

/-- A bare name is read up to the first character that is none of its own. -/
theorem name_append {word : String} (h : IsBareName word) {c : Char} (hc : isBare c = false) (rest : List Char) :
    name (word.toList ++ c :: rest) = .ok (word, c :: rest) := by
  obtain ⟨hne, hbare⟩ := h
  have htake : (word.toList ++ c :: rest).takeWhile isBare = word.toList := by
    rw [List.takeWhile_append_of_pos hbare, List.takeWhile_cons_of_neg (by simp [hc]), List.append_nil]
  have hdrop : (word.toList ++ c :: rest).dropWhile isBare = c :: rest := by
    rw [List.dropWhile_append_of_pos hbare, List.dropWhile_cons_of_neg (by simp [hc])]
  cases hword : word.toList with
  | nil => exact absurd (String.toList_eq_nil_iff.mp hword) hne
  | cons d ds =>
    have hd : isBare d = true := hbare d (hword ▸ List.mem_cons_self)
    have hdouble : d ≠ '\x22' := by
      rintro rfl
      exact absurd hd (by decide)
    have hsingle : d ≠ '\x27' := by
      rintro rfl
      exact absurd hd (by decide)
    rw [hword, List.cons_append] at htake hdrop
    rw [List.cons_append, name, if_neg hdouble, if_neg hsingle, if_pos hd, htake, hdrop, ← hword, String.ofList_toList]

/-- A key of one bare name is read with the blanks behind it. -/
theorem key_append {word : String} (h : IsBareName word) {blanks : List Char} (hblanks : ∀ c ∈ blanks, isBlank c = true)
    {c : Char} (hc : isBare c = false ∧ isBlank c = false ∧ c ≠ '.') (rest : List Char) (bound : Nat) {store : Nat}
    (hstore : mostSteps ≤ store) : key (bound + 1) store (word.toList ++ (blanks ++ c :: rest)) = .ok ([word], c :: rest) := by
  obtain ⟨hbare, hblank, hpoint⟩ := hc
  have hskip : skipBlanks (blanks ++ c :: rest) = c :: rest := by
    rw [skipBlanks, List.dropWhile_append_of_pos hblanks, List.dropWhile_cons_of_neg (by simp [hblank])]
  have hname : name (word.toList ++ (blanks ++ c :: rest)) = .ok (word, blanks ++ c :: rest) := by
    cases blanks with
    | nil => exact name_append h hbare rest
    | cons d ds =>
      refine name_append h ?_ (ds ++ c :: rest)
      have hd := hblanks d List.mem_cons_self
      simp only [isBlank, Bool.or_eq_true, beq_iff_eq] at hd
      rcases hd with rfl | rfl <;> decide
  simp only [key, afford_nameSteps hstore, hname, bind, Except.bind]
  rw [hskip]
  split
  next heq => exact absurd (List.cons.inj heq).1 hpoint
  next => rfl

/-- A bare name begins with a bare character. -/
theorem IsBareName.exists_eq_cons {word : String} (h : IsBareName word) : ∃ c cs, word.toList = c :: cs ∧ isBare c = true := by
  cases hword : word.toList with
  | nil => exact absurd (String.toList_eq_nil_iff.mp hword) h.1
  | cons c cs => exact ⟨c, cs, rfl, h.2 c (hword ▸ List.mem_cons_self)⟩

/-- A bare character is none of these. -/
theorem ne_of_isBare {c d : Char} (h : isBare c = true) (hd : isBare d = false) : c ≠ d := by
  rintro rfl
  exact Bool.false_ne_true (hd.symm.trans h)

section

variable {gap : List Char} {entry : String × Value}

/-- An entry is read as its line is written. -/
theorem pair_lineText (hgap : ∀ c ∈ gap, isBlank c = true) (hname : IsBareName entry.1) (h : HasForm entry.2) {rest : List Char}
    (hrest : EndsValue rest) {bound : Nat} (hbound : (lineText gap entry).length ≤ bound) :
    pair (bound + 3) depthStore (lineText gap entry ++ rest) = .ok (([entry.1], asRead entry.2), rest) := by
  have hline : lineText gap entry ++ rest = entry.1.toList ++ ([' '] ++ '=' :: ' ' :: (valueText gap entry.2 ++ rest)) := by
    simp [lineText]
  have hkey : ∀ bound, key (bound + 1) depthStore (lineText gap entry ++ rest) =
      .ok ([entry.1], '=' :: ' ' :: (valueText gap entry.2 ++ rest)) := by
    intro bound
    rw [hline]
    exact key_append hname (List.forall_mem_singleton.mpr rfl) ⟨rfl, rfl, by decide⟩ _ bound (by decide)
  have hskip : skipBlanks (' ' :: (valueText gap entry.2 ++ rest)) = valueText gap entry.2 ++ rest := by
    obtain ⟨c, cs, htext, hc⟩ := exists_valueText_eq_cons gap h
    rw [htext, List.cons_append, skipBlanks, List.dropWhile_cons_of_pos rfl, List.dropWhile_cons_of_neg (by simp [hc])]
  have hlength : (valueText gap entry.2).length ≤ bound := by
    simp only [lineText, List.length_append] at hbound
    omega
  rw [pair, hkey]
  change (value (bound + 2) depthStore (skipBlanks (' ' :: (valueText gap entry.2 ++ rest)))).bind _ = _
  rw [hskip, value_valueText hgap h hrest hlength]
  rfl

end

namespace Document

/-- Whether a document as far as it is read holds one table, which is open, and nothing is sealed but what lies below it. -/
structure Holds (d : Document) (title : String) (t : Table) : Prop where
  /-- The table is the only one. -/
  root : d.root = [(title, .dictionary t)]
  /-- It is open. -/
  heading : d.heading = [title]
  /-- Only values in it are sealed. -/
  closed : ∀ path ∈ d.marks.closed, 2 ≤ path.length

/-- A value is put behind the others under a new key. -/
theorem Holds.put {d : Document} {title : String} {t : Table} (h : d.Holds title t) {key : String} (hkey : key ∉ t.map (·.1))
    (v : Value) : ∃ d', d.put [key] v = .ok d' ∧ d'.Holds title (t ++ [(key, v)]) := by
  have hopen : d.marks.isClosed (d.heading ++ [key].dropLast) = false := by
    refine List.any_eq_false.mpr ?_
    intro path hpath hprefix
    have hlength := (List.isPrefixOf_iff_prefix.mp hprefix).length_le
    rw [h.heading] at hlength
    have htwo : 2 ≤ 1 := Nat.le_trans (h.closed path hpath) hlength
    exact absurd htwo (by decide)
  have hfree : t.lookup key = none := by
    refine List.lookup_eq_none_iff.mpr ?_
    intro entry hentry
    have hne : key ≠ entry.1 := fun heq => hkey (List.mem_map.mpr ⟨entry, hentry, heq.symm⟩)
    simpa using hne
  have hroot : insertAt? true (d.heading ++ [key]) v d.root = some [(title, .dictionary (t ++ [(key, v)]))] := by
    rw [h.heading, h.root]
    simp [insertAt?, Table.update?, Table.insert?, Table.assign, hfree]
  unfold Document.put
  simp only [hroot, hopen]
  refine ⟨_, rfl, rfl, h.heading, ?_⟩
  intro path hpath
  have hcases : path = d.heading ++ [key] ∨ path ∈ d.marks.closed := by
    cases hcloses : closesPath v with
    | true =>
      rw [hcloses] at hpath
      exact List.mem_cons.mp hpath
    | false =>
      rw [hcloses] at hpath
      exact Or.inr hpath
  rcases hcases with rfl | hpath
  · rw [h.heading]
    exact Nat.le_refl 2
  · exact h.closed path hpath

/-- A line that begins with neither filler nor a comment is a statement. -/
theorem readLines_of_statement {d d' : Document} {c : Char} {cs rest : List Char} (hc : isFiller c = false) (hcomment : c ≠ '#')
    (hstatement : d.statement (c :: cs) = .ok (d', rest)) (bound : Nat) :
    readLines (bound + 1) d (c :: cs) = (lineEnd rest).bind (readLines bound d') := by
  obtain ⟨hblank, hline⟩ := Bool.or_eq_false_iff.mp hc
  have hskip : skipBlanks (c :: cs) = c :: cs := by rw [skipBlanks, List.dropWhile_cons_of_neg (by simp [hblank])]
  have hline : c ≠ '\n' := by simpa using hline
  rw [readLines, hskip]
  dsimp only
  rw [if_neg hline, if_neg hcomment, hstatement]
  rfl

section

variable {gap ending : List Char} (hgap : ∀ c ∈ gap, isBlank c = true) (hending : ending = [] ∨ ending = ['\n'])

include hending in
/-- What stands behind a line ends its value. -/
theorem endsValue_linesText (entries : List (String × Value)) : EndsValue (linesText gap ending entries) := by
  cases entries with
  | nil =>
    rcases hending with rfl | rfl
    · exact nofun
    · exact endsValue_cons (Or.inl rfl)
  | cons entry entries => exact endsValue_cons (Or.inl rfl)

include hgap

/-- The line of an entry is a statement that puts its value into the open table. -/
theorem Holds.statement {d : Document} {title : String} {t : Table} (h : d.Holds title t) {entry : String × Value}
    (hname : IsBareName entry.1) (hform : HasForm entry.2) (hkey : entry.1 ∉ t.map (·.1)) {rest : List Char} (hrest : EndsValue rest) :
    ∃ d', d.statement (lineText gap entry ++ rest) = .ok (d', rest) ∧ d'.Holds title (t ++ [(entry.1, asRead entry.2)]) := by
  obtain ⟨d', hput, hd'⟩ := h.put hkey (asRead entry.2)
  refine ⟨d', ?_, hd'⟩
  obtain ⟨c, cs, hword, hc⟩ := hname.exists_eq_cons
  have hopen : c ≠ '[' := ne_of_isBare hc rfl
  have hlength : 1 ≤ (lineText gap entry).length := by simp [lineText, hword]
  obtain ⟨bound, hbound⟩ : ∃ bound, 2 * (lineText gap entry ++ rest).length + 2 = bound + 3 ∧ (lineText gap entry).length ≤ bound := by
    refine ⟨2 * (lineText gap entry ++ rest).length - 1, ?_⟩
    rw [List.length_append]
    omega
  have hpair := pair_lineText hgap hname hform hrest hbound.2
  rw [← hbound.1] at hpair
  have hline : lineText gap entry ++ rest = c :: (cs ++ [' ', '=', ' '] ++ valueText gap entry.2 ++ rest) := by
    simp [lineText, hword]
  unfold Document.statement
  split
  next heq => exact absurd (List.cons.inj (hline.symm.trans heq)).1 hopen
  next heq => exact absurd (List.cons.inj (hline.symm.trans heq)).1 hopen
  next =>
    rw [hpair]
    change (d.put [entry.1] (asRead entry.2)).bind _ = _
    rw [hput]
    rfl

include hending

/-- The lines of entries are read one by one, each into the table behind the others. -/
theorem Holds.readLines {d : Document} {title : String} {t : Table} (h : d.Holds title t) {entries : List (String × Value)}
    (hentries : ∀ entry ∈ entries, IsBareName entry.1 ∧ HasForm entry.2) (hkeys : (t.map (·.1) ++ entries.map (·.1)).Nodup)
    {bound : Nat} (hbound : entries.length < bound) :
    ∃ d', (lineEnd (linesText gap ending entries)).bind (readLines bound d) = .ok d' ∧
      d'.Holds title (t ++ entries.map fun entry => (entry.1, asRead entry.2)) := by
  induction entries generalizing d t bound with
  | nil =>
    obtain ⟨bound, rfl⟩ := Nat.exists_eq_add_one_of_ne_zero (Nat.ne_of_gt hbound)
    refine ⟨d, ?_, by rwa [List.map_nil, List.append_nil]⟩
    rcases hending with rfl | rfl <;> rfl
  | cons entry entries ih =>
    obtain ⟨bound, rfl⟩ := Nat.exists_eq_add_one_of_ne_zero (Nat.ne_of_gt (Nat.lt_of_le_of_lt (Nat.zero_le _) hbound))
    obtain ⟨⟨hname, hform⟩, hentries⟩ := List.forall_mem_cons.mp hentries
    have hkey : entry.1 ∉ t.map (·.1) := by
      intro hm
      exact (List.nodup_append.mp hkeys).2.2 _ hm _ List.mem_cons_self rfl
    obtain ⟨d', hstatement, hd'⟩ := h.statement hgap hname hform hkey (endsValue_linesText hending entries)
    have hothers : ((t ++ [(entry.1, asRead entry.2)]).map (·.1) ++ entries.map (·.1)).Nodup := by simpa using hkeys
    obtain ⟨last, hlast, hholds⟩ := ih hd' hentries hothers (Nat.lt_of_succ_lt_succ hbound)
    refine ⟨last, ?_, by simpa using hholds⟩
    obtain ⟨c, cs, hword, hc⟩ := hname.exists_eq_cons
    have hline : lineText gap entry ++ linesText gap ending entries =
        c :: (cs ++ [' ', '=', ' '] ++ valueText gap entry.2 ++ linesText gap ending entries) := by
      simp [lineText, hword]
    have hfiller : isFiller c = false := by
      have hspace : c ≠ ' ' := ne_of_isBare hc rfl
      have htab : c ≠ '\t' := ne_of_isBare hc rfl
      have hend : c ≠ '\n' := ne_of_isBare hc rfl
      simp [isFiller, isBlank, hspace, htab, hend]
    rw [hline] at hstatement
    calc (lineEnd (linesText gap ending (entry :: entries))).bind (Document.readLines (bound + 1) d)
      _ = Document.readLines (bound + 1) d (lineText gap entry ++ linesText gap ending entries) := rfl
      _ = (lineEnd (linesText gap ending entries)).bind (Document.readLines bound d') := by
        rw [hline]
        exact readLines_of_statement hfiller (ne_of_isBare hc rfl) hstatement bound
      _ = .ok last := hlast

end

/-- The heading of a document opens its table. -/
theorem statement_heading {title : String} (h : IsBareName title) (rest : List Char) :
    ∃ d, statement {} ('[' :: title.toList ++ ']' :: rest) = .ok (d, rest) ∧ d.Holds title [] := by
  obtain ⟨c, cs, hword, hc⟩ := h.exists_eq_cons
  have hopen : c ≠ '[' := ne_of_isBare hc rfl
  have hblank : isBlank c = false := by
    have hspace : c ≠ ' ' := ne_of_isBare hc rfl
    have htab : c ≠ '\t' := ne_of_isBare hc rfl
    simp [isBlank, hspace, htab]
  have hskip : skipBlanks (title.toList ++ ']' :: rest) = title.toList ++ ']' :: rest := by
    rw [hword, List.cons_append, skipBlanks, List.dropWhile_cons_of_neg (by simp [hblank])]
  have hkey : ∀ bound, key (bound + 1) depthStore (title.toList ++ ']' :: rest) = .ok ([title], ']' :: rest) := fun bound =>
    @key_append title h [] (List.forall_mem_nil _) ']' ⟨rfl, rfl, by decide⟩ rest bound depthStore (by decide)
  refine ⟨⟨[(title, .dictionary [])], [title], ({} : Marks).declare [title]⟩, ?_, rfl, rfl, List.forall_mem_nil _⟩
  -- a second bracket would open an item of an array of tables
  have hsingle : ∀ more, title.toList ++ ']' :: rest = '[' :: more → False := by
    intro more heq
    rw [hword] at heq
    exact hopen (List.cons.inj heq).1
  rw [List.cons_append, Document.statement, hskip, hkey]
  · rfl
  · exact hsingle

end Document

/-! ## Whole documents -/

/-- Line ends of one character stay as they are. -/
theorem joinLineEnds_of_notMem {cs : List Char} (h : '\r' ∉ cs) : joinLineEnds cs = cs := by
  induction cs with
  | nil => rfl
  | cons c cs ih =>
    obtain ⟨hne, hcs⟩ := not_or.mp (mt List.mem_cons.mpr h)
    rw [joinLineEnds, ih hcs]
    exact fun rest heq _ => hne heq.symm

theorem notMem_linesText {gap ending : List Char} (hgap : ∀ c ∈ gap, isBlank c = true) (hending : ending = [] ∨ ending = ['\n'])
    {entries : List (String × Value)} (h : ∀ entry ∈ entries, IsBareName entry.1 ∧ HasForm entry.2) :
    '\r' ∉ linesText gap ending entries := by
  induction entries with
  | nil => rcases hending with rfl | rfl <;> simp [linesText]
  | cons entry entries ih =>
    obtain ⟨⟨hname, hform⟩, hentries⟩ := List.forall_mem_cons.mp h
    have hkey : '\r' ∉ entry.1.toList := fun hm => absurd (hname.2 '\r' hm) (by decide)
    have hvalue := notMem_valueText hgap hform
    simp [linesText, lineText, hkey, hvalue, ih hentries]

/-- There are no more lines than characters. -/
theorem length_le_linesText (gap ending : List Char) (entries : List (String × Value)) :
    entries.length ≤ (linesText gap ending entries).length := by
  induction entries with
  | nil => exact Nat.zero_le _
  | cons entry entries ih =>
    simp only [linesText, List.length_append, List.length_cons]
    omega

/-- A document is read as it is written: its one table has the entries in order, each with the value that is read for its own. -/
theorem read_documentText {gap ending : List Char} (hgap : ∀ c ∈ gap, isBlank c = true) (hending : ending = [] ∨ ending = ['\n'])
    {title : String} (htitle : IsBareName title) {entries : List (String × Value)}
    (hentries : ∀ entry ∈ entries, IsBareName entry.1 ∧ HasForm entry.2) (hkeys : (entries.map (·.1)).Nodup) :
    read (documentText gap ending title entries) =
      .ok [(title, .dictionary (entries.map fun entry => (entry.1, asRead entry.2)))] := by
  have htext : joinLineEnds (documentText gap ending title entries).toList =
      '[' :: title.toList ++ ']' :: linesText gap ending entries := by
    have hword : '\r' ∉ title.toList := fun hm => absurd (htitle.2 '\r' hm) (by decide)
    have hlines := notMem_linesText hgap hending hentries
    rw [documentText, String.toList_ofList]
    exact joinLineEnds_of_notMem (by simp [hword, hlines])
  obtain ⟨d, hheading, hd⟩ := Document.statement_heading htitle (linesText gap ending entries)
  have hbound : entries.length < ('[' :: title.toList ++ ']' :: linesText gap ending entries).length := by
    have hlines := length_le_linesText gap ending entries
    simp only [List.length_append, List.length_cons]
    omega
  obtain ⟨last, hlast, hholds⟩ := hd.readLines hgap hending hentries (by simpa using hkeys) hbound
  have hread : Document.readLines (('[' :: title.toList ++ ']' :: linesText gap ending entries).length + 1) {}
      ('[' :: title.toList ++ ']' :: linesText gap ending entries) = .ok last := by
    rw [List.cons_append] at hheading hlast ⊢
    rw [Document.readLines_of_statement rfl (by decide) hheading]
    exact hlast
  rw [read, htext, hread]
  exact congrArg Except.ok hholds.root

end Toml

end AccelProbe
