import AccelProbe.CommandLine.Arguments
import AccelProbe.Proofs.Basic

/-!
# Command lines that are read to their end

`Arguments.read` stops where a word belongs to no switch and where a switch lacks its argument. A line that it reads to its end
therefore is nothing but options, one after the other: a word of switches, and behind it the argument of the last of them where it
needs one that is not in the word. `ReadsOption` says what such an option does to the arguments, and `Reads` what several do. No word
of theirs is two hyphens, so that each is what it is on its own, and what follows them is read as if it came first.
-/

namespace AccelProbe

namespace Word

/-- Whether words are what they are on their own. -/
def Plain (words : List (List Char × Word)) : Prop := ∀ p ∈ words, ofText p.1 = .ok p.2

/-- Two hyphens are short for every long switch and so are no word on their own. -/
theorem ne_hyphens_of_ofText {cs : List Char} {word : Word} (h : ofText cs = .ok word) : cs ≠ ['-', '-'] := by
  rintro rfl
  have hnone : (ofText ['-', '-']).toOption = none := by decide
  rw [h] at hnone
  cases hnone

/-- Where two hyphens separate nothing, each word is what it is on its own. -/
theorem plain_of_classify {words : List (List Char)} {classified : List (List Char × Word)} (h : classify words = .ok classified)
    (hnone : ∀ p ∈ classified, p.2 ≠ .separator) : words = classified.map (·.1) ∧ Plain classified := by
  induction words generalizing classified with
  | nil =>
    cases h
    exact ⟨rfl, nofun⟩
  | cons cs rest ih =>
    unfold classify at h
    split at h
    · cases h
      exact absurd rfl (hnone _ List.mem_cons_self)
    · obtain ⟨word, hword, h⟩ := exists_of_bind_eq_ok h
      obtain ⟨others, hothers, h⟩ := exists_of_bind_eq_ok h
      cases h
      obtain ⟨hrest, hplain⟩ := ih hothers fun p hp => hnone p (List.mem_cons_of_mem _ hp)
      refine ⟨by rw [hrest]; rfl, ?_⟩
      intro p hp
      rcases List.mem_cons.mp hp with rfl | hp
      · exact hword
      · exact hplain p hp

/-- Words that are what they are on their own do not change what the words behind them are. -/
theorem classify_append {classified : List (List Char × Word)} (h : Plain classified) (others : List (List Char)) :
    classify (classified.map (·.1) ++ others) = (classify others).map (classified ++ ·) := by
  induction classified with
  | nil => cases hothers : classify others <;> simp [hothers, Except.map]
  | cons p rest ih =>
    have hp := h p List.mem_cons_self
    have hrest := ih fun q hq => h q (List.mem_cons_of_mem _ hq)
    rw [List.map_cons, List.cons_append, classify, if_neg (ne_hyphens_of_ofText hp), hp, hrest]
    cases classify others <;> rfl

end Word

namespace Arguments

/-- What the words of one option make of the arguments `x`. -/
inductive ReadsOption (x : Arguments) : List (List Char × Word) → Arguments → Prop
  /-- No switch of the word takes an argument. -/
  | flags {cs spelling : List Char} {s last : Switch} {attached left : Option (List Char)} {before : List Switch} {y : Arguments}
      (hs : switchesOf s spelling attached = .ok (before, last, left)) (ht : last.takesArgument = false)
      (hflags : x.flags (before ++ [last]) = .ok y) : ReadsOption x [(cs, .switch s spelling attached)] y
  /-- The argument stands in the word. -/
  | joined {cs spelling text : List Char} {s last : Switch} {attached : Option (List Char)} {before : List Switch} {y z : Arguments}
      (hs : switchesOf s spelling attached = .ok (before, last, some text)) (ht : last.takesArgument = true)
      (hflags : x.flags before = .ok y) (hargument : y.argument last text = .ok z) :
      ReadsOption x [(cs, .switch s spelling attached)] z
  /-- The argument is the next word. -/
  | separate {cs spelling text : List Char} {s last : Switch} {attached : Option (List Char)} {before : List Switch} {y z : Arguments}
      (hs : switchesOf s spelling attached = .ok (before, last, none)) (ht : last.takesArgument = true)
      (hflags : x.flags before = .ok y) (hargument : y.argument last text = .ok z) :
      ReadsOption x [(cs, .switch s spelling attached), (text, .operand)] z

/-- What the words of several options make of the arguments, one option after the other. -/
inductive Reads : Arguments → List (List Char × Word) → Arguments → Prop
  | nil (x : Arguments) : Reads x [] x
  | cons {x y z : Arguments} {option rest : List (List Char × Word)} (hoption : ReadsOption x option y) (hrest : Reads y rest z) :
      Reads x (option ++ rest) z

/-- Words that are read to their end are those of options, and none before them belonged to no switch. -/
theorem reads_of_read {x y : Arguments} {extras : List (List Char)} {words : List (List Char × Word)}
    (h : x.read extras words = .ok y) : extras = [] ∧ Reads x words y := by
  fun_induction Arguments.read x extras words
  case case1 hextras =>
    cases h
    exact ⟨List.isEmpty_iff.mp hextras, .nil _⟩
  -- a word that belongs to no switch is never forgotten
  case case3 ih => exact absurd (ih h).1 (by simp)
  case case4 ih => exact absurd (ih h).1 (by simp)
  case case5 ih => exact absurd (ih h).1 (by simp)
  -- a switch with its argument, attached or in the next word, and then one without
  case case7 ht _ _ hs ih =>
    obtain ⟨w, hflags, h⟩ := exists_of_bind_eq_ok h
    obtain ⟨z, hargument, h⟩ := exists_of_bind_eq_ok h
    obtain ⟨hextras, hrest⟩ := ih z h
    exact ⟨hextras, .cons (.joined hs ht hflags hargument) hrest⟩
  case case8 ht _ _ hs ih =>
    obtain ⟨w, hflags, h⟩ := exists_of_bind_eq_ok h
    obtain ⟨z, hargument, h⟩ := exists_of_bind_eq_ok h
    obtain ⟨hextras, hrest⟩ := ih z h
    exact ⟨hextras, .cons (.separate hs ht hflags hargument) hrest⟩
  case case10 hs ht ih =>
    obtain ⟨z, hflags, h⟩ := exists_of_bind_eq_ok h
    obtain ⟨hextras, hrest⟩ := ih z h
    exact ⟨hextras, .cons (.flags hs (Bool.eq_false_iff.mpr ht) hflags) hrest⟩
  all_goals cases h

/-- The words behind an option are read from what the option made of the arguments. -/
theorem ReadsOption.read_append {x y : Arguments} {option : List (List Char × Word)} (h : ReadsOption x option y)
    (extras : List (List Char)) (others : List (List Char × Word)) : x.read extras (option ++ others) = y.read extras others := by
  cases h with
  | flags hs ht hflags =>
    simp only [List.cons_append, List.nil_append, Arguments.read, hs, ht, hflags]
    rfl
  | joined hs ht hflags hargument =>
    simp only [List.cons_append, List.nil_append, Arguments.read, hs, ht, hflags, if_true, bind, Except.bind, hargument]
  | separate hs ht hflags hargument =>
    simp only [List.cons_append, List.nil_append, Arguments.read, hs, ht, hflags, if_true, bind, Except.bind, hargument]

/-- An option is read to its end. -/
theorem ReadsOption.read_eq {x y : Arguments} {option : List (List Char × Word)} (h : ReadsOption x option y) :
    x.read [] option = .ok y := by
  rw [← List.append_nil option, h.read_append]
  rfl

/-- The words behind options are read from what the options made of the arguments. -/
theorem Reads.read_append {x y : Arguments} {words : List (List Char × Word)} (h : Reads x words y)
    (others : List (List Char × Word)) : x.read [] (words ++ others) = y.read [] others := by
  induction h with
  | nil x => rfl
  | cons hoption hrest ih => rw [List.append_assoc, hoption.read_append, ih]

/-- Every word of an option is a switch or the argument of one. -/
theorem ReadsOption.ne_separator {x y : Arguments} {option : List (List Char × Word)} (h : ReadsOption x option y) :
    ∀ p ∈ option, p.2 ≠ .separator := by
  intro p hp
  cases h with
  | flags =>
    obtain rfl := List.mem_singleton.mp hp
    exact nofun
  | joined =>
    obtain rfl := List.mem_singleton.mp hp
    exact nofun
  | separate =>
    rcases List.mem_cons.mp hp with rfl | hp
    · exact nofun
    · obtain rfl := List.mem_singleton.mp hp
      exact nofun

/-- So is every word of several options. -/
theorem Reads.ne_separator {x y : Arguments} {words : List (List Char × Word)} (h : Reads x words y) :
    ∀ p ∈ words, p.2 ≠ .separator := by
  induction h with
  | nil x => exact nofun
  | cons hoption hrest ih =>
    intro p hp
    rcases List.mem_append.mp hp with hp | hp
    · exact hoption.ne_separator p hp
    · exact ih p hp

/-- An accepted line is read option after option, and each of its words is what it is on its own. -/
theorem exists_reads {words : List String} {x : Arguments} (h : ofTexts words = .ok x) :
    ∃ classified, words.map String.toList = classified.map (·.1) ∧ Word.Plain classified ∧ Reads {} classified x := by
  unfold ofTexts ofWords at h
  split at h
  · cases h
  · next classified hclassified =>
    have hreads := (reads_of_read h).2
    obtain ⟨hwords, hplain⟩ := Word.plain_of_classify hclassified hreads.ne_separator
    exact ⟨classified, hwords, hplain, hreads⟩

/-- A line whose words are what they are on their own is read from left to right. -/
theorem ofTexts_of_plain {words : List String} {classified : List (List Char × Word)}
    (hwords : words.map String.toList = classified.map (·.1)) (h : Word.Plain classified) :
    ofTexts words = ({} : Arguments).read [] classified := by
  have hclassify := Word.classify_append h []
  rw [List.append_nil, ← hwords] at hclassify
  rw [ofTexts, ofWords, hclassify]
  simp [Word.classify, Except.map]

end Arguments

end AccelProbe
