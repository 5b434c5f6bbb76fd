import AccelProbe.Proofs.Toml.Documents
import AccelProbe.Value.Writing

/-!
# Values that lie too deep in each other

A reader draws the steps that it needs for nested arrays from a store, so arrays that lie too deep in each other are refused,
whatever a document says besides. A dotted key keeps no steps, however many names it has: each of its names but the last leads into a
table of its own, so a document on one line may hold tables as deep as it is long.
-/

namespace AccelProbe

namespace Toml

/-! ## Arrays -/

/-- More opening brackets than there are steps for are refused. -/
theorem value_brackets {count bound store : Nat} (hstore : store < arraySteps * count) (hbound : 2 * count ≤ bound)
    (rest : List Char) : value bound store (List.replicate count '[' ++ rest) = .error .tooDeep := by
  induction count generalizing bound store with
  | zero => exact absurd hstore (Nat.not_lt_zero store)
  | succ count ih =>
    obtain ⟨bound, rfl⟩ : ∃ smaller, bound = smaller + 2 := ⟨bound - 2, by omega⟩
    rw [List.replicate_succ, List.cons_append, value, descend]
    by_cases hsteps : arraySteps ≤ store
    · have hsmaller : store - arraySteps < arraySteps * count := by
        rw [Nat.mul_succ] at hstore
        omega
      have hvalue := @ih bound (store - arraySteps) hsmaller (by omega)
      -- steps are left, so at least one more bracket follows
      obtain ⟨more, rfl⟩ : ∃ more, count = more + 1 := by
        refine Nat.exists_eq_add_one_of_ne_zero ?_
        rintro rfl
        exact absurd hsmaller (Nat.not_lt_zero _)
      rw [List.replicate_succ, List.cons_append] at hvalue ⊢
      have hskip : skipFiller false ('[' :: (List.replicate more '[' ++ rest)) = .ok ('[' :: (List.replicate more '[' ++ rest)) :=
        @skipFiller_append [] (List.forall_mem_nil _) '[' rfl (by decide) (List.replicate more '[' ++ rest)
      have hitems : arrayItems (bound + 1) (store - arraySteps) ('[' :: (List.replicate more '[' ++ rest)) = .error .tooDeep := by
        have hopen : ('[' : Char) ≠ ']' := by decide
        rw [arrayItems, hvalue]
        · rfl
        · exact fun _ heq => hopen (List.cons.inj heq).1
      rcases passFiller_cases (store - arraySteps) ('[' :: (List.replicate more '[' ++ rest)) with hpass | hpass
      · simp only [if_pos hsteps, bind, Except.bind, hpass, hskip, hitems]
      · simp only [if_pos hsteps, bind, Except.bind, hpass]
    · rw [if_neg hsteps]
      rfl

/-! ## Dotted keys -/

/-- A dotted key: the names on the way, each with a point behind it, and the last name. -/
def dotted (way : List String) (last : String) : List Char := way.flatMap (fun name => name.toList ++ ['.']) ++ last.toList

/-- A table at the end of a path: each table on the way has one entry. -/
def nest : Path → Table → Table
  | [], t => t
  | key :: path, t => [(key, .dictionary (nest path t))]

/-- A change at the end of a path makes the tables on the way. -/
theorem update?_nil {change : Table → Option Table} {t : Table} (h : change [] = some t) (throughLists : Bool) (path : Path) :
    Table.update? throughLists change path [] = some (nest path t) := by
  induction path with
  | nil => exact h
  | cons key path ih =>
    rw [Table.update?, List.lookup_nil]
    dsimp only
    rw [ih]
    rfl

/-- Tables lie as deep in each other as the path to the last one is long. -/
theorem depth_nest (path : Path) (t : Table) :
    (Value.dictionary (nest path t)).depth = path.length + (Value.dictionary t).depth := by
  induction path with
  | nil => rw [nest, List.length_nil, Nat.zero_add]
  | cons key path ih =>
    rw [nest, Value.depth, Value.depthOfEntries, Value.depthOfEntries, ih, List.length_cons, Nat.max_zero]
    omega

/-- Tables on the way hold no integers of their own. -/
theorem hasShortIntegers_nest (path : Path) (t : Table) :
    (Value.dictionary (nest path t)).hasShortIntegers = (Value.dictionary t).hasShortIntegers := by
  induction path with
  | nil => rfl
  | cons key path ih =>
    rw [nest, Value.hasShortIntegers, Value.entriesHaveShortIntegers, Value.entriesHaveShortIntegers, ih, Bool.and_true]

/-- A key has no more names than characters. -/
theorem length_lt_dotted (way : List String) (last : String) (rest : List Char) :
    way.length < (dotted way last ++ '=' :: rest).length := by
  have hway : way.length ≤ (way.flatMap fun name => name.toList ++ ['.']).length := by
    induction way with
    | nil => exact Nat.zero_le _
    | cons first way ih =>
      simp only [List.flatMap_cons, List.length_append, List.length_cons, List.length_nil]
      omega
  simp only [dotted, List.length_append, List.length_cons]
  omega

section

variable {way : List String} {last : String} (h : ∀ name ∈ way ++ [last], IsBareName name)

include h

/-- A dotted key begins with a bare character. -/
theorem exists_dotted_eq_cons : ∃ c cs, dotted way last = c :: cs ∧ isBare c = true := by
  cases way with
  | nil =>
    obtain ⟨c, cs, hword, hc⟩ := (h last List.mem_cons_self).exists_eq_cons
    exact ⟨c, cs, by simp [dotted, hword], hc⟩
  | cons first way =>
    obtain ⟨c, cs, hword, hc⟩ := (h first List.mem_cons_self).exists_eq_cons
    exact ⟨c, cs ++ ['.'] ++ dotted way last, by simp [dotted, hword], hc⟩

/-- A dotted key of bare names is read name by name. -/
theorem key_dotted {bound store : Nat} (hbound : way.length < bound) (hstore : mostSteps ≤ store) (rest : List Char) :
    key bound store (dotted way last ++ '=' :: rest) = .ok (way ++ [last], '=' :: rest) := by
  induction way generalizing bound with
  | nil =>
    obtain ⟨bound, rfl⟩ := Nat.exists_eq_add_one_of_ne_zero (Nat.ne_of_gt hbound)
    exact @key_append last (h last List.mem_cons_self) [] (List.forall_mem_nil _) '=' ⟨rfl, rfl, by decide⟩ rest bound store hstore
  | cons first way ih =>
    obtain ⟨bound, rfl⟩ := Nat.exists_eq_add_one_of_ne_zero (Nat.ne_of_gt (Nat.lt_of_le_of_lt (Nat.zero_le _) hbound))
    obtain ⟨hfirst, hothers⟩ := List.forall_mem_cons.mp h
    have hkey := @ih hothers bound (Nat.lt_of_succ_lt_succ hbound)
    obtain ⟨c, cs, htext, hc⟩ := exists_dotted_eq_cons hothers
    have hskip : skipBlanks (dotted way last ++ '=' :: rest) = dotted way last ++ '=' :: rest := by
      have hspace : c ≠ ' ' := ne_of_isBare hc rfl
      have htab : c ≠ '\t' := ne_of_isBare hc rfl
      rw [htext, List.cons_append, skipBlanks, List.dropWhile_cons_of_neg (by simp [isBlank, hspace, htab])]
    have hline : dotted (first :: way) last ++ '=' :: rest = first.toList ++ '.' :: (dotted way last ++ '=' :: rest) := by
      simp [dotted]
    have hname := @name_append first hfirst '.' rfl (dotted way last ++ '=' :: rest)
    rw [hline, key, afford_nameSteps hstore, hname]
    change (key bound store (skipBlanks (dotted way last ++ '=' :: rest))).bind _ = _
    rw [hskip, hkey]
    rfl

/-- Behind a dotted key and an equals sign comes a value. -/
theorem pair_dotted {c : Char} (hc : isBlank c = false) (cs : List Char) (bound : Nat) {store : Nat} (hstore : mostSteps ≤ store) :
    pair (bound + 1) store (dotted way last ++ '=' :: c :: cs) =
      (value bound store (c :: cs)).map fun found => ((way ++ [last], found.1), found.2) := by
  have hkey := key_dotted h (Nat.lt_succ_of_lt (length_lt_dotted way last (c :: cs))) hstore (c :: cs)
  have hskip : skipBlanks (c :: cs) = c :: cs := by rw [skipBlanks, List.dropWhile_cons_of_neg (by simp [hc])]
  rw [pair, hkey]
  change (value bound store (skipBlanks (c :: cs))).bind _ = _
  rw [hskip]
  cases value bound store (c :: cs) <;> rfl

/-- A line that begins with a key is a statement. -/
theorem Document.readLines_dotted (d : Document) (rest : List Char) (bound : Nat) :
    readLines (bound + 1) d (dotted way last ++ rest) =
      (d.statement (dotted way last ++ rest)).bind fun found => (lineEnd found.2).bind (readLines bound found.1) := by
  obtain ⟨c, cs, htext, hc⟩ := exists_dotted_eq_cons h
  have hspace : c ≠ ' ' := ne_of_isBare hc rfl
  have htab : c ≠ '\t' := ne_of_isBare hc rfl
  have hline : c ≠ '\n' := ne_of_isBare hc rfl
  have hcomment : c ≠ '#' := ne_of_isBare hc rfl
  have hskip : skipBlanks (c :: (cs ++ rest)) = c :: (cs ++ rest) := by
    rw [skipBlanks, List.dropWhile_cons_of_neg (by simp [isBlank, hspace, htab])]
  rw [htext, List.cons_append, readLines, hskip]
  dsimp only
  rw [if_neg hline, if_neg hcomment]
  rfl

/-- Such a statement puts the value under the key. -/
theorem Document.statement_dotted (d : Document) (rest : List Char) :
    d.statement (dotted way last ++ rest) =
      (pair (2 * (dotted way last ++ rest).length + 2) depthStore (dotted way last ++ rest)).bind fun found =>
        (d.put found.1.1 found.1.2).map fun changed => (changed, found.2) := by
  obtain ⟨c, cs, htext, hc⟩ := exists_dotted_eq_cons h
  have hopen : c ≠ '[' := ne_of_isBare hc rfl
  rw [htext, List.cons_append]
  unfold Document.statement
  split
  next heq => exact absurd (List.cons.inj heq).1 hopen
  next heq => exact absurd (List.cons.inj heq).1 hopen
  next =>
    cases pair (2 * (c :: (cs ++ rest)).length + 2) depthStore (c :: (cs ++ rest)) with
    | error fault => rfl
    | ok found =>
      change (d.put found.1.1 found.1.2).bind _ = (d.put found.1.1 found.1.2).map _
      cases d.put found.1.1 found.1.2 <;> rfl

/-- A dotted key has no line end of two characters. -/
theorem notMem_dotted : '\r' ∉ dotted way last := by
  have hname (name : String) (hn : IsBareName name) : '\r' ∉ name.toList := fun hm => absurd (hn.2 '\r' hm) (by decide)
  have hlast := hname last (h last (List.mem_append_right way List.mem_cons_self))
  have hway : ∀ name ∈ way, '\r' ∉ name.toList := fun name hm => hname name (h name (List.mem_append_left _ hm))
  simp only [dotted, List.mem_append, List.mem_flatMap, List.mem_singleton, not_or, not_exists, not_and]
  exact ⟨fun name hm => ⟨hway name hm, by decide⟩, hlast⟩

/-! ## Documents of one key -/

/-- A document is refused for arrays that lie too deep in each other, whatever key they stand under. -/
theorem read_brackets {count : Nat} (hcount : depthStore < arraySteps * count) {rest : List Char} (hrest : '\r' ∉ rest) :
    read (String.ofList (dotted way last ++ '=' :: (List.replicate count '[' ++ rest))) = .error .tooDeep := by
  have hjoin : joinLineEnds (dotted way last ++ '=' :: (List.replicate count '[' ++ rest)) =
      dotted way last ++ '=' :: (List.replicate count '[' ++ rest) := by
    refine joinLineEnds_of_notMem ?_
    simp [notMem_dotted h, hrest, List.mem_replicate]
  have hlength : count ≤ (dotted way last ++ '=' :: (List.replicate count '[' ++ rest)).length := by
    simp only [List.length_append, List.length_cons, List.length_replicate]
    omega
  rw [read, String.toList_ofList, hjoin]
  rw [Document.readLines_dotted h, Document.statement_dotted h]
  obtain ⟨more, rfl⟩ : ∃ more, count = more + 1 := by
    refine Nat.exists_eq_add_one_of_ne_zero ?_
    rintro rfl
    exact absurd hcount (Nat.not_lt_zero _)
  have hvalue := @value_brackets (more + 1)
    (2 * (dotted way last ++ '=' :: (List.replicate (more + 1) '[' ++ rest)).length + 1) depthStore hcount (by omega) rest
  rw [List.replicate_succ, List.cons_append] at hvalue ⊢
  rw [pair_dotted h rfl _ _ (by decide), hvalue]
  rfl

/-- A document of one dotted key is read as tables that lie in each other as deep as the key has names. -/
theorem read_dotted {v : Value} (hv : IsScalar v) :
    read (String.ofList (dotted way last ++ '=' :: scalarText v)) = .ok (nest way [(last, v)]) := by
  have hjoin : joinLineEnds (dotted way last ++ '=' :: scalarText v) = dotted way last ++ '=' :: scalarText v := by
    refine joinLineEnds_of_notMem ?_
    simp [notMem_dotted h, notMem_scalarText hv]
  have hput : ∃ d, Document.put {} (way ++ [last]) v = .ok d ∧ d.root = nest way [(last, v)] := by
    have hroot : insertAt? true (way ++ [last]) v [] = some (nest way [(last, v)]) := by
      have hinsert : Table.insert? last v [] = some [(last, v)] := rfl
      rw [insertAt?, List.getLast?_concat, List.dropLast_concat]
      exact update?_nil hinsert true way
    have hopen : (Document.through [] (way ++ [last])).any (Marks.isDeclared {}) = false :=
      List.any_eq_false.mpr fun _ _ => by simp [Marks.isDeclared]
    unfold Document.put
    simp only [List.nil_append, hroot, hopen]
    exact ⟨_, rfl, rfl⟩
  obtain ⟨d, hd, hroot⟩ := hput
  obtain ⟨c, cs, htext, hc⟩ := exists_scalarText_eq_cons hv
  have hend : EndsValue [] := fun c hc => absurd hc (Option.not_mem_none c)
  have hvalue := @value_scalarText v hv [] hend (2 * (dotted way last ++ '=' :: scalarText v).length) depthStore (by decide)
  rw [List.append_nil] at hvalue
  rw [read, String.toList_ofList, hjoin]
  rw [Document.readLines_dotted h, Document.statement_dotted h]
  rw [htext] at hvalue ⊢
  rw [pair_dotted h (Bool.or_eq_false_iff.mp hc.not_filler).1 _ _ (by decide), hvalue]
  change Except.map _ ((Except.map _ (Document.put {} (way ++ [last]) v)).bind _) = _
  rw [hd]
  obtain ⟨bound, hbound⟩ := Nat.exists_eq_add_one_of_ne_zero (Nat.ne_of_gt (Nat.zero_lt_of_lt (length_lt_dotted way last (c :: cs))))
  change Except.map _ (Document.readLines (dotted way last ++ '=' :: c :: cs).length d []) = _
  rw [hbound, Document.readLines]
  exact congrArg Except.ok hroot

end

end Toml

end AccelProbe
