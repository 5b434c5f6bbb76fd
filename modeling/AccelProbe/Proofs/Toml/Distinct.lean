import AccelProbe.Proofs.Basic
import AccelProbe.Toml.Document

/-!
# Tables without double keys

No table that is read from a document has a key twice, wherever it lies: a key that is taken is refused, and a change to a table
touches the value under a key and never the key. So it does not matter to a lookup in which order the entries of a table stand.
-/

namespace AccelProbe

namespace Toml

/-- Whether no table in a value has a key twice. -/
inductive Distinct : Value → Prop where
  /-- A value that holds no other. -/
  | scalar {v : Value} (h : closesPath v = false) : Distinct v
  /-- A list of such values. -/
  | list {items : List Value} (h : ∀ v ∈ items, Distinct v) : Distinct (.list items)
  /-- A table of such values, whose own keys differ from each other. -/
  | dictionary {t : Table} (hkeys : (t.map (·.1)).Nodup) (h : ∀ entry ∈ t, Distinct entry.2) : Distinct (.dictionary t)

namespace Distinct

variable {t : Table} {key : String} {v : Value}

theorem keys (h : Distinct (.dictionary t)) : (t.map (·.1)).Nodup := by
  cases h with
  | scalar h => cases h
  | dictionary hkeys _ => exact hkeys

theorem entries (h : Distinct (.dictionary t)) : ∀ entry ∈ t, Distinct entry.2 := by
  cases h with
  | scalar h => cases h
  | dictionary _ h => exact h

theorem items {vs : List Value} (h : Distinct (.list vs)) : ∀ v ∈ vs, Distinct v := by
  cases h with
  | scalar h => cases h
  | list h => exact h

theorem nil : Distinct (.dictionary []) := dictionary List.nodup_nil nofun

/-! ## Lookups -/

/-- What is found under a key is an entry. -/
theorem mem_of_lookup (h : t.lookup key = some v) : (key, v) ∈ t := by
  obtain ⟨before, after, rfl, -⟩ := List.lookup_eq_some_iff.mp h
  exact List.mem_append_right before List.mem_cons_self

theorem lookup (h : Distinct (.dictionary t)) (hv : t.lookup key = some v) : Distinct v :=
  h.entries (key, v) (mem_of_lookup hv)

/-- A key that has no value is the key of no entry. -/
theorem notMem_of_lookup (h : t.lookup key = none) : key ∉ t.map (·.1) := by
  intro hm
  obtain ⟨entry, hentry, rfl⟩ := List.mem_map.mp hm
  simpa using List.lookup_eq_none_iff.mp h entry hentry

/-- Where no key comes twice, each entry is found under its key. -/
theorem lookup_of_mem (hkeys : (t.map (·.1)).Nodup) (h : (key, v) ∈ t) : t.lookup key = some v := by
  obtain ⟨before, after, rfl⟩ := List.append_of_mem h
  refine List.lookup_eq_some_iff.mpr ⟨before, after, rfl, ?_⟩
  intro entry hentry
  rw [List.map_append] at hkeys
  have hne : entry.1 ≠ key := (List.nodup_append.mp hkeys).2.2 entry.1 (List.mem_map_of_mem hentry) key List.mem_cons_self
  simpa using hne.symm

/-- The order of the entries does not matter to a lookup. -/
theorem lookup_eq_of_perm {others : Table} (h : Distinct (.dictionary t)) (hp : t.Perm others) (key : String) :
    t.lookup key = others.lookup key := by
  have hkeys : (others.map (·.1)).Nodup := (hp.map (·.1)).nodup_iff.mp h.keys
  cases hv : t.lookup key with
  | some v => exact (lookup_of_mem hkeys (hp.mem_iff.mp (mem_of_lookup hv))).symm
  | none =>
    have hfree : key ∉ others.map (·.1) := fun hm => notMem_of_lookup hv ((hp.map (·.1)).mem_iff.mpr hm)
    refine (List.lookup_eq_none_iff.mpr ?_).symm
    intro entry hentry
    have hne : key ≠ entry.1 := fun heq => hfree (heq ▸ List.mem_map_of_mem hentry)
    simpa using hne

/-! ## Changes of a table -/

/-- Another value under a key that a table has leaves the keys as they are. -/
theorem assign (h : Distinct (.dictionary t)) (hv : Distinct v) : Distinct (.dictionary (t.assign key v)) := by
  have hkeys : (t.assign key v).map (·.1) = t.map (·.1) := by
    rw [Table.assign, List.map_map]
    refine List.map_congr_left ?_
    intro entry _
    rw [Function.comp_apply]
    split
    · next heq => exact heq.symm
    · rfl
  refine dictionary (hkeys ▸ h.keys) ?_
  intro entry hentry
  obtain ⟨old, hold, rfl⟩ := List.mem_map.mp hentry
  split
  · exact hv
  · exact h.entries old hold

/-- A new entry has a key of its own. -/
theorem append (h : Distinct (.dictionary t)) (hfree : t.lookup key = none) (hv : Distinct v) :
    Distinct (.dictionary (t ++ [(key, v)])) := by
  have hnew := notMem_of_lookup hfree
  refine dictionary ?_ ?_
  · rw [List.map_append]
    refine List.nodup_append.mpr ⟨h.keys, List.nodup_cons.mpr ⟨List.not_mem_nil, List.nodup_nil⟩, ?_⟩
    intro a ha b hb heq
    have hb : b = key := List.mem_singleton.mp hb
    exact hnew (hb ▸ heq ▸ ha)
  · intro entry hentry
    rcases List.mem_append.mp hentry with hold | hold
    · exact h.entries entry hold
    · rw [List.mem_singleton.mp hold]
      exact hv

end Distinct

/-- Whether a change of tables leaves them without double keys. -/
def Keeps (change : Table → Option Table) : Prop :=
  ∀ {t t' : Table}, Distinct (.dictionary t) → change t = some t' → Distinct (.dictionary t')

namespace Keeps

variable {v : Value}

theorem unchanged : Keeps some := by
  intro t t' h heq
  exact Option.some.inj heq ▸ h

/-- A key that is taken is refused. -/
theorem insert? (key : String) (hv : Distinct v) : Keeps (Table.insert? key v) := by
  intro t t' h heq
  unfold Table.insert? at heq
  cases hl : t.lookup key with
  | some w => simp [hl] at heq
  | none =>
    rw [hl] at heq
    exact Option.some.inj heq ▸ h.append hl hv

/-- One more table in a list has no entries yet. -/
theorem extend? (key : String) : Keeps (Table.extend? key) := by
  intro t t' h heq
  have hempty : ∀ w ∈ [Value.dictionary []], Distinct w := fun w hw => List.mem_singleton.mp hw ▸ Distinct.nil
  unfold Table.extend? at heq
  split at heq
  next hl => exact Option.some.inj heq ▸ h.append hl (.list hempty)
  next tables hl =>
    have htables := (h.lookup hl).items
    have hlist : ∀ w ∈ tables ++ [Value.dictionary []], Distinct w := by
      intro w hw
      exact (List.mem_append.mp hw).elim (htables w) (hempty w)
    exact Option.some.inj heq ▸ h.assign (.list hlist)
  next => cases heq

/-- A change at the end of a path is one of the values on the way. -/
theorem update? {change : Table → Option Table} (hchange : Keeps change) (throughLists : Bool) (path : Path) :
    Keeps (Table.update? throughLists change path) := by
  induction path with
  | nil => exact hchange
  | cons key path ih =>
    intro t t' h heq
    unfold Table.update? at heq
    split at heq
    next hl =>
      obtain ⟨inner, hinner, rfl⟩ := Option.map_eq_some_iff.mp heq
      exact h.append hl (ih Distinct.nil hinner)
    next inner hl =>
      obtain ⟨changed, hchanged, rfl⟩ := Option.map_eq_some_iff.mp heq
      exact h.assign (ih (h.lookup hl) hchanged)
    next tables hl =>
      have htables := (h.lookup hl).items
      split at heq
      · split at heq
        next inner hlast =>
          obtain ⟨changed, hchanged, rfl⟩ := Option.map_eq_some_iff.mp heq
          have hinner := ih (htables _ (List.mem_of_getLast? hlast)) hchanged
          refine h.assign (.list ?_)
          intro w hw
          rcases List.mem_append.mp hw with hw | hw
          · exact htables w (List.dropLast_subset tables hw)
          · exact List.mem_singleton.mp hw ▸ hinner
        next => cases heq
      · cases heq
    next => cases heq

/-- A value under a dotted key comes into a table without double keys. -/
theorem insertAt? (throughLists : Bool) (path : Path) (hv : Distinct v) : Keeps (Toml.insertAt? throughLists path v) :=
  update? (insert? _ hv) throughLists path.dropLast

end Keeps

/-! ## Values -/

/-- What is read where a moment begins holds no other value. -/
theorem closesPath_of_moment? {cs rest : List Char} {v : Value} (h : moment? cs = some (.ok (v, rest))) : closesPath v = false := by
  unfold moment? at h
  split at h
  · split at h
    · cases h
    · split at h <;> cases h <;> rfl
  · obtain ⟨found, -, hfound⟩ := Option.map_eq_some_iff.mp h
    cases hfound
    rfl

/-- What is read where a number begins holds no other value. -/
theorem closesPath_of_number? {cs rest : List Char} {v : Value} (h : number? cs = some (.ok (v, rest))) : closesPath v = false := by
  unfold number? at h
  split at h
  · cases h
    rfl
  · split at h
    next reading hd =>
      cases h
      unfold decimal? at hd
      repeat' split at hd
      all_goals cases hd <;> rfl
    next =>
      obtain ⟨found, hw, hfound⟩ := Option.map_eq_some_iff.mp h
      cases hfound
      unfold numberWord? at hw
      repeat' split at hw
      all_goals cases hw <;> rfl

/-- A scalar holds no other value. -/
theorem closesPath_of_scalar {cs rest : List Char} {v : Value} (h : scalar cs = .ok (v, rest)) : closesPath v = false := by
  unfold scalar at h
  split at h
  · obtain ⟨found, -, hfound⟩ := exists_of_map_eq_ok h
    cases hfound
    rfl
  · split at h
    next flag hf =>
      cases h
      unfold flag? at hf
      split at hf <;> cases hf <;> rfl
    next =>
      split at h
      next reading hm => exact closesPath_of_moment? (h ▸ hm)
      next =>
        cases hn : number? cs with
        | none => cases hn ▸ h
        | some reading =>
          rw [hn, Option.getD_some] at h
          exact closesPath_of_number? (h ▸ hn)

mutual

/-- No table in a value that is read has a key twice. -/
theorem Distinct.of_value {bound store : Nat} {cs rest : List Char} {v : Value} (h : value bound store cs = .ok (v, rest)) :
    Distinct v := by
  cases bound with
  | zero =>
    unfold value at h
    cases h
  | succ bound =>
    unfold value at h
    split at h
    next =>
      obtain ⟨store, -, h⟩ := exists_of_bind_eq_ok h
      obtain ⟨filler, -, h⟩ := exists_of_bind_eq_ok h
      obtain ⟨⟨items, behind⟩, hitems, h⟩ := exists_of_bind_eq_ok h
      cases h
      exact .list (of_arrayItems hitems)
    next =>
      obtain ⟨store, -, h⟩ := exists_of_bind_eq_ok h
      obtain ⟨_, -, h⟩ := exists_of_bind_eq_ok h
      split at h
      · cases h
        exact .nil
      · exact of_inlineEntries .nil h
    next =>
      obtain ⟨_, -, h⟩ := exists_of_bind_eq_ok h
      exact .scalar (closesPath_of_scalar h)

/-- So it is with the items of an array. -/
theorem Distinct.of_arrayItems {bound store : Nat} {cs rest : List Char} {items : List Value}
    (h : arrayItems bound store cs = .ok (items, rest)) : ∀ v ∈ items, Distinct v := by
  cases bound with
  | zero =>
    unfold arrayItems at h
    cases h
  | succ bound =>
    unfold arrayItems at h
    split at h
    next =>
      cases h
      exact nofun
    next =>
      obtain ⟨⟨item, behind⟩, hitem, h⟩ := exists_of_bind_eq_ok h
      obtain ⟨filler, -, h⟩ := exists_of_bind_eq_ok h
      have hfirst := of_value hitem
      split at h
      · cases h
        exact List.forall_mem_singleton.mpr hfirst
      · obtain ⟨more, -, h⟩ := exists_of_bind_eq_ok h
        obtain ⟨⟨others, behind⟩, hothers, h⟩ := exists_of_bind_eq_ok h
        cases h
        exact List.forall_mem_cons.mpr ⟨hfirst, of_arrayItems hothers⟩
      · cases h

/-- So it is with the value behind a key. -/
theorem Distinct.of_pair {bound store : Nat} {cs rest : List Char} {path : Path} {v : Value}
    (h : pair bound store cs = .ok ((path, v), rest)) : Distinct v := by
  cases bound with
  | zero =>
    unfold pair at h
    cases h
  | succ bound =>
    unfold pair at h
    obtain ⟨⟨names, behind⟩, -, h⟩ := exists_of_bind_eq_ok h
    obtain ⟨more, -, h⟩ := exists_of_bind_eq_ok h
    obtain ⟨⟨w, left⟩, hvalue, h⟩ := exists_of_bind_eq_ok h
    cases h
    exact of_value hvalue

/-- So it is with an inline table, where the entries before have no key twice. -/
theorem Distinct.of_inlineEntries {bound store : Nat} {t : Table} {marks : Marks} {cs rest : List Char} {v : Value}
    (ht : Distinct (.dictionary t)) (h : inlineEntries bound store t marks cs = .ok (v, rest)) : Distinct v := by
  cases bound with
  | zero =>
    unfold inlineEntries at h
    cases h
  | succ bound =>
    unfold inlineEntries at h
    obtain ⟨⟨⟨path, w⟩, behind⟩, hpair, h⟩ := exists_of_bind_eq_ok h
    dsimp only at h
    split at h
    · cases h
    · split at h
      · cases h
      next changed hchanged =>
        have hdistinct := Keeps.insertAt? false path (of_pair hpair) ht hchanged
        split at h
        · cases h
          exact hdistinct
        · exact of_inlineEntries hdistinct h
        · cases h

end

/-! ## Documents -/

namespace Document

variable {d d' : Document} {path : Path} {cs rest : List Char}

/-- What was demanded was there. -/
theorem eq_some_of_demand {α : Type} {x : Option α} {a : α} (h : demand x = .ok a) : x = some a := by
  cases x with
  | none => cases h
  | some b => exact congrArg some (Except.ok.inj h)

/-- A table that a heading opens. -/
theorem distinct_of_openTable (hd : Distinct (.dictionary d.root)) (h : d.openTable path = .ok d') :
    Distinct (.dictionary d'.root) := by
  unfold openTable at h
  split at h
  · cases h
  · obtain ⟨root, hroot, h⟩ := exists_of_bind_eq_ok h
    cases h
    exact Keeps.update? Keeps.unchanged true path hd (eq_some_of_demand hroot)

/-- A table that a heading adds to a list. -/
theorem distinct_of_openItem (hd : Distinct (.dictionary d.root)) (h : d.openItem path = .ok d') :
    Distinct (.dictionary d'.root) := by
  unfold openItem at h
  split at h
  · cases h
  · obtain ⟨root, hroot, h⟩ := exists_of_bind_eq_ok h
    cases h
    exact Keeps.update? (Keeps.extend? _) true path.dropLast hd (eq_some_of_demand hroot)

/-- A value under a key of the open table. -/
theorem distinct_of_put {v : Value} (hd : Distinct (.dictionary d.root)) (hv : Distinct v) (h : d.put path v = .ok d') :
    Distinct (.dictionary d'.root) := by
  unfold put at h
  dsimp only at h
  split at h
  · cases h
  · obtain ⟨root, hroot, h⟩ := exists_of_bind_eq_ok h
    cases h
    exact Keeps.insertAt? true (d.heading ++ path) hv hd (eq_some_of_demand hroot)

/-- A statement leaves a document without double keys. -/
theorem distinct_of_statement (hd : Distinct (.dictionary d.root)) (h : d.statement cs = .ok (d', rest)) :
    Distinct (.dictionary d'.root) := by
  -- a heading settles the marks and leaves the tables as they are
  have hsettled : Distinct (.dictionary ({ d with marks := d.marks.settle } : Document).root) := hd
  unfold statement at h
  split at h
  next =>
    obtain ⟨⟨path, behind⟩, -, h⟩ := exists_of_bind_eq_ok h
    obtain ⟨opened, hopened, h⟩ := exists_of_bind_eq_ok h
    obtain ⟨_, -, h⟩ := exists_of_bind_eq_ok h
    obtain ⟨_, -, h⟩ := exists_of_bind_eq_ok h
    cases h
    exact distinct_of_openItem hsettled hopened
  next =>
    obtain ⟨⟨path, behind⟩, -, h⟩ := exists_of_bind_eq_ok h
    obtain ⟨opened, hopened, h⟩ := exists_of_bind_eq_ok h
    obtain ⟨_, -, h⟩ := exists_of_bind_eq_ok h
    cases h
    exact distinct_of_openTable hsettled hopened
  next =>
    obtain ⟨⟨⟨path, v⟩, behind⟩, hpair, h⟩ := exists_of_bind_eq_ok h
    obtain ⟨changed, hchanged, h⟩ := exists_of_bind_eq_ok h
    cases h
    exact distinct_of_put hd (Distinct.of_pair hpair) hchanged

/-- So do all the lines that are left. -/
theorem distinct_of_readLines {bound : Nat} (hd : Distinct (.dictionary d.root)) (h : readLines bound d cs = .ok d') :
    Distinct (.dictionary d'.root) := by
  induction bound generalizing d cs with
  | zero => cases h
  | succ bound ih =>
    unfold readLines at h
    split at h
    · cases h
      exact hd
    · split at h
      · exact ih hd h
      · split at h
        · obtain ⟨_, -, h⟩ := exists_of_bind_eq_ok h
          exact ih hd h
        · obtain ⟨⟨next, behind⟩, hnext, h⟩ := exists_of_bind_eq_ok h
          obtain ⟨_, -, h⟩ := exists_of_bind_eq_ok h
          exact ih (distinct_of_statement hd hnext) h

end Document

/-- No table of a document has a key twice. -/
theorem distinct_of_read {text : String} {root : Table} (h : read text = .ok root) : Distinct (.dictionary root) := by
  obtain ⟨d, hd, rfl⟩ := exists_of_map_eq_ok h
  exact Document.distinct_of_readLines Distinct.nil hd

end Toml

end AccelProbe
