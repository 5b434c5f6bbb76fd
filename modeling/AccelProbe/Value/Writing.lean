import AccelProbe.Value.Access

/-!
# Writing values

A value can be written when no integer in it has more digits than the limit, and when its collections do not lie too deep in each
other. A longer integer is a value like any other: it can be kept, compared and handed on, and only its text is refused; so it is
with a deep collection. Where a value has both, the one that comes first from left to right is why it is refused. Whatever a report, a
record or a message says of a value goes through the functions below.

How deep collections may lie is counted in calls, as the runtime does: one for each collection and for what lies in the last one,
and some more where that is made of parts. The calls that led to the text count there as well; the limit here is one number for all.
-/

namespace AccelProbe

namespace Value

mutual

/-- Whether no integer in a value is too long. -/
def hasShortIntegers : Value → Bool
  | int n => Digits.fits n
  | list items => haveShortIntegers items
  | tuple items => haveShortIntegers items
  | dictionary entries => entriesHaveShortIntegers entries
  | device name => hasShortIntegers name
  | spec type index => hasShortIntegers type && hasShortIntegers index
  | _ => true

/-- Whether no integer in the items of a collection is too long. -/
def haveShortIntegers : List Value → Bool
  | [] => true
  | v :: rest => hasShortIntegers v && haveShortIntegers rest

/-- Whether no integer in the entries of a dictionary is too long. -/
def entriesHaveShortIntegers : List (String × Value) → Bool
  | [] => true
  | (_, v) :: rest => hasShortIntegers v && entriesHaveShortIntegers rest

end

/-- The calls that a distance from universal time takes; the time itself has a name of its own. -/
def distanceDepth : Option Int → Nat
  | none => 0
  | some minutes => if minutes = 0 then 1 else 2

mutual

/-- How many calls are open at the deepest place of a value where its text is made. -/
def depth : Value → Nat
  | list items => depthOfItems items + 1
  | tuple items => depthOfItems items + 1
  | dictionary entries => depthOfEntries entries + 1
  | datetime _ _ distance => distanceDepth distance + 1
  | _ => 1

/-- The greatest depth of the items of a collection. -/
def depthOfItems : List Value → Nat
  | [] => 0
  | v :: rest => max (depth v) (depthOfItems rest)

/-- The greatest depth of the values in a dictionary. -/
def depthOfEntries : List (String × Value) → Nat
  | [] => 0
  | (_, v) :: rest => max (depth v) (depthOfEntries rest)

end

/-- The greatest depth of a value that can be written. -/
def depthLimit : Nat := 989

/-- Whether a value can be written. -/
def isWritable (v : Value) : Bool := v.hasShortIntegers && decide (v.depth ≤ depthLimit)

mutual

/-- What is met first, from left to right, that cannot be written: an integer that is too long, or a value where there is no room for
one more call. -/
def firstFault? : Nat → Value → Option Fault
  | 0, _ => some .tooDeep
  | _ + 1, int n => if Digits.fits n then none else some .integerTooLong
  | room + 1, list items => firstFaultAmong? room items
  | room + 1, tuple items => firstFaultAmong? room items
  | room + 1, dictionary entries => firstFaultInEntries? room entries
  | room + 1, datetime _ _ distance => if distanceDepth distance ≤ room then none else some .tooDeep
  | _ + 1, device name => if hasShortIntegers name then none else some .integerTooLong
  | _ + 1, spec type index => if hasShortIntegers type && hasShortIntegers index then none else some .integerTooLong
  | _ + 1, _ => none

/-- What is met first in the items of a collection. -/
def firstFaultAmong? (room : Nat) : List Value → Option Fault
  | [] => none
  | v :: rest => (firstFault? room v).or (firstFaultAmong? room rest)

/-- What is met first in the values of a dictionary. -/
def firstFaultInEntries? (room : Nat) : List (String × Value) → Option Fault
  | [] => none
  | (_, v) :: rest => (firstFault? room v).or (firstFaultInEntries? room rest)

end

/-- Why a value cannot be written. -/
def writingFault (v : Value) : Fault := (firstFault? depthLimit v).getD .tooDeep

/-- The display text of a value that can be written. -/
def toText (v : Value) : Except Fault String := if v.isWritable then .ok v.display else .error v.writingFault

/-- The source text of a value that can be written. -/
def toSource (v : Value) : Except Fault String := if v.isWritable then .ok v.source else .error v.writingFault

/-- Sizes that can be written, joined by the sign of multiplication. -/
def toDimensions (sizes : List Value) : Except Fault String := (sizes.mapM toText).map (String.intercalate "x")

/-- A text, or else why it could not be written. -/
def wording : Except Fault String → String
  | .ok text => text
  | .error fault => fault.message

/-- What is true of a value with integers that are short or not, and of some depth, where this is met first in it. -/
def Explains (short : Bool) (depth room : Nat) : Option Fault → Prop
  | none => short = true ∧ depth ≤ room
  | some .tooDeep => room < depth
  | some .integerTooLong => short = false
  | some _ => False

/-- What is met in the items of a collection is met in the collection, where there is room for one more call. -/
theorem Explains.within {short : Bool} {depth room : Nat} {found : Option Fault} (h : Explains short depth room found) :
    Explains short (depth + 1) (room + 1) found := by
  match found with
  | none =>
    obtain ⟨hshort, hdepth⟩ := h
    exact ⟨hshort, Nat.succ_le_succ hdepth⟩
  | some .tooDeep => exact Nat.succ_lt_succ h
  | some .integerTooLong => exact h

/-- What is met first in two values is what is met in the first, or else in the second. -/
theorem Explains.or {short short' : Bool} {depth depth' room : Nat} {found found' : Option Fault}
    (h : Explains short depth room found) (h' : Explains short' depth' room found') :
    Explains (short && short') (max depth depth') room (found.or found') := by
  match found, found' with
  | none, none =>
    obtain ⟨hshort, hdepth⟩ := h
    obtain ⟨hshort', hdepth'⟩ := h'
    exact ⟨by rw [hshort, hshort', Bool.and_true], Nat.max_le.mpr ⟨hdepth, hdepth'⟩⟩
  | none, some .tooDeep => exact Nat.lt_of_lt_of_le h' (Nat.le_max_right ..)
  | none, some .integerTooLong =>
    have hshort' : short' = false := h'
    exact hshort' ▸ Bool.and_false short
  | some .tooDeep, _ => exact Nat.lt_of_lt_of_le h (Nat.le_max_left ..)
  | some .integerTooLong, _ =>
    have hshort : short = false := h
    exact hshort ▸ Bool.false_and short'

/-- An integer that is met alone is too long, or nothing is met. -/
theorem explains_ite (short : Bool) (room : Nat) :
    Explains short 1 (room + 1) (if short = true then none else some .integerTooLong) := by
  cases short with
  | true => exact ⟨rfl, Nat.succ_le_succ (Nat.zero_le room)⟩
  | false => rfl

/-- The text of every value takes a call. -/
theorem depth_pos (v : Value) : 0 < v.depth := by
  cases v <;> exact Nat.succ_pos _

mutual

/-- What is met first in a value explains why it cannot be written. -/
theorem explains_firstFault? (room : Nat) (v : Value) : Explains v.hasShortIntegers v.depth room (firstFault? room v) := by
  cases room with
  | zero =>
    rw [firstFault?]
    exact depth_pos v
  | succ room =>
    cases v with
    | list items | tuple items =>
      rw [firstFault?, hasShortIntegers, depth]
      exact (explains_firstFaultAmong? room items).within
    | dictionary entries =>
      rw [firstFault?, hasShortIntegers, depth]
      exact (explains_firstFaultInEntries? room entries).within
    | datetime _ _ distance =>
      rw [firstFault?, depth]
      split
      next hdepth => exact ⟨by simp [hasShortIntegers], Nat.succ_le_succ hdepth⟩
      next hdepth => exact Nat.succ_lt_succ (Nat.lt_of_not_le hdepth)
    | int n | device name =>
      rw [firstFault?, hasShortIntegers]
      exact explains_ite _ room
    | spec type index =>
      rw [firstFault?, hasShortIntegers]
      exact explains_ite _ room
    | _ => simp [firstFault?, hasShortIntegers, depth, Explains]

/-- What is met first in the items of a collection explains why they cannot be written. -/
theorem explains_firstFaultAmong? (room : Nat) (items : List Value) :
    Explains (haveShortIntegers items) (depthOfItems items) room (firstFaultAmong? room items) := by
  cases items with
  | nil => exact ⟨by rw [haveShortIntegers], Nat.zero_le room⟩
  | cons v rest =>
    rw [firstFaultAmong?, haveShortIntegers, depthOfItems]
    exact (explains_firstFault? room v).or (explains_firstFaultAmong? room rest)

/-- What is met first in the values of a dictionary explains why they cannot be written. -/
theorem explains_firstFaultInEntries? (room : Nat) (entries : List (String × Value)) :
    Explains (entriesHaveShortIntegers entries) (depthOfEntries entries) room (firstFaultInEntries? room entries) := by
  cases entries with
  | nil => exact ⟨by rw [entriesHaveShortIntegers], Nat.zero_le room⟩
  | cons entry rest =>
    obtain ⟨key, v⟩ := entry
    rw [firstFaultInEntries?, entriesHaveShortIntegers, depthOfEntries]
    exact (explains_firstFault? room v).or (explains_firstFaultInEntries? room rest)

end

/-- Why a value cannot be written is what is met first in it. -/
theorem firstFault?_eq_writingFault {v : Value} (h : v.isWritable = false) : firstFault? depthLimit v = some v.writingFault := by
  have hexplains := explains_firstFault? depthLimit v
  rw [writingFault]
  cases hfound : firstFault? depthLimit v with
  | some fault => rfl
  | none =>
    rw [hfound] at hexplains
    obtain ⟨hshort, hdepth⟩ := hexplains
    rw [isWritable, hshort, decide_eq_true hdepth] at h
    cases h

/-- A value without a long integer in it is refused for its depth alone. -/
theorem writingFault_of_hasShortIntegers {v : Value} (hshort : v.hasShortIntegers = true) (hdepth : depthLimit < v.depth) :
    v.writingFault = .tooDeep := by
  have hw : v.isWritable = false := by rw [isWritable, decide_eq_false (Nat.not_le_of_lt hdepth), Bool.and_false]
  have hexplains := explains_firstFault? depthLimit v
  rw [firstFault?_eq_writingFault hw] at hexplains
  cases hfault : v.writingFault with
  | tooDeep => rfl
  | integerTooLong =>
    rw [hfault] at hexplains
    exact absurd (hshort.symm.trans hexplains) nofun
  | _ =>
    rw [hfault] at hexplains
    exact hexplains.elim

@[simp] theorem toText_str (s : String) : (str s).toText = .ok s := by
  simp [toText, isWritable, hasShortIntegers, depth, depthLimit]

/-- The text of a value is its display text, and only a value that can be written has one. -/
theorem toText_eq_ok_iff {v : Value} {s : String} : v.toText = .ok s ↔ v.isWritable = true ∧ v.display = s := by
  unfold toText
  split <;> simp_all

/-- An integer can be written where it has no more digits than the limit. -/
theorem isWritable_int (n : Int) : (int n).isWritable = Digits.fits n := by
  simp [isWritable, hasShortIntegers, depth, depthLimit]

theorem display_int (n : Int) : (int n).display = intText n := rfl

theorem toText_int_of_fits {n : Int} (h : Digits.fits n = true) : (int n).toText = .ok (intText n) :=
  toText_eq_ok_iff.mpr ⟨(isWritable_int n).trans h, display_int n⟩

theorem toText_int_of_not_fits {n : Int} (h : Digits.fits n = false) : (int n).toText = .error .integerTooLong := by
  have hw : (int n).isWritable = false := (isWritable_int n).trans h
  simp [toText, hw, writingFault, firstFault?, depthLimit, h]

/-- A line made from the text of a value stands where the value can be written. -/
theorem map_toText_eq_ok_iff {v : Value} {f : String → String} {line : String} :
    v.toText.map f = .ok line ↔ v.isWritable = true ∧ line = f v.display := by
  unfold toText
  split
  · next hw => simp [Except.map, hw, eq_comm]
  · next hw => simp [Except.map, hw]

/-- A line made from the text of a value is refused where the value cannot be written, for the reason that it cannot. -/
theorem map_toText_eq_error_iff {v : Value} {f : String → String} {fault : Fault} :
    v.toText.map f = .error fault ↔ v.isWritable = false ∧ fault = v.writingFault := by
  unfold toText
  split
  · next hw => simp [Except.map, hw]
  · next hw => simp [Except.map, hw, eq_comm]

/-- Sizes that can be written are joined by the sign of multiplication. -/
theorem toDimensions_of_isWritable {sizes : List Value} (h : ∀ v ∈ sizes, v.isWritable = true) :
    toDimensions sizes = .ok (dimensions sizes) := by
  have hm : sizes.mapM toText = .ok (sizes.map display) := by
    induction sizes with
    | nil => rfl
    | cons v rest ih =>
      have hv : v.toText = .ok v.display := toText_eq_ok_iff.mpr ⟨h v (by simp), rfl⟩
      rw [List.mapM_cons, hv, ih fun w hw => h w (by simp [hw])]
      rfl
  rw [toDimensions, hm]
  rfl

theorem haveShortIntegers_eq_all (items : List Value) : haveShortIntegers items = items.all hasShortIntegers := by
  induction items with
  | nil => simp [haveShortIntegers]
  | cons v rest ih => simp [haveShortIntegers, ih]

end Value

end AccelProbe
