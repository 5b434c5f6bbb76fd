import AccelProbe.Proofs.CommandLine.Occurrences

/-!
# Command lines one after the other

A line that is accepted takes nothing from a line behind it: what stands behind is refused, or ends the reading, as it would alone,
and otherwise has the last word where it sets anything at all. The reading is `Additive`, that is, it goes on from any arguments as it
goes on from none. An accepted line moreover consists of portions that are accepted on their own, so the order of its options only
matters where two of them set the same value.
-/

namespace AccelProbe

namespace Arguments

/-- What two command lines ask for together, the one for `x` first: the values that the second sets, or else those of the first, and
the reports that either of them asks for. -/
def join (x y : Arguments) : Arguments where
  config := if y.config.isNull then x.config else y.config
  backend := if y.backend.isNull then x.backend else y.backend
  environment := .bool (x.environment.isTruthy || y.environment.isTruthy)
  compute := .bool (x.compute.isTruthy || y.compute.isTruthy)

/-- An empty command line adds nothing. -/
theorem Proper.join_default {x : Arguments} (hx : x.Proper) : x.join {} = x := by
  obtain ⟨e, he⟩ := hx.environment
  obtain ⟨c, hc⟩ := hx.compute
  cases x
  cases he
  cases hc
  simp [join, Value.isNull, Value.isTruthy]

/-! ## Reading on -/

/-- Whether a step of the reading goes on from `x` as it goes on from nothing. -/
def Additive (x : Arguments) (step : Arguments → Except Stop Arguments) : Prop :=
  ∀ y : Arguments, step (x.join y) = (step y).map x.join

/-- Two such steps are one. -/
theorem Additive.bind {x : Arguments} {step next : Arguments → Except Stop Arguments} (hs : Additive x step)
    (hn : Additive x next) : Additive x fun y => step y >>= next := by
  intro y
  dsimp only
  rw [hs y]
  cases step y with
  | error stop => rfl
  | ok z => exact hn z

theorem additive_flag (x : Arguments) (s : Switch) : Additive x (flag · s) := by
  intro y
  cases s with
  | help => rfl
  | config => rfl
  | backend => rfl
  | environment => simp [flag, join, Except.map, Value.isTruthy]
  | compute => simp [flag, join, Except.map, Value.isTruthy]

theorem additive_flags (x : Arguments) (switches : List Switch) : Additive x (flags · switches) := by
  induction switches with
  | nil => exact fun _ => rfl
  | cons s rest ih => exact (additive_flag x s).bind ih

theorem additive_argument (x : Arguments) (s : Switch) (cs : List Char) : Additive x (argument · s cs) := by
  intro y
  simp only [Arguments.argument]
  cases allows s cs with
  | false => rfl
  | true => cases s <;> simp [join, Except.map, argumentValue_isNull]

/-- Words are read on from any arguments as they are read from none, and stop the reading for the same reasons. -/
theorem additive_read (x : Arguments) (extras : List (List Char)) (words : List (List Char × Word)) :
    Additive x (read · extras words) := by
  intro y
  dsimp only
  fun_induction Arguments.read y extras words
  case case1 h => exact if_pos h
  case case2 h => exact if_neg h
  case case3 ih => exact ih
  case case4 ih => exact ih
  case case5 ih => exact ih
  case case6 hs =>
    simp only [Arguments.read, hs]
    rfl
  -- a switch with its argument, attached or in the next word
  case case7 extras _ _ _ _ before last ht text rest hs ih =>
    have hrest : Additive x (read · extras rest) := ih
    simp only [Arguments.read, hs, ht, if_true]
    exact (additive_flags x before).bind ((additive_argument x last text).bind hrest) _
  case case8 extras _ _ _ _ before last ht text rest hs ih =>
    have hrest : Additive x (read · extras rest) := ih
    simp only [Arguments.read, hs, ht, if_true]
    exact (additive_flags x before).bind ((additive_argument x last text).bind hrest) _
  case case9 before last ht _ hs =>
    simp only [Arguments.read, hs, ht, if_true]
    rfl
  case case10 extras _ _ _ _ rest before last attached hs ht ih =>
    have hrest : Additive x (read · extras rest) := ih
    simp only [Arguments.read, hs, ht]
    exact (additive_flags x (before ++ [last])).bind hrest _

/-- Words are read on from proper arguments as they are read at the beginning of a line. -/
theorem Proper.read_eq {x : Arguments} (hx : x.Proper) (words : List (List Char × Word)) :
    x.read [] words = (({} : Arguments).read [] words).map x.join := by
  have hread : (x.join {}).read [] words = (({} : Arguments).read [] words).map x.join := additive_read x [] words {}
  rwa [hx.join_default] at hread

/-- What stands behind an accepted line is read as if it stood alone, and joined to what was asked for. -/
theorem ofTexts_append {a : List String} {x : Arguments} (h : ofTexts a = .ok x) (b : List String) :
    ofTexts (a ++ b) = (ofTexts b).map x.join := by
  obtain ⟨classified, hwords, hplain, hreads⟩ := exists_reads h
  have hclassify := Word.classify_append hplain (b.map String.toList)
  rw [ofTexts, ofWords, List.map_append, hwords, hclassify, ofTexts, ofWords]
  cases Word.classify (b.map String.toList) with
  | error fault => rfl
  | ok others =>
    have hx := proper_of_ofTexts h
    change ({} : Arguments).read [] (classified ++ others) = (({} : Arguments).read [] others).map x.join
    rw [hreads.read_append, hx.read_eq]

/-! ## The portions of a line -/

/-- Whether a word stands for switches. `expecting` tells whether the last of them takes the next word as its argument. -/
def IsSwitches (cs : List Char) (expecting : Bool) : Prop :=
  ∃ s spelling attached before last left, Word.ofText cs = .ok (.switch s spelling attached) ∧
    switchesOf s spelling attached = .ok (before, last, left) ∧ expecting = (last.takesArgument && left.isNone)

/-- A portion of a command line that is accepted on its own: a word of switches, with the argument of the last of them where that is
another word. -/
structure Portion where
  /-- The switches. -/
  word : String
  /-- The argument, where it is a word of its own. -/
  argument? : Option String
  /-- What is asked for. -/
  asked : Arguments
  /-- The word stands for switches, the last of which has its argument. -/
  switches : IsSwitches word.toList argument?.isSome
  /-- The argument is no switch. -/
  operand : ∀ text ∈ argument?, Word.ofText text.toList = .ok .operand
  /-- The two are accepted. -/
  accepted : ofTexts (word :: argument?.toList) = .ok asked

namespace Portion

/-- The words of a portion. -/
def words (p : Portion) : List String := p.word :: p.argument?.toList

/-- The command line of several portions. -/
def line (ps : List Portion) : List String := ps.flatMap words

end Portion

/-- A word of switches that needs no other one is a portion. -/
theorem exists_portion_of_word {cs spelling : List Char} {s last : Switch} {attached left : Option (List Char)} {before : List Switch}
    {z : Arguments} (hs : switchesOf s spelling attached = .ok (before, last, left))
    (hlast : (last.takesArgument && left.isNone) = false) (hplain : Word.Plain [(cs, .switch s spelling attached)])
    (hz : ({} : Arguments).read [] [(cs, .switch s spelling attached)] = .ok z) :
    ∃ p : Portion, p.words.map String.toList = [cs] := by
  have hwords : [String.ofList cs].map String.toList = [cs] := by
    rw [List.map_singleton, String.toList_ofList]
  have hswitches : IsSwitches (String.ofList cs).toList false := by
    rw [String.toList_ofList]
    exact ⟨s, spelling, attached, before, last, left, hplain _ List.mem_cons_self, hs, hlast.symm⟩
  have haccepted : ofTexts [String.ofList cs] = .ok z := (ofTexts_of_plain hwords hplain).trans hz
  exact ⟨⟨String.ofList cs, none, z, hswitches, nofun, haccepted⟩, hwords⟩

/-- The words of an option are those of a portion. -/
theorem ReadsOption.exists_portion {x y : Arguments} {option : List (List Char × Word)} (h : ReadsOption x option y) (hx : x.Proper)
    (hplain : Word.Plain option) : ∃ p : Portion, p.words.map String.toList = option.map (·.1) := by
  have hread := h.read_eq
  rw [hx.read_eq] at hread
  obtain ⟨z, hz, -⟩ := exists_of_map_eq_ok hread
  cases h with
  | flags hs ht => exact exists_portion_of_word hs (by rw [ht]; rfl) hplain hz
  | joined hs => exact exists_portion_of_word hs (Bool.and_false _) hplain hz
  | @separate cs spelling text s last attached before _ _ hs ht =>
    have hwords : [String.ofList cs, String.ofList text].map String.toList = [cs, text] := by
      rw [List.map_cons, List.map_singleton, String.toList_ofList, String.toList_ofList]
    have hswitches : IsSwitches (String.ofList cs).toList true := by
      rw [String.toList_ofList]
      exact ⟨s, spelling, attached, before, last, none, hplain _ List.mem_cons_self, hs, by rw [ht]; rfl⟩
    have hoperand : ∀ argument ∈ some (String.ofList text), Word.ofText argument.toList = .ok .operand := by
      intro argument hargument
      obtain rfl := Option.mem_some_iff.mp hargument
      rw [String.toList_ofList]
      exact hplain _ (List.mem_cons_of_mem _ List.mem_cons_self)
    have haccepted : ofTexts [String.ofList cs, String.ofList text] = .ok z := (ofTexts_of_plain hwords hplain).trans hz
    exact ⟨⟨String.ofList cs, some (String.ofList text), z, hswitches, hoperand, haccepted⟩, hwords⟩

/-- The words of several options are those of several portions. -/
theorem Reads.exists_portions {x y : Arguments} {words : List (List Char × Word)} (h : Reads x words y) (hx : x.Proper)
    (hplain : Word.Plain words) : ∃ ps : List Portion, (Portion.line ps).map String.toList = words.map (·.1) := by
  induction h with
  | nil x => exact ⟨[], rfl⟩
  | @cons x y z option rest hoption hrest ih =>
    have hy : y.Proper := hx.readsOption hoption
    obtain ⟨p, hp⟩ := hoption.exists_portion hx fun q hq => hplain q (List.mem_append_left rest hq)
    obtain ⟨ps, hps⟩ := ih hy fun q hq => hplain q (List.mem_append_right option hq)
    refine ⟨p :: ps, ?_⟩
    rw [Portion.line, List.flatMap_cons, List.map_append, List.map_append, hp]
    exact congrArg _ hps

/-- An accepted line consists of portions. -/
theorem exists_line_eq {a : List String} {x : Arguments} (h : ofTexts a = .ok x) : ∃ ps : List Portion, Portion.line ps = a := by
  obtain ⟨classified, hwords, hplain, hreads⟩ := exists_reads h
  obtain ⟨ps, hps⟩ := hreads.exists_portions proper_default hplain
  exact ⟨ps, (List.map_inj_right fun _ _ => String.toList_inj.mp).mp (hps.trans hwords.symm)⟩

/-! ## What several portions ask for -/

/-- The last of some values that is set, or else `v`. -/
def lastSet (v : Value) (vs : List Value) : Value := ((vs.filter fun w => !w.isNull).getLast?).getD v

theorem lastSet_cons (v w : Value) (ws : List Value) : lastSet v (w :: ws) = lastSet (if w.isNull then v else w) ws := by
  unfold lastSet
  cases hw : w.isNull with
  | true => rw [List.filter_cons_of_neg (by simp [hw]), if_pos rfl]
  | false =>
    rw [List.filter_cons_of_pos (by simp [hw]), if_neg Bool.false_ne_true, List.getLast?_cons]
    rfl

/-- What a line asks for that asks for `x` and then for each of `ys`. -/
def gathered (x : Arguments) (ys : List Arguments) : Arguments where
  config := lastSet x.config (ys.map (·.config))
  backend := lastSet x.backend (ys.map (·.backend))
  environment := .bool (x.environment.isTruthy || ys.any (·.environment.isTruthy))
  compute := .bool (x.compute.isTruthy || ys.any (·.compute.isTruthy))

theorem gathered_cons (x y : Arguments) (ys : List Arguments) : gathered x (y :: ys) = gathered (x.join y) ys := by
  simp [gathered, join, lastSet_cons, Bool.or_assoc, Value.isTruthy]

theorem Proper.gathered_nil {x : Arguments} (hx : x.Proper) : gathered x [] = x := hx.join_default

/-- In another order, the same reports are asked for. -/
theorem gathered_perm (x : Arguments) {ys zs : List Arguments} (h : ys.Perm zs) :
    (gathered x ys).environment = (gathered x zs).environment ∧ (gathered x ys).compute = (gathered x zs).compute := by
  simp only [gathered, h.any_eq, and_self]

/-- Any portions may follow an accepted line. -/
theorem ofTexts_append_line {a : List String} {x : Arguments} (h : ofTexts a = .ok x) (ps : List Portion) :
    ofTexts (a ++ Portion.line ps) = .ok (gathered x (ps.map fun p => p.asked)) := by
  induction ps generalizing a x with
  | nil =>
    rw [List.map_nil, (proper_of_ofTexts h).gathered_nil, Portion.line, List.flatMap_nil, List.append_nil]
    exact h
  | cons p ps ih =>
    have haccepted : ofTexts p.words = .ok p.asked := p.accepted
    have hp : ofTexts (a ++ p.words) = .ok (x.join p.asked) := by
      rw [ofTexts_append h, haccepted]
      rfl
    rw [Portion.line, List.flatMap_cons, ← List.append_assoc, List.map_cons, gathered_cons]
    exact ih hp

/-- Any portions are a line that is accepted. -/
theorem ofTexts_line (ps : List Portion) : ofTexts (Portion.line ps) = .ok (gathered {} (ps.map fun p => p.asked)) :=
  @ofTexts_append_line [] {} rfl ps

/-! ## Accepted lines -/

/-- What comes of a command line on a terminal of some width: its arguments, or the exit of the program. -/
def outcome (columns : Nat) (words : List String) : Except Exit Arguments := (ofTexts words).mapError (Stop.exit columns)

theorem outcome_append {a : List String} {x : Arguments} (h : ofTexts a = .ok x) (columns : Nat) (b : List String) :
    outcome columns (a ++ b) = (outcome columns b).map x.join := by
  rw [outcome, outcome, ofTexts_append h]
  cases ofTexts b <;> rfl

/-- A value that is set at most by its switch is there where the switch is given an argument. -/
theorem isNull_given (text? : Option (List Char)) : ((text?.map argumentValue).getD .null).isNull = text?.isNone := by
  cases text? with
  | none => rfl
  | some text => exact argumentValue_isNull text

/-- What holds of a command line that asks for `x`, together with others. -/
structure Composes (a : List String) (x : Arguments) : Prop where
  /-- A line that makes the program exit makes it exit in the same way behind this one. -/
  exited : ∀ columns b e, outcome columns b = .error e → outcome columns (a ++ b) = .error e
  /-- A line that is accepted is accepted behind this one, and what it sets stands. -/
  accepted : ∀ columns b y, outcome columns b = .ok y → outcome columns (a ++ b) = .ok (x.join y)
  /-- It sets a value where the switch of that value is given an argument. -/
  sets : ∀ b y, ofTexts b = .ok y → y.config.isNull = (lastArgument .config (occurrencesOf b)).isNone ∧
    y.backend.isNull = (lastArgument .backend (occurrencesOf b)).isNone
  /-- The line consists of portions. In every other order they are accepted as well and ask for the same reports, and each value is
  the last that is set. -/
  portions : ∃ ps : List Portion, Portion.line ps = a ∧ ∀ qs : List Portion, qs.Perm ps →
    ∃ y, ofTexts (Portion.line qs) = .ok y ∧ y.environment = x.environment ∧ y.compute = x.compute ∧
      y.config = lastSet .null (qs.map (·.asked.config)) ∧ y.backend = lastSet .null (qs.map (·.asked.backend))
  /-- So it is with the single switches, in whatever words they stand on another accepted line. -/
  switches : ∀ b y, ofTexts b = .ok y → (occurrencesOf b).Perm (occurrencesOf a) →
    y.environment = x.environment ∧ y.compute = x.compute ∧
      y.config = ((lastArgument .config (occurrencesOf b)).map argumentValue).getD .null ∧
      y.backend = ((lastArgument .backend (occurrencesOf b)).map argumentValue).getD .null
  /-- Two hyphens are none of its words. -/
  unseparated : "--" ∉ a

/-- An accepted command line composes with every other. -/
theorem ofTexts_composes (a : List String) (x : Arguments) (h : ofTexts a = .ok x) : Composes a x := by
  refine ⟨?exited, ?accepted, ?sets, ?portions, ?switches, ?unseparated⟩
  case exited =>
    intro columns b e hb
    rw [outcome_append h, hb]
    rfl
  case accepted =>
    intro columns b y hb
    rw [outcome_append h, hb]
    rfl
  case sets =>
    intro b y hb
    have hy := (takes_ofTexts hb).after
    rw [hy]
    exact ⟨isNull_given _, isNull_given _⟩
  case portions =>
    obtain ⟨ps, hps⟩ := exists_line_eq h
    have hx : x = gathered {} (ps.map fun p => p.asked) := by
      have haccepted := ofTexts_line ps
      rw [hps, h] at haccepted
      exact Except.ok.inj haccepted
    refine ⟨ps, hps, ?_⟩
    intro qs hperm
    obtain ⟨henvironment, hcompute⟩ := gathered_perm {} (hperm.map fun p => p.asked)
    refine ⟨_, ofTexts_line qs, ?_, ?_, ?_, ?_⟩
    · rw [hx, henvironment]
    · rw [hx, hcompute]
    · simp only [gathered, List.map_map, Function.comp_def]
    · simp only [gathered, List.map_map, Function.comp_def]
  case switches =>
    intro b y hb hperm
    have hx := (takes_ofTexts h).after
    have hy := (takes_ofTexts hb).after
    have hoccurs (s : Switch) : occurs s (occurrencesOf b) = occurs s (occurrencesOf a) := hperm.any_eq
    refine ⟨?_, ?_, ?_, ?_⟩
    · rw [hy, hx, after, after, hoccurs]
    · rw [hy, hx, after, after, hoccurs .compute]
    · rw [hy, after]
    · rw [hy, after]
  case unseparated =>
    intro hmem
    obtain ⟨classified, hwords, hplain, -⟩ := exists_reads h
    have hmem : "--".toList ∈ classified.map (·.1) := hwords ▸ List.mem_map_of_mem hmem
    obtain ⟨p, hp, heq⟩ := List.mem_map.mp hmem
    exact Word.ne_hyphens_of_ofText (hplain p hp) heq

/-- Joined switches and one that is cut short; then another backend behind them, or one that there is not. -/
theorem ofTexts_composes_joined :
    let a := ["-ecprobe.toml", "--back", "torch"]
    let x : Arguments := { config := .str "probe.toml", backend := .str "torch", environment := .bool true }
    ofTexts a = .ok x ∧ outcome 80 (a ++ ["-btensorflow"]) = .ok { x with backend := .str "tensorflow" } ∧
      ∃ e, outcome 80 (a ++ ["-b", "jax"]) = .error e ∧ e.code = 2 := by
  intro a x
  have hjoined : ofTexts ["-ecprobe.toml"] = .ok { config := .str "probe.toml", environment := .bool true } := rfl
  have hshort : ofTexts ["--back", "torch"] = .ok { backend := .str "torch" } := rfl
  have h : ofTexts a = .ok x := by
    change ofTexts (["-ecprobe.toml"] ++ ["--back", "torch"]) = .ok x
    rw [ofTexts_append hjoined, hshort]
    rfl
  have hcomposes := ofTexts_composes a x h
  have hlater : outcome 80 ["-btensorflow"] = .ok { backend := .str "tensorflow" } := rfl
  have hstop : ofTexts ["-b", "jax"] = .error (.wrong (.invalidChoice .backend ['j', 'a', 'x'])) := rfl
  refine ⟨h, hcomposes.accepted 80 _ _ hlater, ?_⟩
  refine ⟨_, hcomposes.exited 80 _ (Stop.exit 80 (.wrong (.invalidChoice .backend ['j', 'a', 'x']))) ?_, rfl⟩
  rw [outcome, hstop]
  rfl

end Arguments

end AccelProbe
