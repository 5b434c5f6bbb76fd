import AccelProbe.Proofs.CommandLine.Options

/-!
# What a command line can ask for

Each switch puts a value of one kind in its place, so whatever the words are, the arguments they give are `Proper`: a flag is a truth
value, and a backend is the name of a library. Two hyphens as the argument of a switch leave an empty list there instead of a text.
-/

namespace AccelProbe

namespace Arguments

/-- Whether arguments hold what a command line can give. -/
structure Proper (a : Arguments) : Prop where
  /-- There is no backend, or a library, or the empty list. -/
  backend : a.backend = .null ∨ (∃ l, a.backend = .str (Library.key l)) ∨ a.backend = .list []
  /-- The flag of the environment report is a truth value. -/
  environment : ∃ b, a.environment = .bool b
  /-- The flag of the compute check is a truth value. -/
  compute : ∃ b, a.compute = .bool b

/-- The arguments of an empty command line are proper. -/
theorem proper_default : Proper {} := ⟨Or.inl rfl, ⟨false, rfl⟩, ⟨false, rfl⟩⟩

/-- A switch without argument keeps arguments proper. -/
theorem Proper.flag {a b : Arguments} {s : Switch} (ha : a.Proper) (h : a.flag s = .ok b) : b.Proper := by
  cases s with
  | help => cases h
  | environment =>
    cases h
    exact ⟨ha.backend, ⟨true, rfl⟩, ha.compute⟩
  | compute =>
    cases h
    exact ⟨ha.backend, ha.environment, ⟨true, rfl⟩⟩
  | _ =>
    cases h
    exact ha

/-- Several switches without argument keep arguments proper. -/
theorem Proper.flags {a b : Arguments} {switches : List Switch} (ha : a.Proper) (h : a.flags switches = .ok b) : b.Proper := by
  induction switches generalizing a with
  | nil =>
    cases h
    exact ha
  | cons s rest ih =>
    unfold Arguments.flags at h
    rw [List.foldlM_cons] at h
    obtain ⟨a', hs, h⟩ := exists_of_bind_eq_ok h
    exact ih (ha.flag hs) h

/-- The argument of a switch is a value, even where it is taken away. -/
theorem argumentValue_isNull (cs : List Char) : (argumentValue cs).isNull = false := by
  unfold argumentValue
  split <;> rfl

/-- What the switch of the backend allows is the name of a library or two hyphens. -/
theorem backend_of_allows {cs : List Char} (h : allows .backend cs = true) :
    (∃ l, argumentValue cs = .str (Library.key l)) ∨ argumentValue cs = .list [] := by
  unfold argumentValue
  by_cases hc : cs = ['-', '-']
  · exact Or.inr (if_pos hc)
  · rw [if_neg hc]
    refine Or.inl ?_
    simp only [allows, Switch.choices?, Library.keys, Library.all, List.map, Bool.or_eq_true, beq_iff_eq, hc, false_or,
      List.contains_iff_mem, List.mem_cons, List.not_mem_nil, or_false] at h
    rcases h with h | h
    · exact ⟨.torch, by rw [h]⟩
    · exact ⟨.tensorflow, by rw [h]⟩

/-- A switch with its argument keeps arguments proper. -/
theorem Proper.argument {a b : Arguments} {s : Switch} {cs : List Char} (ha : a.Proper) (h : a.argument s cs = .ok b) :
    b.Proper := by
  unfold Arguments.argument at h
  split at h
  · next hallows =>
    cases s with
    | backend =>
      cases h
      exact ⟨Or.inr (backend_of_allows hallows), ha.environment, ha.compute⟩
    | config =>
      cases h
      exact ⟨ha.backend, ha.environment, ha.compute⟩
    | _ =>
      cases h
      exact ha
  · cases h

/-- An option keeps arguments proper. -/
theorem Proper.readsOption {a b : Arguments} {option : List (List Char × Word)} (ha : a.Proper) (h : ReadsOption a option b) :
    b.Proper := by
  cases h with
  | flags _ _ hflags => exact ha.flags hflags
  | joined _ _ hflags hargument => exact (ha.flags hflags).argument hargument
  | separate _ _ hflags hargument => exact (ha.flags hflags).argument hargument

/-- Several options keep arguments proper. -/
theorem Proper.reads {a b : Arguments} {words : List (List Char × Word)} (ha : a.Proper) (h : Reads a words b) : b.Proper := by
  induction h with
  | nil a => exact ha
  | cons hoption _ ih => exact ih (ha.readsOption hoption)

/-- The arguments of a command line are proper. -/
theorem proper_of_ofTexts {texts : List String} {a : Arguments} (h : ofTexts texts = .ok a) : a.Proper := by
  obtain ⟨_, _, _, hreads⟩ := exists_reads h
  exact proper_default.reads hreads

end Arguments

end AccelProbe
