import AccelProbe.Configuration.Object
import AccelProbe.Proofs.Configuration.Conditions

/-!
# Validating a configuration again

A validation brings the fields to their normal form one after the other and stops at the first that it refuses, so a configuration may
be left half way. A second validation finds what the first one changed as it would leave it, and stops at the same field for the same
reason. What a validation that fails may have changed is the name of the library and the shape. A configuration that passed can be made
anew from its own fields.
-/

namespace AccelProbe

namespace Configuration

/-- A list as a tuple, or else the value itself. -/
def tupled : Value → Value
  | .list sizes => .tuple sizes
  | v => v

/-- What one validation of a configuration does, and what a second one does right after it. -/
structure Steady (c : Configuration) : Prop where
  /-- The second changes nothing and ends as the first did. -/
  again : c.validate.1.validate = c.validate
  /-- So it is for the configuration as an object, whatever other attributes were assigned to it. -/
  asObject : ∀ others : Fields,
    (Object.validate ⟨c, others⟩).1.validate = Object.validate ⟨c, others⟩
  /-- A configuration without the name of a library is refused and left as it was. -/
  unnamed : ¬ Condition.backend.Holds c → c.validate = (c, some (.unknownBackend c.backend))
  /-- One that is refused for anything else has its library in lower case and its shape as a tuple if that is a collection; all other
  fields are left as they were. -/
  refused : ∀ fault, c.validate.2 = some fault → Condition.backend.Holds c →
    c.validate.1 = { c with backend := changeText Text.lower c.backend, shape := tupled c.shape }
  /-- One that passes can be made anew from its fields, and the new one is the same and compares as equal. -/
  rebuilt : c.validate.2 = none →
    make c.validate.1.fields = .ok c.validate.1 ∧ Fields.same c.validate.1.fields c.validate.1.fields = true

/-! ## How far a validation goes -/

variable {c : Configuration} {l : Library} {sizes : List Value}

/-- The key of a library names it. -/
theorem backend?_key (l : Library) : backend? (.str l.key) = some l := by
  cases l <;> rfl

/-- A validation that finds a library and a collection of sizes settles both and makes the other checks. -/
theorem validate_of_sizes (hl : backend? c.backend = some l) (hs : sizes? c.shape = some sizes) :
    c.validate = validateRest { c with backend := .str l.key, shape := .tuple sizes } sizes := by
  rw [validate, hl]
  dsimp only
  rw [hs]

/-- The checks from the sizes on change nothing when one of them fails, and only the log level when all of them pass. -/
theorem validateRest_cases (c : Configuration) (sizes : List Value) :
    (∃ fault, validateRest c sizes = (c, some fault)) ∨
      ∃ level, validateRest c sizes = ({ c with logLevel := .str level }, none) := by
  unfold validateRest
  cases shapeFault? sizes with
  | some fault => exact Or.inl ⟨fault, rfl⟩
  | none =>
    cases numberFault? c with
    | some fault => exact Or.inl ⟨fault, rfl⟩
    | none =>
      cases logLevel? c.logLevel with
      | some level => exact Or.inr ⟨level, rfl⟩
      | none => exact Or.inl ⟨_, rfl⟩

/-- How a validation goes: it stops at the library, it stops at the shape, it stops at a later field, or it passes. -/
theorem validate_cases (c : Configuration) :
    (backend? c.backend = none ∧ c.validate = (c, some (.unknownBackend c.backend))) ∨
    (∃ l, backend? c.backend = some l ∧ sizes? c.shape = none ∧
      c.validate = ({ c with backend := .str l.key }, some (.shapeNotAList c.shape))) ∨
    (∃ l sizes fault, backend? c.backend = some l ∧ sizes? c.shape = some sizes ∧
      c.validate = ({ c with backend := .str l.key, shape := .tuple sizes }, some fault)) ∨
    c.validate.1.Normal ∧ c.validate.2 = none := by
  cases hl : backend? c.backend with
  | none =>
    refine Or.inl ⟨rfl, ?_⟩
    rw [validate, hl]
  | some l =>
    refine Or.inr ?_
    cases hs : sizes? c.shape with
    | none =>
      refine Or.inl ⟨l, rfl, rfl, ?_⟩
      rw [validate, hl]
      dsimp only
      rw [hs]
    | some sizes =>
      refine Or.inr ?_
      have hrest := validate_of_sizes hl hs
      rcases validateRest_cases { c with backend := .str l.key, shape := .tuple sizes } sizes with ⟨fault, hf⟩ | ⟨level, hp⟩
      · exact Or.inl ⟨l, sizes, fault, rfl, rfl, hrest.trans hf⟩
      · have hpassed := hrest.trans hp
        rw [hpassed]
        exact Or.inr ⟨(acceptable_and_normal_of_validate hpassed).2, rfl⟩

/-! ## A second validation -/

/-- A second validation right after the first changes nothing and ends as the first did. -/
theorem validate_again (c : Configuration) : c.validate.1.validate = c.validate := by
  rcases validate_cases c with ⟨-, hv⟩ | ⟨l, -, hs, hv⟩ | ⟨l, sizes, fault, hl, hs, hv⟩ | ⟨hnormal, hpassed⟩
  · rw [hv]
    exact hv
  · rw [hv, validate, backend?_key]
    dsimp only
    rw [hs]
  · have hrest := (validate_of_sizes hl hs).symm.trans hv
    -- the library and the shape that were settled are settled again to what they are
    rw [hv, validate_of_sizes (backend?_key l) rfl]
    exact hrest
  · rw [hnormal.validate_eq, ← hpassed]

/-- So it is for an object: where a value has taken the place of its check, neither validation does anything. -/
theorem Object.validate_again (o : Object) : o.validate.1.validate = o.validate := by
  have hsecond (o' : Object) (hothers : o'.others = o.others) (hfields : o'.fields.validate = o.fields.validate)
      (hcheck : o.others.lookup checkAttribute = none) : o'.validate = o.validate := by
    unfold Object.validate
    rw [hothers, hcheck]
    dsimp only
    rw [hfields]
  cases hcheck : o.others.lookup checkAttribute with
  | some v =>
    have hv : o.validate = (o, some (.notCallable v.kind)) := by
      rw [Object.validate, hcheck]
    rw [hv]
    exact hv
  | none =>
    have hv : o.validate.1 = { o with fields := o.fields.validate.1 } := by
      rw [Object.validate, hcheck]
    exact hsecond o.validate.1 (by rw [hv]) (by rw [hv]; exact Configuration.validate_again o.fields) hcheck

/-! ## A configuration from its own fields -/

/-- The fields of a configuration are those of a configuration. -/
theorem ofFields_fields (c : Configuration) : ofFields c.fields = c := by
  cases c
  rfl

/-- The fields of a configuration have the names of fields. -/
theorem mem_names_of_mem_fields {f : String × Value} (h : f ∈ c.fields) : f.1 ∈ signature.names := by
  have hnames : c.fields.map (·.1) = signature.names := rfl
  rw [← hnames]
  exact List.mem_map_of_mem h

/-- A configuration in normal form comes of its own fields. -/
theorem Normal.make_fields (h : c.Normal) : make c.fields = .ok c := by
  rw [make_eq fun _ hf => mem_names_of_mem_fields hf, ofFields_fields, verdict, h.validate_eq]
  rfl

/-- An integer equals itself. -/
theorem IsIntegerFrom.same {least : Int} {v : Value} (h : IsIntegerFrom least v) : Value.same v v = true := by
  obtain ⟨n, rfl, -⟩ := h
  simp [Value.same, Value.integer?]

/-- Integers equal themselves, one by one. -/
theorem sameEach_of_isIntegerFrom {least : Int} {sizes : List Value} (h : ∀ v ∈ sizes, IsIntegerFrom least v) :
    Value.sameEach sizes sizes = true := by
  induction sizes with
  | nil => rfl
  | cons v rest ih =>
    have hv := (h v List.mem_cons_self).same
    have hrest := ih fun w hw => h w (List.mem_cons_of_mem v hw)
    simp only [Value.sameEach, hv, hrest, Bool.and_self]

/-- The fields of a configuration in normal form compare as equal to themselves. -/
theorem Normal.same_fields (h : c.Normal) : Fields.same c.fields c.fields = true := by
  obtain ⟨l, hbackend⟩ := h.backend
  obtain ⟨sizes, hshape, -, hsizes⟩ := h.shape
  obtain ⟨environment, henvironment⟩ := h.reportEnvironment
  obtain ⟨compute, hcompute⟩ := h.checkCompute
  obtain ⟨level, -, hlevel⟩ := h.logLevel
  have heach := sameEach_of_isIntegerFrom hsizes
  have hindex := h.deviceIndex.same
  have hsize := h.computeSize.same
  simp only [Fields.same, fields, List.map_cons, List.map_nil, hbackend, hshape, henvironment, hcompute, hlevel]
  simp [Value.sameEach, Value.same, Value.integer?, heach, hindex, hsize]

/-- Whatever values the fields of a configuration have, a validation right after another one changes nothing and ends as the first did.
One that fails leaves all fields but the library and the shape as they were, and these too where the library has no name. What passes
can be made anew from its own fields. -/
theorem validate_steady (c : Configuration) : Steady c := by
  refine ⟨validate_again c, fun others => Object.validate_again ⟨c, others⟩, ?unnamed, ?refused, ?rebuilt⟩
  case unnamed =>
    intro h
    have hl : backend? c.backend = none := by
      have hviolated := mt Condition.isViolated_eq_false_iff.mp h
      simpa [Condition.isViolated] using hviolated
    rw [validate, hl]
  case refused =>
    intro fault hf h
    have hlower (l : Library) (hl : backend? c.backend = some l) : changeText Text.lower c.backend = .str l.key := by
      obtain ⟨s, hs, hkey⟩ := backend?_eq_some_iff.mp hl
      rw [hs, changeText, hkey]
    rcases validate_cases c with ⟨hl, -⟩ | ⟨l, hl, hs, hv⟩ | ⟨l, sizes, other, hl, hs, hv⟩ | ⟨-, hpassed⟩
    · obtain ⟨s, l, hs, hkey⟩ := h
      cases hl.symm.trans (backend?_eq_some_iff.mpr ⟨s, hs, hkey⟩)
    · have hshape : tupled c.shape = c.shape := by
        cases hc : c.shape with
        | list items => cases hc ▸ hs
        | _ => rfl
      rw [hv, hlower l hl, hshape]
    · have hshape : tupled c.shape = .tuple sizes := by
        rcases sizes?_eq_some_iff.mp hs with hc | hc
        · exact congrArg tupled hc
        · exact congrArg tupled hc
      rw [hv, hlower l hl, hshape]
    · cases hpassed.symm.trans hf
  case rebuilt =>
    intro hpassed
    have hnormal := (acceptable_and_normal_of_validate (Prod.ext rfl hpassed : c.validate = (c.validate.1, none))).2
    exact ⟨hnormal.make_fields, hnormal.same_fields⟩

/-- A configuration whose library and shape can be settled, and whose device index cannot be used. -/
def halfway : Configuration := { backend := .str "TORCH", shape := .list [.int 2], deviceIndex := .int (-1), logLevel := .str "info" }

/-- The validation of `halfway` settles the library and the shape and not the log level, and so does the next. -/
theorem validate_steady_halfway :
    Condition.backend.Holds halfway ∧ halfway.validate.2 = some (.badDeviceIndex (.int (-1))) ∧
      halfway.validate.1 = { halfway with backend := .str "torch", shape := .tuple [.int 2] } ∧
      halfway.validate.1.validate = halfway.validate := by
  have hbackend : Condition.backend.Holds halfway := ⟨"TORCH", .torch, rfl, rfl⟩
  exact ⟨hbackend, rfl, (validate_steady halfway).refused _ rfl hbackend, (validate_steady halfway).again⟩

end Configuration

end AccelProbe
