import AccelProbe.Configuration.Validation
import AccelProbe.Logging.State

/-!
# What the validation of a configuration lets through

`Acceptable` says of the fields, one by one and without an order, what a run can use; `validate` lets a configuration through exactly
when it is acceptable. What it lets through is `Normal`: every field is of one kind, and the names of the library and the log level
are spelled in one way. The log can always be set up with the level of a normal configuration.
-/

namespace AccelProbe

namespace Configuration

/-- Whether a value is an integer of at least `least`. -/
def IsIntegerFrom (least : Int) (v : Value) : Prop := ∃ n, v = .int n ∧ least ≤ n

/-- Whether a run can use the fields of a configuration as they were given. -/
structure Acceptable (c : Configuration) : Prop where
  /-- The backend is the name of a library in any letter case. -/
  backend : ∃ s l, c.backend = .str s ∧ Text.lower s = Library.key l
  /-- The shape is a list or a tuple of positive integers with one at least. -/
  shape : ∃ sizes, (c.shape = .list sizes ∨ c.shape = .tuple sizes) ∧ sizes ≠ [] ∧ ∀ v ∈ sizes, IsIntegerFrom 1 v
  /-- The device index is an integer from zero on. -/
  deviceIndex : IsIntegerFrom 0 c.deviceIndex
  /-- The size of the matrix is a positive integer. -/
  computeSize : IsIntegerFrom 1 c.computeSize
  /-- The flag of the environment report is a truth value. -/
  reportEnvironment : ∃ b, c.reportEnvironment = .bool b
  /-- The flag of the compute check is a truth value. -/
  checkCompute : ∃ b, c.checkCompute = .bool b
  /-- The log level is the name of one in any letter case. -/
  logLevel : ∃ s, c.logLevel = .str s ∧ Text.upper s ∈ Level.choices

/-- Whether a configuration is in normal form. -/
structure Normal (c : Configuration) : Prop where
  /-- The backend is the name of a library. -/
  backend : ∃ l, c.backend = .str (Library.key l)
  /-- The shape is a tuple of positive integers with one at least. -/
  shape : ∃ sizes, c.shape = .tuple sizes ∧ sizes ≠ [] ∧ ∀ v ∈ sizes, IsIntegerFrom 1 v
  /-- The device index is an integer from zero on. -/
  deviceIndex : IsIntegerFrom 0 c.deviceIndex
  /-- The size of the matrix is a positive integer. -/
  computeSize : IsIntegerFrom 1 c.computeSize
  /-- The flag of the environment report is a truth value. -/
  reportEnvironment : ∃ b, c.reportEnvironment = .bool b
  /-- The flag of the compute check is a truth value. -/
  checkCompute : ∃ b, c.checkCompute = .bool b
  /-- The log level is the name of one. -/
  logLevel : ∃ level ∈ Level.choices, c.logLevel = .str level

/-- A text in another letter case, or else the value itself. -/
def changeText (change : String → String) : Value → Value
  | .str s => .str (change s)
  | v => v

/-- A configuration with its library in lower case, its shape as a tuple and its log level in upper case. -/
def normalForm (c : Configuration) : Configuration :=
  { c with
    backend := changeText Text.lower c.backend
    shape := .tuple ((sizes? c.shape).getD [])
    logLevel := changeText Text.upper c.logLevel }

/-! ## The checks of single fields -/

theorem backend?_eq_some_iff {v : Value} {l : Library} : backend? v = some l ↔ ∃ s, v = .str s ∧ Text.lower s = l.key := by
  cases v with
  | str s => simp [backend?, Library.named?, Library.ofKey?_eq_some_iff]
  | _ => simp [backend?]

theorem sizes?_eq_some_iff {v : Value} {sizes : List Value} : sizes? v = some sizes ↔ v = .list sizes ∨ v = .tuple sizes := by
  cases v <;> simp [sizes?]

theorem isIntegerFrom_iff {least : Int} {v : Value} : isIntegerFrom least v = true ↔ IsIntegerFrom least v := by
  cases v <;> simp [isIntegerFrom, IsIntegerFrom]

theorem isFlag_iff {v : Value} : isFlag v = true ↔ ∃ b, v = .bool b := by
  cases v <;> simp [isFlag]

theorem logLevel?_eq_some_iff {v : Value} {level : String} :
    logLevel? v = some level ↔ ∃ s, v = .str s ∧ Text.upper s = level ∧ level ∈ Level.choices := by
  cases v with
  | str s =>
    simp only [logLevel?, Value.str.injEq, exists_eq_left', Option.ite_none_right_eq_some, Option.some.injEq,
      List.contains_iff_mem]
    exact ⟨fun ⟨hm, he⟩ => ⟨he, he ▸ hm⟩, fun ⟨he, hm⟩ => ⟨he ▸ hm, he⟩⟩
  | _ => simp [logLevel?]

theorem shapeFault?_eq_none_iff {sizes : List Value} :
    shapeFault? sizes = none ↔ sizes ≠ [] ∧ ∀ v ∈ sizes, IsIntegerFrom 1 v := by
  unfold shapeFault?
  cases sizes with
  | nil => simp
  | cons v rest =>
    simp only [← isIntegerFrom_iff, ← List.all_eq_true]
    cases (v :: rest).all (isIntegerFrom 1) <;> simp

theorem numberFault?_eq_none_iff {c : Configuration} :
    numberFault? c = none ↔ IsIntegerFrom 0 c.deviceIndex ∧ IsIntegerFrom 1 c.computeSize ∧ (∃ b, c.reportEnvironment = .bool b) ∧
      ∃ b, c.checkCompute = .bool b := by
  simp only [← isIntegerFrom_iff, ← isFlag_iff]
  unfold numberFault?
  cases isIntegerFrom 0 c.deviceIndex <;> cases isIntegerFrom 1 c.computeSize <;> cases isFlag c.reportEnvironment <;>
    cases isFlag c.checkCompute <;> simp

/-! ## The whole validation -/

/-- What the validation lets through is acceptable, and is in normal form afterwards. -/
theorem acceptable_and_normal_of_validate {c n : Configuration} (h : c.validate = (n, none)) : c.Acceptable ∧ n.Normal := by
  unfold validate at h
  split at h
  · cases h
  next l hl =>
  obtain ⟨s, hs, hlower⟩ := backend?_eq_some_iff.mp hl
  dsimp only at h
  split at h
  · cases h
  next sizes hsizes =>
  unfold validateRest at h
  split at h
  · cases h
  next hshape =>
  obtain ⟨hne, hpos⟩ := shapeFault?_eq_none_iff.mp hshape
  split at h
  · cases h
  next hnumber =>
  obtain ⟨hindex, hsize, henv, hcompute⟩ := numberFault?_eq_none_iff.mp hnumber
  split at h
  case h_2 => cases h
  next level hlevel =>
  obtain ⟨text, htext, hupper, hmem⟩ := logLevel?_eq_some_iff.mp hlevel
  cases h
  exact ⟨⟨⟨s, l, hs, hlower⟩, ⟨sizes, sizes?_eq_some_iff.mp hsizes, hne, hpos⟩, hindex, hsize, henv, hcompute,
      ⟨text, htext, hupper ▸ hmem⟩⟩,
    ⟨⟨l, rfl⟩, ⟨sizes, rfl, hne, hpos⟩, hindex, hsize, henv, hcompute, ⟨level, hmem, rfl⟩⟩⟩

/-- The validation lets through what is acceptable, and brings it to its normal form. -/
theorem Acceptable.validate_eq {c : Configuration} (h : c.Acceptable) : c.validate = (c.normalForm, none) := by
  obtain ⟨s, l, hs, hlower⟩ := h.backend
  obtain ⟨sizes, hsizes, hshape⟩ := h.shape
  obtain ⟨text, htext, hmem⟩ := h.logLevel
  have hnumber : numberFault? { c with backend := .str l.key, shape := .tuple sizes } = none :=
    numberFault?_eq_none_iff.mpr ⟨h.deviceIndex, h.computeSize, h.reportEnvironment, h.checkCompute⟩
  have hnormal : c.normalForm = { c with backend := .str l.key, shape := .tuple sizes, logLevel := .str (Text.upper text) } := by
    rw [normalForm, hs, htext, sizes?_eq_some_iff.mpr hsizes, ← hlower]
    rfl
  rw [hnormal, validate, backend?_eq_some_iff.mpr ⟨s, hs, hlower⟩]
  dsimp only
  rw [sizes?_eq_some_iff.mpr hsizes]
  dsimp only
  rw [validateRest, shapeFault?_eq_none_iff.mpr hshape]
  dsimp only
  rw [hnumber]
  dsimp only
  rw [logLevel?_eq_some_iff.mpr ⟨text, htext, rfl, hmem⟩]

/-- The names of the log levels are in upper case. -/
theorem upper_of_mem_choices {level : String} (h : level ∈ Level.choices) : Text.upper level = level := by
  simp only [Level.choices, List.mem_cons, List.not_mem_nil, or_false] at h
  rcases h with rfl | rfl | rfl | rfl | rfl <;> rfl

/-- A configuration in normal form is acceptable. -/
theorem Normal.acceptable {c : Configuration} (h : c.Normal) : c.Acceptable where
  backend := h.backend.elim fun l hl => ⟨l.key, l, hl, by cases l <;> rfl⟩
  shape := h.shape.imp fun _ ⟨hs, hrest⟩ => ⟨Or.inr hs, hrest⟩
  deviceIndex := h.deviceIndex
  computeSize := h.computeSize
  reportEnvironment := h.reportEnvironment
  checkCompute := h.checkCompute
  logLevel := h.logLevel.imp fun level ⟨hmem, hl⟩ => ⟨hl, (upper_of_mem_choices hmem).symm ▸ hmem⟩

/-- A configuration in normal form is its own normal form. -/
theorem Normal.normalForm_eq {c : Configuration} (h : c.Normal) : c.normalForm = c := by
  obtain ⟨l, hbackend⟩ := h.backend
  obtain ⟨sizes, hshape, _⟩ := h.shape
  obtain ⟨level, hmem, hlevel⟩ := h.logLevel
  have hl : Text.lower l.key = l.key := by cases l <;> rfl
  rw [normalForm, hbackend, hshape, hlevel, changeText, changeText, hl, upper_of_mem_choices hmem]
  cases c
  cases hbackend
  cases hshape
  cases hlevel
  rfl

/-- The validation lets a configuration in normal form through unchanged. -/
theorem Normal.validate_eq {c : Configuration} (h : c.Normal) : c.validate = (c, none) := by
  rw [h.acceptable.validate_eq, h.normalForm_eq]

/-- The configuration that nothing else is said of is in normal form. -/
theorem standard_normal : standard.Normal where
  backend := ⟨.torch, rfl⟩
  shape := ⟨_, rfl, nofun, by simp [IsIntegerFrom]⟩
  deviceIndex := ⟨0, rfl, Int.le_refl 0⟩
  computeSize := ⟨1000, rfl, by decide⟩
  reportEnvironment := ⟨false, rfl⟩
  checkCompute := ⟨false, rfl⟩
  logLevel := ⟨"INFO", by decide, rfl⟩

/-- Each name of a log level stands for a level. -/
theorem meaning?_of_mem_choices {level : String} (h : level ∈ Level.choices) :
    ∃ n, Logging.meaning? level = some (.level n) := by
  simp only [Level.choices, List.mem_cons, List.not_mem_nil, or_false] at h
  rcases h with rfl | rfl | rfl | rfl | rfl
  · exact ⟨_, rfl⟩
  · exact ⟨_, rfl⟩
  · exact ⟨_, rfl⟩
  · exact ⟨_, rfl⟩
  · exact ⟨_, rfl⟩

/-- The log can be set up with the level of a configuration in normal form. -/
theorem Normal.setUp_eq {c : Configuration} (h : c.Normal) (logging : Logging) :
    ∃ prepared, logging.setUp c.logLevel = (prepared, none) := by
  obtain ⟨level, hmem, hlevel⟩ := h.logLevel
  obtain ⟨n, hn⟩ := meaning?_of_mem_choices hmem
  have hup : logging.setUp c.logLevel = logging.attach (.level n) := by
    simp only [hlevel, Logging.setUp, upper_of_mem_choices hmem, hn]
  rw [hup, Logging.attach]
  split
  · exact ⟨_, rfl⟩
  · exact ⟨_, rfl⟩

end Configuration

end AccelProbe
