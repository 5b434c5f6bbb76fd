import AccelProbe.Proofs.Basic
import AccelProbe.Proofs.Configuration.Examination
import AccelProbe.Proofs.Configuration.Loading

/-!
# Which condition a refused configuration is refused for

A configuration has to meet nine conditions. They are stated here one by one, each with the fault that names it and with the message
that shows the value it is violated by. Several of them may be violated at once; the fault is always that of the first one in the
order of `Condition.all`, whatever holds of those after it.
-/

namespace AccelProbe

namespace Configuration

/-- A condition that a configuration has to meet. -/
inductive Condition where
  /-- The backend is the name of a library in any letter case. -/
  | backend
  /-- The shape is a list or a tuple. -/
  | shapeKind
  /-- The shape has a dimension. -/
  | shapeLength
  /-- The dimensions are positive integers. -/
  | dimensions
  /-- The device index is an integer from zero on. -/
  | deviceIndex
  /-- The size of the matrix is a positive integer. -/
  | computeSize
  /-- The flag of the environment report is a truth value. -/
  | reportEnvironment
  /-- The flag of the compute check is a truth value. -/
  | checkCompute
  /-- The log level is the name of one in any letter case. -/
  | logLevel
deriving DecidableEq, Repr

namespace Condition

/-- All conditions, in the order in which they are looked at. -/
def all : List Condition :=
  [backend, shapeKind, shapeLength, dimensions, deviceIndex, computeSize, reportEnvironment, checkCompute, logLevel]

/-- Whether a configuration meets a condition. -/
def Holds (c : Configuration) : Condition → Prop
  | backend => ∃ s l, c.backend = .str s ∧ Text.lower s = Library.key l
  | shapeKind => ∃ sizes, c.shape = .list sizes ∨ c.shape = .tuple sizes
  | shapeLength => ∀ sizes, c.shape = .list sizes ∨ c.shape = .tuple sizes → sizes ≠ []
  | dimensions => ∀ sizes, c.shape = .list sizes ∨ c.shape = .tuple sizes → ∀ v ∈ sizes, IsIntegerFrom 1 v
  | deviceIndex => IsIntegerFrom 0 c.deviceIndex
  | computeSize => IsIntegerFrom 1 c.computeSize
  | reportEnvironment => ∃ b, c.reportEnvironment = .bool b
  | checkCompute => ∃ b, c.checkCompute = .bool b
  | logLevel => ∃ s, c.logLevel = .str s ∧ Text.upper s ∈ Level.choices

/-- The sizes of a shape, of which there are none where it is no collection. -/
def sizes (c : Configuration) : List Value := (sizes? c.shape).getD []

/-- The value that violates a condition, as the message about it shows it. -/
def offending (c : Configuration) : Condition → Value
  | backend => c.backend
  | shapeKind => c.shape
  | shapeLength => .tuple (sizes c)
  | dimensions => .list (sizes c)
  | deviceIndex => c.deviceIndex
  | computeSize => c.computeSize
  | reportEnvironment => c.reportEnvironment
  | checkCompute => c.checkCompute
  | logLevel => c.logLevel

/-- The fault of a configuration that violates a condition. -/
def fault (c : Configuration) : Condition → Fault
  | backend => .unknownBackend c.backend
  | shapeKind => .shapeNotAList c.shape
  | shapeLength => .shapeEmpty
  | dimensions => .badDimension (sizes c)
  | deviceIndex => .badDeviceIndex c.deviceIndex
  | computeSize => .badComputeSize c.computeSize
  | reportEnvironment => .badFlag "report_environment" c.reportEnvironment
  | checkCompute => .badFlag "check_compute" c.checkCompute
  | logLevel => .unknownLogLevel c.logLevel

/-- The message about a condition, around the source text of the value that violates it. -/
def wording (shown : String) : Condition → String
  | backend => "Unknown backend " ++ shown ++ ". Available: " ++ "['torch', 'tensorflow']"
  | shapeKind => "Tensor shape must be a list of integers. Got: " ++ shown
  | shapeLength => "Tensor shape must have at least one dimension"
  | dimensions => "Tensor dimensions must be positive integers. Got: " ++ shown
  | deviceIndex => "Device index must be a non-negative integer. Got: " ++ shown
  | computeSize => "Compute size must be a positive integer. Got: " ++ shown
  | reportEnvironment => "report_environment must be true or false. Got: " ++ shown
  | checkCompute => "check_compute must be true or false. Got: " ++ shown
  | logLevel => "Unknown log level " ++ shown ++ ". Available: " ++ "['DEBUG', 'INFO', 'WARNING', 'ERROR', 'CRITICAL']"

/-- Whether a condition is violated, and all those before it are met. -/
def First (c : Configuration) (k : Condition) : Prop :=
  ∃ before after, all = before ++ k :: after ∧ (∀ earlier ∈ before, earlier.Holds c) ∧ ¬ k.Holds c

/-! ## Conditions as tests -/

/-- Whether a configuration violates a condition, worked out. -/
def isViolated (c : Configuration) : Condition → Bool
  | backend => (backend? c.backend).isNone
  | shapeKind => (sizes? c.shape).isNone
  | shapeLength => (sizes? c.shape).any (·.isEmpty)
  | dimensions => (sizes? c.shape).any fun sizes => !sizes.all (isIntegerFrom 1)
  | deviceIndex => !isIntegerFrom 0 c.deviceIndex
  | computeSize => !isIntegerFrom 1 c.computeSize
  | reportEnvironment => !isFlag c.reportEnvironment
  | checkCompute => !isFlag c.checkCompute
  | logLevel => (logLevel? c.logLevel).isNone

theorem isViolated_eq_false_iff {c : Configuration} {k : Condition} : k.isViolated c = false ↔ k.Holds c := by
  cases k with
  | backend =>
    simp only [isViolated, Holds, Option.isNone_eq_false_iff, Option.isSome_iff_exists, backend?_eq_some_iff]
    exact exists_comm
  | shapeKind => simp only [isViolated, Holds, Option.isNone_eq_false_iff, Option.isSome_iff_exists, sizes?_eq_some_iff]
  | shapeLength => simp only [isViolated, Holds, Option.any_eq_false, sizes?_eq_some_iff, List.isEmpty_eq_false_iff]
  | dimensions =>
    simp only [isViolated, Holds, Option.any_eq_false, sizes?_eq_some_iff, Bool.not_eq_false', List.all_eq_true,
      isIntegerFrom_iff]
  | deviceIndex => simp only [isViolated, Holds, Bool.not_eq_false', isIntegerFrom_iff]
  | computeSize => simp only [isViolated, Holds, Bool.not_eq_false', isIntegerFrom_iff]
  | reportEnvironment => simp only [isViolated, Holds, Bool.not_eq_false', isFlag_iff]
  | checkCompute => simp only [isViolated, Holds, Bool.not_eq_false', isFlag_iff]
  | logLevel =>
    simp only [isViolated, Holds, Option.isNone_eq_false_iff, Option.isSome_iff_exists, logLevel?_eq_some_iff]
    constructor
    · rintro ⟨_, s, hs, rfl, hmem⟩
      exact ⟨s, hs, hmem⟩
    · rintro ⟨s, hs, hmem⟩
      exact ⟨_, s, hs, rfl, hmem⟩

/-- The first condition that is violated is found by going through all of them. -/
theorem first_iff {c : Configuration} {k : Condition} : k.First c ↔ all.find? (·.isViolated c) = some k := by
  rw [List.find?_eq_some_iff_append, First]
  simp only [← isViolated_eq_false_iff, Bool.not_eq_false, Bool.not_eq_true']
  constructor
  · rintro ⟨before, after, hall, hbefore, hk⟩
    exact ⟨hk, before, after, hall, hbefore⟩
  · rintro ⟨hk, before, after, hall, hbefore⟩
    exact ⟨before, after, hall, hbefore, hk⟩

/-! ## The fault of the validation -/

/-- The fault of the first of some conditions that is violated. -/
def firstFault (c : Configuration) (conditions : List Condition) : Option Fault :=
  (conditions.find? (·.isViolated c)).map (·.fault c)

theorem firstFault_append (c : Configuration) (xs ys : List Condition) :
    firstFault c (xs ++ ys) = (firstFault c xs).or (firstFault c ys) := by
  rw [firstFault, List.find?_append, Option.map_or]
  rfl

theorem firstFault_singleton (c : Configuration) (k : Condition) :
    firstFault c [k] = if k.isViolated c then some (k.fault c) else none := by
  rw [firstFault, List.find?_singleton]
  cases k.isViolated c <;> rfl

theorem shapeFault?_eq {c : Configuration} {items : List Value} (h : sizes? c.shape = some items) :
    shapeFault? items = firstFault c [shapeLength, dimensions] := by
  simp only [shapeFault?, firstFault, List.find?_cons, isViolated, h, Option.any_some]
  cases items.isEmpty with
  | true => rfl
  | false =>
    cases items.all (isIntegerFrom 1) with
    | true => rfl
    | false => simp [fault, sizes, h]

theorem numberFault?_eq (c : Configuration) :
    numberFault? c = firstFault c [deviceIndex, computeSize, reportEnvironment, checkCompute] := by
  simp only [numberFault?, firstFault, List.find?_cons, isViolated]
  cases isIntegerFrom 0 c.deviceIndex <;> cases isIntegerFrom 1 c.computeSize <;> cases isFlag c.reportEnvironment <;>
    cases isFlag c.checkCompute <;> rfl

/-- The checks from the sizes on find the first violated condition from the third on. They are made beside a library and a shape that
were brought to their normal form, which none of these conditions can tell from those that were given. -/
theorem validateRest_snd {c : Configuration} {items : List Value} (h : sizes? c.shape = some items) (name : Value) :
    (validateRest { c with backend := name, shape := .tuple items } items).2 =
      firstFault c ([shapeLength, dimensions] ++ ([deviceIndex, computeSize, reportEnvironment, checkCompute] ++ [logLevel])) := by
  have hnumber : numberFault? { c with backend := name, shape := .tuple items } = numberFault? c := rfl
  rw [firstFault_append, firstFault_append, ← shapeFault?_eq h, ← numberFault?_eq, firstFault_singleton, validateRest, hnumber]
  cases shapeFault? items with
  | some fault => rfl
  | none =>
    cases numberFault? c with
    | some fault => rfl
    | none => cases hlevel : logLevel? c.logLevel <;> simp [isViolated, hlevel, fault]

/-- The fault of a validation is that of the first condition that is violated. -/
theorem validate_snd (c : Configuration) : c.validate.2 = firstFault c all := by
  have hall : all = [backend] ++ ([shapeKind] ++
      ([shapeLength, dimensions] ++ ([deviceIndex, computeSize, reportEnvironment, checkCompute] ++ [logLevel]))) := rfl
  rw [hall, firstFault_append, firstFault_append, firstFault_singleton, firstFault_singleton, validate]
  cases hbackend : backend? c.backend with
  | none => simp [isViolated, hbackend, fault]
  | some library =>
    cases hsizes : sizes? c.shape with
    | none => simp [isViolated, hbackend, hsizes, fault]
    | some items =>
      simp only [isViolated, hbackend, hsizes, Option.isNone_some, Bool.false_eq_true, if_false, Option.none_or]
      exact validateRest_snd hsizes (.str library.key)

/-- The validation ends with the normal form of what is acceptable. -/
theorem verdict_eq_ok_iff {c n : Configuration} : c.verdict = .ok n ↔ c.Acceptable ∧ n = c.normalForm := by
  constructor
  · intro h
    have hvalidate : c.validate = (n, none) := by
      rw [verdict] at h
      split at h
      · next hv => rw [hv, Except.ok.inj h]
      · cases h
    have hacc := (acceptable_and_normal_of_validate hvalidate).1
    exact ⟨hacc, (Prod.ext_iff.mp (hvalidate.symm.trans hacc.validate_eq)).1⟩
  · rintro ⟨hacc, rfl⟩
    rw [verdict, hacc.validate_eq]

/-- The validation ends with the fault of the first condition that is violated, under whatever name faults have there. -/
theorem mapError_verdict_eq_error_iff {ε : Type} {c : Configuration} {name : Fault → ε} {e : ε} :
    c.verdict.mapError name = .error e ↔ ∃ k : Condition, k.First c ∧ e = name (k.fault c) := by
  have hend (fault : Fault) : c.verdict = .error fault ↔ ∃ k : Condition, k.First c ∧ k.fault c = fault := by
    simp only [first_iff, ← Option.map_eq_some_iff]
    rw [← firstFault, ← validate_snd, verdict]
    split
    · next hv => simp [hv]
    · next hv => simp [hv]
  rw [mapError_eq_error_iff]
  constructor
  · rintro ⟨fault, hfault, rfl⟩
    obtain ⟨k, hk, rfl⟩ := (hend fault).mp hfault
    exact ⟨k, hk, rfl⟩
  · rintro ⟨k, hk, rfl⟩
    exact ⟨k.fault c, (hend _).mpr ⟨k, hk, rfl⟩, rfl⟩

/-- At most one condition is the first. -/
theorem First.unique {c : Configuration} {j k : Condition} (hj : j.First c) (hk : k.First c) : j = k := by
  rw [first_iff] at hj hk
  exact Option.some.inj (hj.symm.trans hk)

/-- The message about a condition is made around the source text of the value that violates it, except where that can only be an
empty collection. -/
theorem message_fault (c : Configuration) {k : Condition} (h : k ≠ shapeLength) :
    (k.fault c).message = (k.offending c).toSource.map fun shown => k.wording shown := by
  have hbackends : choiceText Library.keys = "['torch', 'tensorflow']" := by decide
  have hlevels : choiceText Level.choices = "['DEBUG', 'INFO', 'WARNING', 'ERROR', 'CRITICAL']" := by decide
  cases k with
  | shapeLength => exact absurd rfl h
  | backend =>
    rw [fault, Fault.message, hbackends]
    rfl
  | logLevel =>
    rw [fault, Fault.message, hlevels]
    rfl
  | _ => rfl

/-- The message about a condition stands where the value that violates it can be written. -/
theorem message_of_isWritable {c : Configuration} {k : Condition} (h : (k.offending c).isWritable = true) :
    (k.fault c).message = .ok (k.wording (k.offending c).source) := by
  by_cases hk : k = shapeLength
  · subst hk
    rfl
  · rw [message_fault c hk, Value.toSource, if_pos h]
    rfl

end Condition

/-! ## The configuration of named arguments -/

/-- A field of the configuration of named arguments is the argument of its name, or else its default. -/
theorem lookup_ofFields {given : Fields} {name : String} (h : name ∈ signature.names) :
    (ofFields given).fields.lookup name = (given.lookup name).or (standard.fields.lookup name) := by
  have hvalue : (ofFields given).fields.lookup name = some (signature.value given name) := by
    simp only [Signature.names, signature, fields, List.map_cons, List.map_nil, List.mem_cons, List.not_mem_nil, or_false] at h
    rcases h with rfl | rfl | rfl | rfl | rfl | rfl | rfl <;> rfl
  have hdefault : ∃ v, standard.fields.lookup name = some v ∧ (signature.parameters.lookup name).join = some v := by
    simp only [Signature.names, signature, fields, List.map_cons, List.map_nil, List.mem_cons, List.not_mem_nil, or_false] at h
    rcases h with rfl | rfl | rfl | rfl | rfl | rfl | rfl <;> exact ⟨_, rfl, rfl⟩
  obtain ⟨v, hv, hparameter⟩ := hdefault
  rw [hvalue, Signature.value, hv, hparameter]
  cases given.lookup name <;> rfl

/-- Arguments that are fields are refused for a field or not at all. -/
theorem make_eq {given : Fields} (h : ∀ f ∈ given, f.1 ∈ signature.names) :
    make given = (ofFields given).verdict.mapError .field := by
  rw [make, check_eq_ok_iff.mpr h, verdict]
  obtain ⟨n, fault?⟩ := (ofFields given).validate
  cases fault? <;> rfl

/-- What becomes of named arguments, each of which is a field. -/
structure Judged (given : Fields) : Prop where
  /-- The fields are the given ones, with the defaults for the others. -/
  taken : ∀ name ∈ signature.names, (ofFields given).fields.lookup name = (given.lookup name).or (standard.fields.lookup name)
  /-- They are accepted exactly when each can be used, and are in their normal form then. -/
  accepted : ∀ c, make given = .ok c ↔ (ofFields given).Acceptable ∧ c = (ofFields given).normalForm
  /-- They are refused exactly for the first condition that they violate. -/
  refused : ∀ refusal, make given = .error refusal ↔
    ∃ k : Condition, k.First (ofFields given) ∧ refusal = .field (k.fault (ofFields given))
  /-- The message is that of the condition, and shows the value that violates it where that can be written. -/
  worded : ∀ refusal (k : Condition), make given = .error refusal → k.First (ofFields given) →
    (k.offending (ofFields given)).isWritable = true → refusal.message = .ok (k.wording (k.offending (ofFields given)).source)
  /-- The checks, made operation by operation, come to the same configuration. -/
  examined : ∀ c, (ofFields given).examine = .ok c ↔ make given = .ok c
  /-- No operation in them fails on the kind of a value: they end with a refusal or not at all. -/
  unharmed : ∀ halt, (ofFields given).examine = .error halt ↔
    ∃ k : Condition, k.First (ofFields given) ∧ halt = .refused (k.fault (ofFields given))

/-- Seven fields with values of any kind are accepted in their normal form, or refused for the first condition that they violate. -/
theorem make_judged {given : Fields} (h : ∀ f ∈ given, f.1 ∈ signature.names) : Judged given := by
  have haccepted (c : Configuration) : make given = .ok c ↔ (ofFields given).Acceptable ∧ c = (ofFields given).normalForm := by
    rw [make_eq h, mapError_eq_ok_iff, Condition.verdict_eq_ok_iff]
  have hrefused (refusal : Refusal) : make given = .error refusal ↔
      ∃ k : Condition, k.First (ofFields given) ∧ refusal = .field (k.fault (ofFields given)) := by
    rw [make_eq h, Condition.mapError_verdict_eq_error_iff]
  refine ⟨fun _ => lookup_ofFields, haccepted, hrefused, ?worded, ?examined, ?unharmed⟩
  case worded =>
    intro refusal k hmake hfirst hwritable
    obtain ⟨j, hj, rfl⟩ := (hrefused refusal).mp hmake
    rw [hj.unique hfirst]
    exact Condition.message_of_isWritable hwritable
  case examined =>
    intro c
    rw [examine_eq, make_eq h, mapError_eq_ok_iff, mapError_eq_ok_iff]
  case unharmed =>
    intro halt
    rw [examine_eq, Condition.mapError_verdict_eq_error_iff]

/-- Four fields that violate a condition each. -/
def flawed : Fields :=
  [("log_level", .str "loud"), ("shape", .list [.int 2, .bool true]), ("backend", .str "TensorFlow"), ("compute_size", .str "7")]

/-- Of the fields of `flawed`, the dimensions are refused. -/
theorem make_judged_flawed : (∀ f ∈ flawed, f.1 ∈ signature.names) ∧
    ∃ refusal, make flawed = .error refusal ∧
      refusal.message = .ok "Tensor dimensions must be positive integers. Got: [2, True]" := by
  have hnames : ∀ f ∈ flawed, f.1 ∈ signature.names := by decide
  have hjudged := make_judged hnames
  have hfirst : Condition.First (ofFields flawed) .dimensions := Condition.first_iff.mpr (by decide +kernel)
  refine ⟨hnames, _, (hjudged.refused _).mpr ⟨.dimensions, hfirst, rfl⟩, ?_⟩
  exact hjudged.worded _ .dimensions ((hjudged.refused _).mpr ⟨.dimensions, hfirst, rfl⟩) hfirst (by decide)

end Configuration

end AccelProbe
