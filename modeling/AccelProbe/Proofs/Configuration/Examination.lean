import AccelProbe.Configuration.Validation

/-!
# The checks of a configuration, operation by operation

`validate` tells the kinds of values apart and so cannot go wrong. `examine` makes the same checks one operation after the other, on
values whose kind is not known: a text is brought to another letter case, the items of a collection are gone through, a number is
held against zero. Each of these operations fails on a value of a kind that does not have it, and stops the examination with a failure
of its own. Only the tests that stand in front of the operations keep such a value away from them: `examine_eq` says that they always
do, so that an examination ends as the validation does.
-/

namespace AccelProbe

/-- On which side of zero a number lies; not a number lies on neither. -/
def Double.sign? : Double → Option Ordering
  | .nan => none
  | .infinite negative => some (if negative then .lt else .gt)
  | .finite negative mantissa _ => some (if mantissa = 0 then .eq else if negative then .lt else .gt)

namespace Configuration

/-- What ends an examination. -/
inductive Halt where
  /-- A value could not be used as it was needed. -/
  | unusable (fault : Value.Fault)
  /-- A value of this kind has no order with numbers. -/
  | unordered (kind : String)
  /-- A field was refused. -/
  | refused (fault : Fault)

/-! ## Operations on a value of unknown kind -/

/-- Whether a value is a text. -/
def isText : Value → Bool
  | .str _ => true
  | _ => false

/-- Whether a value is a list or a tuple. -/
def isSequence : Value → Bool
  | .list _ => true
  | .tuple _ => true
  | _ => false

/-- Whether a value is an integer, and not a truth value that counts as one. -/
def isInteger (v : Value) : Bool := v.integer?.isSome && !isFlag v

/-- A text in another letter case, by the operation of this name. -/
def inCase (operation : String) (change : String → String) : Value → Except Halt String
  | .str s => .ok (change s)
  | v => .error (.unusable (.noAttribute v.kind operation))

/-- On which side of zero a value lies. -/
def besideZero : Value → Except Halt (Option Ordering)
  | .bool b => .ok (some (if b then .gt else .eq))
  | .int n => .ok (some (compare n 0))
  | .float x => .ok x.sign?
  | v => .error (.unordered v.kind)

/-- Whether a value is less than zero. -/
def isNegative (v : Value) : Except Halt Bool := (besideZero v).map (· == some .lt)

/-- Whether a value is zero or less. -/
def isNotPositive (v : Value) : Except Halt Bool := (besideZero v).map fun side => side == some .lt || side == some .eq

/-- Whether one of two tests is passed. The second is made only where the first is not. -/
def either (first : Bool) (second : Except Halt Bool) : Except Halt Bool := if first then .ok true else second

/-- Ends the examination with a fault where a test is passed. -/
def refuseIf (test : Except Halt Bool) (fault : Fault) : Except Halt Unit := do
  if ← test then .error (.refused fault) else .ok ()

/-! ## The examination -/

/-- The name of the library in lower case. -/
def examineBackend (v : Value) : Except Halt String := do
  refuseIf (either (!isText v) ((inCase "lower" Text.lower v).map (!Library.keys.contains ·))) (.unknownBackend v)
  inCase "lower" Text.lower v

/-- The sizes of the tensor. -/
def examineShape (v : Value) : Except Halt (List Value) := do
  refuseIf (.ok (!isSequence v)) (.shapeNotAList v)
  let sizes ← v.items.mapError .unusable
  refuseIf (.ok (!(Value.tuple sizes).isTruthy)) .shapeEmpty
  refuseIf (sizes.anyM fun size => either (!isInteger size) (isNotPositive size)) (.badDimension sizes)
  return sizes

/-- Looks at the fields between the shape and the log level. -/
def examineNumbers (c : Configuration) : Except Halt Unit := do
  refuseIf (either (!isInteger c.deviceIndex) (isNegative c.deviceIndex)) (.badDeviceIndex c.deviceIndex)
  refuseIf (either (!isInteger c.computeSize) (isNotPositive c.computeSize)) (.badComputeSize c.computeSize)
  refuseIf (.ok (!isFlag c.reportEnvironment)) (.badFlag "report_environment" c.reportEnvironment)
  refuseIf (.ok (!isFlag c.checkCompute)) (.badFlag "check_compute" c.checkCompute)

/-- The name of the log level in upper case. -/
def examineLogLevel (v : Value) : Except Halt String := do
  refuseIf (either (!isText v) ((inCase "upper" Text.upper v).map (!Level.choices.contains ·))) (.unknownLogLevel v)
  inCase "upper" Text.upper v

/-- A configuration in normal form, or what ended its examination. -/
def examine (c : Configuration) : Except Halt Configuration := do
  let name ← examineBackend c.backend
  let sizes ← examineShape c.shape
  examineNumbers c
  let level ← examineLogLevel c.logLevel
  return { c with backend := .str name, shape := .tuple sizes, logLevel := .str level }

/-! ## No operation meets a value that does not have it -/

/-- What a test found decides whether the examination goes on. -/
theorem refuseIf_eq {test : Except Halt Bool} {b : Bool} (h : test = .ok b) (fault : Fault) :
    refuseIf test fault = if b then .error (.refused fault) else .ok () := by
  rw [h]
  cases b <;> rfl

/-- A value is held against zero only where it is an integer. -/
theorem either_isNotPositive (v : Value) : either (!isInteger v) (isNotPositive v) = .ok (!isIntegerFrom 1 v) := by
  cases v with
  | int n =>
    have hside : (compare n 0 == .lt || compare n 0 == .eq) = !decide (1 ≤ n) := by
      rw [Bool.eq_iff_iff]
      simp only [Bool.or_eq_true, beq_iff_eq, Int.compare_eq_lt, Int.compare_eq_eq, Bool.not_eq_true', decide_eq_false_iff_not]
      omega
    exact congrArg Except.ok hside
  | _ => rfl

theorem either_isNegative (v : Value) : either (!isInteger v) (isNegative v) = .ok (!isIntegerFrom 0 v) := by
  cases v with
  | int n =>
    have hside : (compare n 0 == .lt) = !decide (0 ≤ n) := by
      rw [Bool.eq_iff_iff]
      simp only [beq_iff_eq, Int.compare_eq_lt, Bool.not_eq_true', decide_eq_false_iff_not]
      omega
    exact congrArg Except.ok hside
  | _ => rfl

/-- The sizes are gone through up to the first that is no positive integer. -/
theorem anyM_eq (sizes : List Value) :
    (sizes.anyM fun size => either (!isInteger size) (isNotPositive size)) = .ok (!sizes.all (isIntegerFrom 1)) := by
  induction sizes with
  | nil => rfl
  | cons v rest ih =>
    rw [List.anyM, either_isNotPositive, List.all_cons]
    cases isIntegerFrom 1 v with
    | false => rfl
    | true => exact ih

/-- The names of the libraries are the texts under which one is found. -/
theorem keys_contains (s : String) : Library.keys.contains s = (Library.ofKey? s).isSome := by
  rw [Bool.eq_iff_iff, Option.isSome_iff_exists, List.contains_iff_mem]
  simp only [Library.ofKey?_eq_some_iff, Library.keys, List.mem_map]
  constructor
  · rintro ⟨l, _, hl⟩
    exact ⟨l, hl.symm⟩
  · rintro ⟨l, hl⟩
    exact ⟨l, by cases l <;> decide, hl.symm⟩

theorem examineBackend_eq (v : Value) :
    examineBackend v = match backend? v with
      | some library => .ok library.key
      | none => .error (.refused (.unknownBackend v)) := by
  cases v with
  | str s =>
    have htest : either (!isText (.str s)) ((inCase "lower" Text.lower (.str s)).map (!Library.keys.contains ·)) =
        .ok (!(Library.named? s).isSome) := by
      rw [Library.named?, ← keys_contains]
      rfl
    rw [examineBackend, refuseIf_eq htest, backend?]
    cases hl : Library.named? s with
    | none => rfl
    | some l => exact congrArg Except.ok (Library.ofKey?_eq_some_iff.mp hl)
  | _ => rfl

theorem examineShape_eq (v : Value) :
    examineShape v = match sizes? v with
      | some sizes => match shapeFault? sizes with
        | some fault => .error (.refused fault)
        | none => .ok sizes
      | none => .error (.refused (.shapeNotAList v)) := by
  have hsizes (sizes : List Value) (hv : isSequence v = true) (hi : v.items = .ok sizes) :
      examineShape v = match shapeFault? sizes with
        | some fault => .error (.refused fault)
        | none => .ok sizes := by
    rw [examineShape, refuseIf_eq rfl, hv, hi]
    cases sizes with
    | nil => rfl
    | cons size rest =>
      change (refuseIf _ (.badDimension (size :: rest)) >>= fun _ => Except.ok (size :: rest)) = _
      rw [refuseIf_eq (anyM_eq _), shapeFault?]
      cases (size :: rest).all (isIntegerFrom 1) <;> rfl
  cases v with
  | list sizes => exact hsizes sizes rfl rfl
  | tuple sizes => exact hsizes sizes rfl rfl
  | _ => rfl

theorem examineNumbers_eq (c : Configuration) :
    examineNumbers c = match numberFault? c with
      | some fault => .error (.refused fault)
      | none => .ok () := by
  rw [examineNumbers, refuseIf_eq (either_isNegative _), refuseIf_eq (either_isNotPositive _), refuseIf_eq rfl, refuseIf_eq rfl,
    numberFault?]
  cases isIntegerFrom 0 c.deviceIndex <;> cases isIntegerFrom 1 c.computeSize <;> cases isFlag c.reportEnvironment <;>
    cases isFlag c.checkCompute <;> rfl

theorem examineLogLevel_eq (v : Value) :
    examineLogLevel v = match logLevel? v with
      | some level => .ok level
      | none => .error (.refused (.unknownLogLevel v)) := by
  cases v with
  | str s =>
    have htest : either (!isText (.str s)) ((inCase "upper" Text.upper (.str s)).map (!Level.choices.contains ·)) =
        .ok (!Level.choices.contains (Text.upper s)) := rfl
    rw [examineLogLevel, refuseIf_eq htest, logLevel?]
    cases Level.choices.contains (Text.upper s) <;> rfl
  | _ => rfl

/-- How the validation of a configuration ends: with its normal form, or with the first fault. -/
def verdict (c : Configuration) : Except Fault Configuration :=
  match c.validate with
  | (n, none) => .ok n
  | (_, some fault) => .error fault

/-- An examination ends as the validation does: no operation in it fails on the kind of a value. -/
theorem examine_eq (c : Configuration) : c.examine = c.verdict.mapError .refused := by
  rw [examine, examineBackend_eq, verdict, validate]
  cases backend? c.backend with
  | none => rfl
  | some library =>
    rw [examineShape_eq]
    dsimp only
    cases sizes? c.shape with
    | none => rfl
    | some sizes =>
      dsimp only [validateRest]
      cases shapeFault? sizes with
      | some fault => rfl
      | none =>
        rw [examineNumbers_eq, examineLogLevel_eq]
        -- `validate` looks at the numbers beside the library and the shape that it has already settled.
        have hsettled : numberFault? { c with backend := .str library.key, shape := .tuple sizes } = numberFault? c := rfl
        rw [hsettled]
        cases numberFault? c with
        | some fault => rfl
        | none =>
          dsimp only
          cases logLevel? c.logLevel <;> rfl

end Configuration

end AccelProbe
