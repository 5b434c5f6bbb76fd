/-!
# Environment variables

The environment of a run, as names with their values. A variable that is set to the empty text is set.
-/

namespace AccelProbe

/-- The variables of the environment that are set. -/
abbrev Environment := List (String × String)

namespace Environment

/-- The value of a variable, if it is set. -/
def value? (env : Environment) (name : String) : Option String := env.lookup name

/-- The environment with a variable set, where it is not set already. -/
def setDefault (env : Environment) (name value : String) : Environment :=
  match env.value? name with
  | some _ => env
  | none => env ++ [(name, value)]

/-- A variable that is set where it is missing has its old value, if there was one; no other variable changes. -/
theorem value?_setDefault (env : Environment) (name value other : String) :
    (env.setDefault name value).value? other = if other = name then some ((env.value? name).getD value) else env.value? other := by
  unfold setDefault
  cases h : env.value? name with
  | some v =>
    by_cases ho : other = name
    · subst ho
      simp [h]
    · simp [ho]
  | none =>
    unfold value? at h ⊢
    by_cases ho : other = name
    · subst ho
      rw [List.lookup_append, h]
      simp
    · have hb : (other == name) = false := beq_eq_false_iff_ne.mpr ho
      simp [List.lookup_append, List.lookup_cons, ho, hb]

/-- The variable with the least level of TensorFlow's own messages. -/
def minLogLevel : String := "TF_CPP_MIN_LOG_LEVEL"

/-- The value of that variable that lets only errors through. -/
def errorsOnly : String := "2"

/-- The variables that decide which devices a library finds, in the order in which they are reported. -/
def reported : List String := ["CUDA_VISIBLE_DEVICES", "CUDA_HOME", "LD_LIBRARY_PATH", "PYTORCH_CUDA_ALLOC_CONF", minLogLevel]

/-- The variable with the width of the terminal. -/
def columnsName : String := "COLUMNS"

end Environment

end AccelProbe
