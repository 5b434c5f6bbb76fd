import AccelProbe.Value.Basic

/-!
# Flags in a report
-/

namespace AccelProbe

/-- A flag as a report writes it: `true` for a value that counts as true, and `false` for any other. -/
def flagText (v : Value) : String := if v.isTruthy then "true" else "false"

end AccelProbe
