import AccelProbe.Environment
import AccelProbe.Logging.State

/-!
# The host of a run

What a run finds around it and may change for whoever runs after it: the environment and the loggers.
-/

namespace AccelProbe

/-- The environment and the loggers that a run shares with its host. -/
structure Host where
  /-- The environment variables. -/
  environment : Environment := []
  /-- The loggers. -/
  logging : Logging := {}
deriving Inhabited

namespace Host

/-- Silences TensorFlow's own messages before it is loaded. A level that the user set for them is kept. -/
def quieten (h : Host) : Host where
  environment := h.environment.setDefault Environment.minLogLevel Environment.errorsOnly
  logging := h.logging.quieten

end Host

end AccelProbe
