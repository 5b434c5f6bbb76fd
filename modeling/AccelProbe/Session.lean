import AccelProbe.Backend.Loading
import AccelProbe.Configuration.Loading
import AccelProbe.Section.Compute
import AccelProbe.Section.Diagnostic
import AccelProbe.Section.Environment

/-!
# A session

A session reads its command line, builds its configuration, sets up the log, loads the chosen library and runs the sections: the
diagnostic always, the environment and the compute section where they are asked for. Nothing is written and no library is touched
before the configuration is known to be right. The first failure ends the session; lines written before it stay.
-/

namespace AccelProbe

/-- What a session runs in. -/
structure Surroundings where
  /-- The files it can read. -/
  files : FileSystem
  /-- The host as it is when the session begins. -/
  host : Host
  /-- How the libraries answer. -/
  libraries : History LibraryCall → LibraryCall → Reply
  /-- The name of the logger of the session itself. -/
  loggerName : String := "main"

/-- How a session ends. -/
inductive Ending where
  /-- All sections are done. -/
  | finished
  /-- The command line asked for nothing to be run. -/
  | exited (e : Arguments.Exit)
  /-- There is no configuration. -/
  | unconfigured (fault : Configuration.LoadFault)
  /-- The log could not be set up. -/
  | unlogged (fault : Logging.Fault)
  /-- Loading the library or running a section failed. -/
  | failed (e : Failure)

/-- The exit code that tells of an ending: zero where all is done, one where something failed. -/
def Ending.exitCode : Ending → Nat
  | finished => 0
  | exited e => e.code
  | _ => 1

/-- What went wrong where a session failed. -/
def Ending.complaint? : Ending → Option String
  | finished => none
  | exited _ => none
  | unconfigured fault => some (Value.wording fault.message)
  | unlogged fault => some fault.message
  | failed e => some (Value.wording e.message)

/-- What came of a session. -/
structure Outcome where
  /-- How it ended. -/
  ending : Ending
  /-- The host as it was left. -/
  host : Host
  /-- What happened between the session and the libraries. -/
  history : History LibraryCall := []

namespace Environment

/-- The width of the terminal: a positive integer, or else the standard width. -/
def columns (env : Environment) : Nat :=
  match (env.value? columnsName).bind Numeral.integer? with
  | some (.ofNat (n + 1)) => n + 1
  | _ => Help.standardColumns

end Environment

namespace Session

open Program

/-- The record of a session that is done. -/
def completedRecord (loggerName : String) : LogRecord := ⟨loggerName, Level.info, "Diagnostic completed."⟩

/-- The sections of a session. -/
def sections {Call : Type} (c : Configuration) (env : Environment) (b : Backend Call) : Program Call Unit := do
  let _ ← Section.Diagnostic.run b c.shape c.deviceIndex
  if c.reportEnvironment.isTruthy then
    let _ ← Section.Environment.run b env
  if c.checkCompute.isTruthy then
    let _ ← Section.Compute.run b c.computeSize c.deviceIndex

/-- The host of a configured session once its library is loaded, and the session's program. -/
def configured (loggerName : String) (c : Configuration) (h : Host) : Host × Program LibraryCall Unit :=
  let (prepared, loading) := Backend.create c.backend h
  (prepared, do
    let b ← loading
    sections c prepared.environment b
    note (completedRecord loggerName))

/-- The world of a session: the libraries answer as they do, and standard output takes every line. -/
def world (s : Surroundings) : World LibraryCall where
  answer := s.libraries
  take := fun _ _ => .ok ()

/-- Runs a session that is configured. -/
def runConfigured (s : Surroundings) (c : Configuration) : Outcome :=
  match s.host.logging.setUp c.logLevel with
  | (logging, some fault) => { ending := .unlogged fault, host := { s.host with logging } }
  | (logging, none) =>
    let (host, program) := configured s.loggerName c { s.host with logging }
    match program.run (world s) [] with
    | (history, .ok ()) => { ending := .finished, host, history }
    | (history, .error e) => { ending := .failed e, host, history }

/-- Runs a session with the words of its command line. -/
def run (s : Surroundings) (words : List String) : Outcome :=
  match Arguments.ofTexts words with
  | .error stop => { ending := .exited (stop.exit s.host.environment.columns), host := s.host }
  | .ok args =>
    match Configuration.build s.files args with
    | .error fault => { ending := .unconfigured fault, host := s.host }
    | .ok c => runConfigured s c

end Session

namespace Outcome

/-- What a session wrote to standard output. -/
def output (o : Outcome) : String :=
  match o.ending with
  | .exited e => e.output
  | _ => String.join (o.history.lines.map fun line => line.display ++ "\n")

/-- What a session wrote to standard error. The loggers are as the session left them: the only levels
that it sets once the first record is logged are those of loggers that it does not use. -/
def errors (o : Outcome) : String :=
  match o.ending with
  | .exited e => e.errors
  | _ => (o.host.logging.logAll o.history.records).2

/-- The calls to Torch. -/
def torchCalls (o : Outcome) : List TorchCall :=
  o.history.calls.filterMap fun
    | .torch c => some c
    | _ => none

/-- The calls to TensorFlow. -/
def tensorflowCalls (o : Outcome) : List TensorFlowCall :=
  o.history.calls.filterMap fun
    | .tensorflow c => some c
    | _ => none

end Outcome

end AccelProbe
