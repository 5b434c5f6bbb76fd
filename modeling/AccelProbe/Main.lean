import AccelProbe.Session

/-!
# The command line program

The outer layer of the program. It collects what a session looks at, runs the session and prints what came of it. No tensor
library is linked to this program, so the choice of one ends as it does on a host where none is installed: the library cannot be
loaded.
-/

namespace AccelProbe

/-- The failure to load a library that is not installed. -/
def notInstalled (l : Library) : Failure :=
  .raised ⟨"ModuleNotFoundError", .ordinary, [.str ("No module named '" ++ l.key ++ "'")]⟩

/-- The variables of the environment that a session looks at. -/
def readEnvironment : IO Environment :=
  (Environment.columnsName :: Environment.reported).filterMapM fun name => do
    return (← IO.getEnv name).map (name, ·)

/-- The number under which the operating system refuses to read a directory as a file. -/
def directoryCode : UInt32 := 21

/-- What lies at the end of a path. -/
def readEntry (path : String) : IO (Option FileEntry) := do
  try
    return some (.file (← IO.FS.readBinFile path))
  catch
    | .noFileOrDirectory .. => return none
    | .inappropriateType _ code _ => return if code = directoryCode then some .directory else none
    | e => throw e

/-- The files as far as a command line names them. -/
def readFiles (words : List String) : IO FileSystem := do
  match Arguments.ofTexts words with
  | .ok { config := .str named, .. } =>
    let entry ← readEntry named
    return fun path => if path = named then entry else none
  | _ => return fun _ => none

/-- Runs a session with the words of a command line and prints what came of it. The result is the exit code. -/
def runSession (words : List String) : IO UInt32 := do
  let files ← readFiles words
  let environment ← readEnvironment
  let outcome := Session.run { files, host := { environment }, libraries := fun _ c => .error (notInstalled c.library) } words
  (← IO.getStdout).putStr outcome.output
  (← IO.getStderr).putStr outcome.errors
  if let some complaint := outcome.ending.complaint? then
    (← IO.getStderr).putStrLn complaint
  return outcome.ending.exitCode.toUInt32

end AccelProbe

/-- The program with the words of its command line. -/
def main (words : List String) : IO UInt32 := AccelProbe.runSession words
