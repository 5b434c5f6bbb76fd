import AccelProbe.CommandLine.Arguments
import AccelProbe.Configuration.Validation
import AccelProbe.Files
import AccelProbe.Toml.Document

/-!
# The configuration of a document and a command line

A configuration document holds the fields of the configuration in one table; a document without that table gives the defaults.
What the command line asks for stands above the document: a library chosen there replaces that of the document, and a report
asked for there is made whatever the document says.
-/

namespace AccelProbe

namespace Configuration

/-- Why no configuration could be loaded. -/
inductive LoadFault where
  /-- A value of this kind names no document. -/
  | notAPath (kind : String)
  /-- The number is greater than that of any open file. -/
  | numberTooGreat
  /-- The number is less than that of any open file. -/
  | numberTooSmall
  /-- Nothing lies at the path. -/
  | notFound (path : Value)
  /-- A directory lies at the path. -/
  | isDirectory (path : Value)
  /-- The document is not UTF-8 text. -/
  | notText
  /-- The document was refused. -/
  | document (fault : Toml.Fault)
  /-- The fields were refused. -/
  | refused (refusal : Refusal)

/-- The wording of a fault. -/
def LoadFault.message : LoadFault → Except Value.Fault String
  | notAPath kind => .ok ("stat: path should be string, bytes, os.PathLike or integer, not " ++ kind)
  | numberTooGreat => .ok "fd is greater than maximum"
  | numberTooSmall => .ok "fd is less than minimum"
  | notFound path => path.toText.map ("Configuration file not found at " ++ ·)
  | isDirectory path => path.toSource.map ("[Errno 21] Is a directory: " ++ ·)
  | notText => .ok "not UTF-8 text"
  | document fault => .ok fault.message
  | refused refusal => refusal.message

/-- The name of the table that holds the configuration. -/
def tableName : String := "diagnostic"

/-- The full name of the configuration in messages. -/
def qualifiedTitle : String := "src.infrastructure.configuration.DiagnosticConfiguration"

/-- The configuration of the outermost table of a document. -/
def ofDocument (root : Toml.Table) : Except LoadFault Configuration :=
  match (root.lookup tableName).getD (.dictionary []) with
  | .dictionary given => (make given).mapError .refused
  | other => .error (.refused (.arguments (.notNamed qualifiedTitle other.kind)))

/-- The configuration of a document's content. -/
def ofContent (content : ByteArray) : Except LoadFault Configuration :=
  match String.fromUTF8? content with
  | none => .error .notText
  | some text =>
    match Toml.read text with
    | .error fault => .error (.document fault)
    | .ok root => ofDocument root

/-- The numbers between which an operating system looks for that of an open file. -/
def fileNumbers : Int × Int := (-2147483648, 2147483647)

/-- What lies at the end of a path. A number could only be that of an open file, and the diagnostic opens none before. -/
def locate (files : FileSystem) : Value → Except LoadFault FileEntry
  | .str path =>
    match files path with
    | some entry => .ok entry
    | none => .error (.notFound (.str path))
  | .int n =>
    if fileNumbers.2 < n then .error .numberTooGreat
    else if n < fileNumbers.1 then .error .numberTooSmall
    else .error (.notFound (.int n))
  | .bool b => .error (.notFound (.bool b))
  | v => .error (.notAPath v.kind)

/-- The configuration of the document at a path. -/
def load (files : FileSystem) (path : Value) : Except LoadFault Configuration := do
  match ← locate files path with
  | .directory => .error (.isDirectory path)
  | .file content => ofContent content

/-- A configuration with what the command line asks for. The fields are not validated again. -/
def override (c : Configuration) (args : Arguments) : Configuration :=
  let c := if args.backend.isNull then c else { c with backend := args.backend }
  let c := if args.environment.isTruthy then { c with reportEnvironment := .bool true } else c
  if args.compute.isTruthy then { c with checkCompute := .bool true } else c

/-- The configuration of a run: that of the document if one is named, or else the standard one, with what the command line asks
for. -/
def build (files : FileSystem) (args : Arguments) : Except LoadFault Configuration :=
  if args.config.isNull then .ok (standard.override args)
  else (load files args.config).map fun c => c.override args

end Configuration

end AccelProbe
