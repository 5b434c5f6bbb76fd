import AccelProbe.Backend.TensorFlow
import AccelProbe.Rehearsal.Script
import AccelProbe.Text.LetterCase

/-!
# A rehearsed TensorFlow

Usually TensorFlow is there and sees no device. A tensor is made on the device whose scope was opened last, and on the host
where none is open. The name of a device has to be a text.
-/

namespace AccelProbe

namespace Rehearsal.TensorFlow

/-- The name of a call in a script. -/
def callName : TensorFlowCall → String
  | .load _ => "import"
  | .listDevices => "config.list_physical_devices"
  | .deviceDetails _ => "config.experimental.get_device_details"
  | .builtWithCuda => "test.is_built_with_cuda"
  | .builtWithGpuSupport => "test.is_built_with_gpu_support"
  | .enter _ => "device.enter"
  | .exit _ => "device.exit"
  | .uniform _ => "random.uniform"
  | .identity _ => "identity"
  | .matmul .. => "matmul"
  | .mean _ => "reduce_mean"
  | .max _ => "reduce_max"
  | .min _ => "reduce_min"
  | .parseDevice _ => "DeviceSpec.from_string"

/-- What a call is made with. -/
def callArguments : TensorFlowCall → List Value
  | .load level => [level.elim .null .str]
  | .listDevices => [.str "GPU"]
  | .deviceDetails device => [device]
  | .enter device => [device]
  | .exit device => [device]
  | .uniform shape => [shape, .str "float32"]
  | .identity t => [t]
  | .matmul left right => [left, right, .bool false, .bool true]
  | .mean t => [t]
  | .max t => [t]
  | .min t => [t]
  | .parseDevice device => [device]
  | _ => []

/-- What the full name of a device on this machine begins with. -/
def localHost : String := "/job:localhost/replica:0/task:0/device:"

/-- Whether a text holds another one. -/
def holds (part : List Char) : List Char → Bool
  | [] => part.isEmpty
  | c :: rest => part.isPrefixOf (c :: rest) || holds part rest

/-- The mark of a device in its full name. -/
def deviceMark : List Char := ['d', 'e', 'v', 'i', 'c', 'e', ':']

/-- A failure of this kind with these words. -/
def raised (label words : String) : Failure := .raised ⟨label, .ordinary, [.str words]⟩

/-- The failure to find the full name of a device whose scope is no text. Only a collection can be searched at all. -/
def unnamed (scope : Value) : Failure :=
  match scope with
  | .list _ | .tuple _ | .dictionary _ => .value (.noAttribute scope.kind "lstrip")
  | _ => raised "TypeError" ("argument of type '" ++ scope.kind ++ "' is not iterable")

/-- The full name of the device of a scope. A short name is taken without the slashes that it begins with. -/
def fullName (scope : Value) : Reply :=
  match scope with
  | .str s =>
    if holds deviceMark s.toList then .ok (.str s)
    else .ok (.str (localHost ++ String.ofList (s.toList.dropWhile (· == '/'))))
  | scope => .error (unnamed scope)

/-- The device on which a tensor is made after a history. -/
def currentDevice (h : History TensorFlowCall) : Reply :=
  match TensorFlow.openScopes h with
  | scope :: _ => fullName scope
  | [] => .ok (.str (localHost ++ "CPU:0"))

/-- The version of the rehearsed TensorFlow. -/
def standardVersion : Value := .str "2.16.1"

/-- Whether a character may stand in the type of a device. -/
def isTypeLetter (c : Char) : Bool := c.isAlpha || c == '_'

/-- A text without the line end that it may have. -/
def dropLineEnd (cs : List Char) : List Char := if cs.getLast? = some '\n' then cs.dropLast else cs

/-- A type and the digits of an index with a colon between them, where the whole text consists of them. A line end may follow. -/
def typeAndIndex? (cs : List Char) : Option (String × List Char) :=
  let type := cs.takeWhile isTypeLetter
  match cs.dropWhile isTypeLetter with
  | ':' :: index =>
    let digits := dropLineEnd index
    if type.isEmpty || digits.isEmpty || !digits.all Char.isDigit then none
    else some (Text.upper (String.ofList type), digits)
  | _ => none

/-- The type and the digits of the index that a text ends with behind the mark of a device. -/
def atEnd? : List Char → Option (String × List Char)
  | [] => none
  | c :: rest =>
    if deviceMark.isPrefixOf (c :: rest) then
      match typeAndIndex? ((c :: rest).drop deviceMark.length) with
      | some found => some found
      | none => atEnd? rest
    else atEnd? rest

/-- The type and the index in the name of a device. -/
def parse (name : List Char) : Reply :=
  let found := match atEnd? name with
    | some found => some found
    | none =>
      match name with
      | '/' :: rest => typeAndIndex? rest
      | cs => typeAndIndex? cs
  match found with
  | some (type, digits) =>
    if Digits.limit < digits.length then .error (raised "ValueError" (Digits.limitMessage (some digits.length)))
    else .ok (.spec (.str type) (.int (Digits.toNat 10 digits)))
  | none => .ok (.spec .null .null)

/-- The usual answer to a call. -/
def usual (h : History TensorFlowCall) : TensorFlowCall → Reply
  | .load _ => .ok standardVersion
  | .listDevices => .ok (.list [])
  | .deviceDetails _ => .ok (.dictionary [])
  | .enter _ => .ok .null
  | .exit _ => .ok .null
  | .uniform shape => do
    let sizes ← ofValue shape.items
    let place ← currentDevice h
    tensor sizes place
  | .identity t => do
    let place ← currentDevice h
    moved t place
  | .matmul left right => do
    let rows ← ofValue left.shape
    let others ← ofValue right.shape
    let n ← first rows
    let m ← first others
    let place ← currentDevice h
    tensor [n, m] place
  | .mean _ => .ok mean
  | .max _ => .ok greatest
  | .min _ => .ok least
  | .parseDevice (.str name) => parse name.toList
  | .parseDevice v => .error (raised "TypeError" ("expected string or bytes-like object, got '" ++ v.kind ++ "'"))
  | _ => .ok (.bool false)

/-- The name under which a script gives the version. -/
def versionName : String := "__version__"

/-- The answer to a call by a script. A library that could be loaded gives its version. -/
def answer (s : Script) (h : History TensorFlowCall) (c : TensorFlowCall) : Reply :=
  match c with
  | .load _ =>
    (Rehearsal.answer s callName usual h c).bind fun _ => ((s.outcome? versionName 0).getD (.answers standardVersion)).reply
  | c => Rehearsal.answer s callName usual h c

end Rehearsal.TensorFlow

end AccelProbe
