import AccelProbe.Failure

/-!
# Failures by name

A script names the kind of failure that a call raises, and the arguments that it is raised with. For most kinds the arguments make
up the wording. Some kinds have a wording of their own, the kind of a failure of the operating system depends on its number, and
some kinds cannot be raised with the arguments that a script can give: then it is the refusal of the arguments that is raised.
-/

namespace AccelProbe

namespace Rehearsal.Raising

/-- A failure of this kind that was raised with these words. -/
def worded (label words : String) : Raised := ⟨label, .ordinary, [.str words]⟩

/-- The kinds that ask a program to stop. -/
def interrupts : List String := ["KeyboardInterrupt", "SystemExit", "GeneratorExit", "BaseException"]

/-- The kind of a key that was not found. -/
def missingKey : String := "KeyError"

/-- The names of the general kind of failure of the operating system, the proper one first. -/
def systemNames : List String := ["OSError", "IOError", "EnvironmentError"]

/-- The general kind of failure of the operating system. -/
def systemLabel : String := "OSError"

/-- The kind of an operation that would have to wait. -/
def blockingLabel : String := "BlockingIOError"

/-- The special kinds of failure of the operating system, each with the numbers that belong to it. -/
def systemKinds : List (String × List Int) :=
  [(blockingLabel, [11, 114, 115]), ("BrokenPipeError", [32, 108]), ("ChildProcessError", [10]), ("ConnectionError", []),
    ("ConnectionAbortedError", [103]), ("ConnectionRefusedError", [111]), ("ConnectionResetError", [104]),
    ("FileExistsError", [17]), ("FileNotFoundError", [2]), ("InterruptedError", [4]), ("IsADirectoryError", [21]),
    ("NotADirectoryError", [20]), ("PermissionError", [1, 13]), ("ProcessLookupError", [3]), ("TimeoutError", [110])]

/-- The kind of a failure of the operating system by its number. -/
def systemKind (number : Value) : String :=
  match number.integer? with
  | some n => ((systemKinds.find? (·.2.contains n)).map (·.1)).getD systemLabel
  | none => systemLabel

/-- Whether a value is a number. -/
def isNumber : Value → Bool
  | .bool _ => true
  | .int _ => true
  | .float _ => true
  | _ => false

/-- A failure of this kind with these arguments, and with a wording of its own in which these values occur. The first of them that
cannot be written is the reason why the wording cannot be. -/
def describing (label : String) (args occurring : List Value) (words : String) : Raised :=
  let unwritable := occurring.find? fun v => !v.isWritable
  ⟨label, .ordinary (some (unwritable.elim (.ok words) fun v => .error v.writingFault)), args⟩

/-- The wording of an argument that is no text. -/
def notText (callee : String) (place : Nat) (v : Value) : String :=
  callee ++ "argument " ++ natText place ++ " must be str, not " ++ (if v.isNull then "None" else v.kind)

/-- An argument of the wrong kind. -/
def wrongKind (words : String) : Raised := worded "TypeError" words

/-- The bound on the numbers that count characters. -/
def countBound : Nat := 9223372036854775808

/-- Whether a number can count characters, or positions of characters. -/
def isCount (n : Int) : Bool := -(countBound : Int) ≤ n && n < countBound

/-- The file that a further argument names. An operation that would have to wait may count there what it has written instead. -/
def fileNamed? (label : String) (v : Value) : Option Value :=
  if v.isNull || label == blockingLabel && isNumber v then none else some v

/-- The files that a failure of the operating system names behind its number and its text: a file, and where it was to go. Between
the two stands an argument that says nothing. -/
def filesNamed (label : String) : List Value → String
  | [] => ""
  | v :: rest =>
    match fileNamed? label v, rest with
    | none, _ => ""
    | some file, [_, target] => ": " ++ file.source ++ (if target.isNull then "" else " -> " ++ target.source)
    | some file, _ => ": " ++ file.source

/-- What is left of the arguments of a failure of the operating system that names a file: its number and its text. -/
def argumentsKept (label : String) (number text : Value) (more : List Value) : List Value :=
  if (more.head?.bind (fileNamed? label)).isSome then [number, text] else number :: text :: more

/-- The wording of a failure of the operating system. -/
def systemMessage (label : String) (number text : Value) (more : List Value) : String :=
  "[Errno " ++ number.display ++ "] " ++ text.display ++ filesNamed label more

/-- What an operation that would have to wait refuses as the count of what it has written. -/
def refusedCount? (label : String) : List Value → Option Raised
  | v :: _ =>
    if label == blockingLabel && isNumber v then
      match v.toInteger with
      | .error fault => some (wrongKind fault.message)
      | .ok n => if isCount n then none else some (worded "ValueError" "cannot fit 'int' into an index-sized integer")
    else none
  | [] => none

/-- A failure of the operating system. With a number and a text it has a wording of its own, and a general one becomes special. -/
def ofSystem (label : String) (args : List Value) : Raised :=
  match args with
  | number :: text :: more =>
    if 3 < more.length then ⟨label, .ordinary, args⟩
    else
      let special := if label = systemLabel then systemKind number else label
      (refusedCount? special more).getD
        (describing special (argumentsKept special number text more) (number :: text :: more)
          (systemMessage special number text more))
  | _ => ⟨label, .ordinary, args⟩

/-- The kinds of failure of a program's text, which name the file and the line where it is. -/
def textKinds : List String := ["SyntaxError", "IndentationError", "TabError"]

/-- The wording of a count of arguments that is not the needed one. -/
def countMessage (needed : String) (needs found : Nat) : String :=
  "function takes " ++ needed ++ natText needs ++ " arguments (" ++ natText found ++ " given)"

/-- Where a failure of a program's text is: the last part of the file's path, and the line. A line number that is out of bounds
is written as the one before the first line. -/
def placeText (file line : Value) : String :=
  let numbered (n : Int) := "line " ++ intText (if isCount n then n else -1)
  let name (path : String) := (path.splitOn "/").getLastD ""
  match file, line with
  | .str path, .int n => " (" ++ name path ++ ", " ++ numbered n ++ ")"
  | .str path, _ => " (" ++ name path ++ ")"
  | _, .int n => " (" ++ numbered n ++ ")"
  | _, _ => ""

/-- A failure of a program's text at a place: the file, the line, the column, the text of the line, and the line and the column
where it ends. -/
def ofPlace (label : String) (args : List Value) (words : Value) : List Value → Raised
  | [_, _, _, _, _] => wrongKind "end_offset must be provided when end_lineno is provided"
  | file :: line :: column :: text :: more =>
    if more.length ≤ 2 then describing label args [words] (words.display ++ placeText file line)
    else wrongKind (countMessage "at most " 6 (file :: line :: column :: text :: more).length)
  | place => wrongKind (countMessage "at least " 4 place.length)

/-- A failure of a program's text. Its wording is its first argument, followed by the place where there are two. -/
def ofProgramText (label : String) : List Value → Raised
  | [words, place] =>
    match place.items with
    | .ok parts => ofPlace label [words, place] words parts
    | .error fault => wrongKind fault.message
  | args => ⟨label, .ordinary (some (args.headD .null).toText), args⟩

/-- What an argument of a failure to convert characters has to be. -/
inductive Needed where
  /-- A text. -/
  | text
  /-- A position in the characters. -/
  | position
  /-- Raw bytes, which are looked at after all other arguments. -/
  | bytes
deriving DecidableEq, Repr

/-- The kind of the failure to read characters from bytes. -/
def decodingLabel : String := "UnicodeDecodeError"

/-- The kind of the failure to write characters as bytes. -/
def encodingLabel : String := "UnicodeEncodeError"

/-- The kind of the failure to replace characters by others. -/
def replacingLabel : String := "UnicodeTranslateError"

/-- The kinds of failure to convert characters, each with what its arguments have to be. -/
def conversions : List (String × List Needed) :=
  [(decodingLabel, [.text, .bytes, .position, .position, .text]), (encodingLabel, [.text, .text, .position, .position, .text]),
    (replacingLabel, [.text, .position, .position, .text])]

/-- Why the argument at a place in the order is refused. -/
def refused? (place : Nat) (needed : Needed) (v : Value) : Option Raised :=
  match needed, v with
  | .text, .str _ => none
  | .text, v => some (wrongKind (notText "" place v))
  | .position, v =>
    match v.toInteger with
    | .error fault => some (wrongKind fault.message)
    | .ok n => if isCount n then none else some (worded "OverflowError" "Python int too large to convert to C ssize_t")
  | .bytes, _ => none

/-- Why one of the arguments is refused: the first one that is, and bytes after all others, since a script can give none. -/
def refusedAmong? (neededs : List Needed) (args : List Value) : Option Raised :=
  let refusals := (neededs.zip args).zipIdx.filterMap fun ((needed, v), i) => refused? (i + 1) needed v
  let bytes := (neededs.zip args).filterMap fun (needed, v) =>
    if needed = .bytes then some (wrongKind ("a bytes-like object is required, not '" ++ v.kind ++ "'")) else none
  (refusals ++ bytes).head?

/-- A character by its number, in the shortest form that holds it. -/
def numbered (c : Char) : String := String.ofList (Text.escapeCode (Text.codeOf c))

/-- The characters from a position up to another one, as a failure to convert them names them. -/
def charactersText (s : String) (start stop : Int) : String :=
  let one := if stop = start + 1 ∧ 0 ≤ start then s.toList[start.toNat]? else none
  match one with
  | some c => "character '" ++ numbered c ++ "' in position " ++ intText start
  | none => "characters in position " ++ intText start ++ "-" ++ intText (stop - 1)

/-- The wording of a failure to convert characters, where its arguments are what they have to be. -/
def conversionMessage : List Value → String
  | [.str encoding, .str s, start, stop, .str reason] =>
    "'" ++ encoding ++ "' codec can't encode " ++ charactersText s (start.integer?.getD 0) (stop.integer?.getD 0) ++ ": " ++
      reason
  | [.str s, start, stop, .str reason] =>
    "can't translate " ++ charactersText s (start.integer?.getD 0) (stop.integer?.getD 0) ++ ": " ++ reason
  | _ => ""

/-- A failure to convert characters. It can be raised only with arguments that are what they have to be. -/
def ofConversion (label : String) (neededs : List Needed) (args : List Value) : Raised :=
  if args.length = neededs.length then (refusedAmong? neededs args).getD (describing label args [] (conversionMessage args))
  else wrongKind (countMessage "exactly " neededs.length args.length)

/-- The kinds of failure that hold other failures. -/
def groups : List String := ["ExceptionGroup", "BaseExceptionGroup"]

/-- A group of failures needs a text and failures. A script can give no failure as an argument. -/
def ofGroup : List Value → Raised
  | [.str _, .list []] | [.str _, .tuple []] | [.str _, .str ""] =>
    worded "ValueError" "second argument (exceptions) must be a non-empty sequence"
  | [.str _, .list _] | [.str _, .tuple _] | [.str _, .str _] =>
    worded "ValueError" "Item 0 of second argument (exceptions) is not an exception"
  | [.str _, _] => wrongKind "second argument (exceptions) must be a sequence"
  | [v, _] => wrongKind (notText "BaseExceptionGroup.__new__() " 1 v)
  | args => wrongKind ("BaseExceptionGroup.__new__() takes exactly 2 arguments (" ++ natText args.length ++ " given)")

/-- The failure of a kind with its arguments. -/
def ofName (label : String) (args : List Value) : Raised :=
  if interrupts.contains label then ⟨label, .interrupt, args⟩
  else if label = missingKey then ⟨label, .missingKey, args⟩
  else if systemNames.contains label then ofSystem systemLabel args
  else if (systemKinds.lookup label).isSome then ofSystem label args
  else if textKinds.contains label then ofProgramText label args
  else if groups.contains label then ofGroup args
  else
    match conversions.lookup label with
    | some neededs => ofConversion label neededs args
    | none => ⟨label, .ordinary, args⟩

end Rehearsal.Raising

end AccelProbe
