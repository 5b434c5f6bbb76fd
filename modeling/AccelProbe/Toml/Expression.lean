import AccelProbe.Toml.Moment
import AccelProbe.Toml.Number
import AccelProbe.Toml.Table
import AccelProbe.Toml.Text

/-!
# Keys and values of a document

A key is a name or several names with points between them; a name stands bare or in the quotes of a text on one line. A value is
a text, a truth value, a moment, a number, an array of values or an inline table. Arrays may be broken into lines and hold
comments; inline tables may not. The readers that call themselves for what is nested take a bound on the depth, for which twice
the number of characters is enough, and the store of steps that says how deep values may lie in each other. How many steps a scalar
or a name takes depends on its form.
-/

namespace AccelProbe

namespace Toml

/-- A name of a key. -/
def name : List Char → Reading String
  | [] => .error .malformed
  | c :: rest =>
    if c = '\x22' then asString (escapedText false .plain rest)
    else if c = '\x27' then asString (literalText false rest)
    else if isBare c then .ok (String.ofList ((c :: rest).takeWhile isBare), (c :: rest).dropWhile isBare)
    else .error .malformed

/-- The steps that a name of a key takes: one more than the same text as a value, or those of a bare name. -/
def nameSteps : List Char → Nat
  | '\x22' :: rest => 5 + escapeSteps false rest
  | '\x27' :: _ => 5
  | _ => 3

/-- A key with the blanks behind it. -/
def key : Nat → Nat → List Char → Except Fault (Path × List Char)
  | 0, _, _ => .error .malformed
  | bound + 1, store, cs => do
    afford (nameSteps cs) store
    let (first, rest) ← name cs
    match skipBlanks rest with
    | '.' :: more =>
      let (names, rest) ← key bound store (skipBlanks more)
      return (first :: names, rest)
    | rest => return ([first], rest)

/-- A truth value, if one begins here. -/
def flag? : List Char → Option (Value × List Char)
  | 't' :: 'r' :: 'u' :: 'e' :: rest => some (.bool true, rest)
  | 'f' :: 'a' :: 'l' :: 's' :: 'e' :: rest => some (.bool false, rest)
  | _ => none

/-- A value that holds no other. -/
def scalar (cs : List Char) : Reading Value :=
  match text? cs with
  | some reading => reading.map fun (s, rest) => (.str s, rest)
  | none =>
    match flag? cs with
    | some flag => .ok flag
    | none =>
      match moment? cs with
      | some reading => reading
      | none => (number? cs).getD (.error .malformed)

/-- The steps that a value takes that holds no other, according to its form. -/
def scalarSteps (cs : List Char) : Nat :=
  if cs.head? = some '\x22' ∨ cs.head? = some '\x27' then textSteps cs
  else if (flag? cs).isSome then 2
  else if (moment? cs).isSome then momentSteps cs
  else numberSteps cs

/-- A table with a value under a dotted key; nothing where the key is taken or leads through something else than a table. -/
def insertAt? (throughLists : Bool) (path : Path) (v : Value) (t : Table) : Option Table :=
  t.update? throughLists (Table.insert? (path.getLast?.getD "") v) path.dropLast

mutual

/-- A value. -/
def value : Nat → Nat → List Char → Except Fault (Value × List Char)
  | 0, _, _ => .error .malformed
  | bound + 1, store, cs =>
    match cs with
    | '[' :: rest => do
      let store ← descend arraySteps store
      let rest ← passFiller store rest
      let (items, rest) ← arrayItems bound store rest
      return (.list items, rest)
    | '\x7b' :: rest => do
      let store ← descend tableSteps store
      afford 1 store
      match skipBlanks rest with
      | '\x7d' :: rest => .ok (.dictionary [], rest)
      | rest => inlineEntries bound store [] {} rest
    | cs => do
      afford (scalarSteps cs) store
      scalar cs

/-- The items of an array up to its closing bracket. -/
def arrayItems : Nat → Nat → List Char → Except Fault (List Value × List Char)
  | 0, _, _ => .error .malformed
  | bound + 1, store, cs =>
    match cs with
    | ']' :: rest => .ok ([], rest)
    | cs => do
      let (item, rest) ← value bound store cs
      match ← passFiller store rest with
      | ']' :: rest => return ([item], rest)
      | ',' :: rest =>
        let rest ← passFiller store rest
        let (items, rest) ← arrayItems bound store rest
        return (item :: items, rest)
      | _ => .error .malformed

/-- A key, an equals sign and a value. -/
def pair : Nat → Nat → List Char → Except Fault ((Path × Value) × List Char)
  | 0, _, _ => .error .malformed
  | bound + 1, store, cs => do
    let (path, rest) ← key (cs.length + 1) store cs
    let rest ← expect '=' rest
    let (v, rest) ← value bound store (skipBlanks rest)
    return ((path, v), rest)

/-- The entries of an inline table up to its closing brace, behind those that are in the table already. -/
def inlineEntries : Nat → Nat → Table → Marks → List Char → Except Fault (Value × List Char)
  | 0, _, _, _, _ => .error .malformed
  | bound + 1, store, t, marks, cs => do
    let ((path, v), rest) ← pair bound store cs
    if marks.isClosed path then .error .malformed
    else
      match insertAt? false path v t with
      | none => .error .malformed
      | some t =>
        match skipBlanks rest with
        | '\x7d' :: rest => return (.dictionary t, rest)
        | ',' :: rest =>
          inlineEntries bound store t (if closesPath v then marks.close path else marks) (skipBlanks rest)
        | _ => .error .malformed

end

end Toml

end AccelProbe
