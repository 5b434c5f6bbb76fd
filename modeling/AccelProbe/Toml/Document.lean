import AccelProbe.Toml.Expression

/-!
# Documents

A document is a list of statements, each on a line of its own: a heading that opens a table, a heading that opens one more table
in a list of tables, or a key with its value for the table that is open. Blank lines and comments may stand anywhere between
them.
-/

namespace AccelProbe

namespace Toml

/-- A document as far as it is read. -/
structure Document where
  /-- The outermost table. -/
  root : Table := []
  /-- The path of the table that is open. -/
  heading : Path := []
  /-- The marks on the paths. -/
  marks : Marks := {}
deriving Inhabited

namespace Document

/-- A result, or the fault of a malformed document. -/
def demand {α : Type} : Option α → Except Fault α
  | some a => .ok a
  | none => .error .malformed

/-- The paths that a dotted key goes through under a heading. -/
def through (heading path : Path) : List Path :=
  (List.range (path.length - 1)).map fun i => heading ++ path.take (i + 1)

/-- Opens the table of a path. -/
def openTable (d : Document) (path : Path) : Except Fault Document := do
  if d.marks.isDeclared path || d.marks.isClosed path then .error .malformed
  else
    let root ← demand (d.root.update? true some path)
    return ⟨root, path, d.marks.declare path⟩

/-- Opens one more table in the list of tables of a path. -/
def openItem (d : Document) (path : Path) : Except Fault Document := do
  if d.marks.isClosed path then .error .malformed
  else
    let root ← demand (d.root.update? true (Table.extend? (path.getLast?.getD "")) path.dropLast)
    return ⟨root, path, (d.marks.free path).declare path⟩

/-- Puts a value under a key of the table that is open. -/
def put (d : Document) (path : Path) (v : Value) : Except Fault Document := do
  let way := through d.heading path
  if way.any d.marks.isDeclared || d.marks.isClosed (d.heading ++ path.dropLast) then .error .malformed
  else
    let root ← demand (insertAt? true (d.heading ++ path) v d.root)
    let marks := d.marks.await way
    return { d with root, marks := if closesPath v then marks.close (d.heading ++ path) else marks }

/-- Reads one statement, without the end of its line. -/
def statement (d : Document) (cs : List Char) : Except Fault (Document × List Char) :=
  match cs with
  | '[' :: '[' :: rest => do
    let d := { d with marks := d.marks.settle }
    let (path, rest) ← key (rest.length + 1) depthStore (skipBlanks rest)
    let d ← d.openItem path
    let rest ← expect ']' rest
    let rest ← expect ']' rest
    return (d, rest)
  | '[' :: rest => do
    let d := { d with marks := d.marks.settle }
    let (path, rest) ← key (rest.length + 1) depthStore (skipBlanks rest)
    let d ← d.openTable path
    let rest ← expect ']' rest
    return (d, rest)
  | cs => do
    let ((path, v), rest) ← pair (2 * cs.length + 2) depthStore cs
    let d ← d.put path v
    return (d, rest)

/-- The end of a statement's line: blanks, a comment, and the line end unless the document ends. -/
def lineEnd (cs : List Char) : Except Fault (List Char) := do
  match ← skipComment (skipBlanks cs) with
  | [] => .ok []
  | c :: rest => if c = '\n' then .ok rest else .error .malformed

/-- Reads the lines that are left. Every line takes at least one character, which bounds their number. -/
def readLines : Nat → Document → List Char → Except Fault Document
  | 0, _, _ => .error .malformed
  | bound + 1, d, cs =>
    match skipBlanks cs with
    | [] => .ok d
    | c :: rest =>
      if c = '\n' then readLines bound d rest
      else if c = '#' then do
        let rest ← lineEnd (c :: rest)
        readLines bound d rest
      else do
        let (d, rest) ← d.statement (c :: rest)
        let rest ← lineEnd rest
        readLines bound d rest

end Document

/-- The outermost table of a document. -/
def read (text : String) : Except Fault Table :=
  let cs := joinLineEnds text.toList
  (Document.readLines (cs.length + 1) {} cs).map (·.root)

end Toml

end AccelProbe
