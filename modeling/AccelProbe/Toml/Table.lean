import AccelProbe.Toml.Basic
import AccelProbe.Value.Basic

/-!
# Tables under construction

A document builds a table of tables. `update` changes the table that a path leads to and makes the tables on the way that are
not there yet; a list of tables on the way stands for its last table. Beside the tables a document keeps marks on paths: a table
that a heading declared may be declared no second time, nor opened by a dotted key, and what an array or an inline table holds
is sealed against any change.
-/

namespace AccelProbe

namespace Toml

/-- A table: its entries in the order of insertion. -/
abbrev Table := List (String × Value)

namespace Table

/-- A table with another value under a key that it has. -/
def assign (t : Table) (key : String) (v : Value) : Table := t.map fun e => if e.1 = key then (key, v) else e

/-- A table with a new entry; nothing where the key is taken. -/
def insert? (key : String) (v : Value) (t : Table) : Option Table :=
  if (t.lookup key).isSome then none else some (t ++ [(key, v)])

/-- A table with one more empty table in the list under a key; the list is made where the key is free. -/
def extend? (key : String) (t : Table) : Option Table :=
  match t.lookup key with
  | none => some (t ++ [(key, .list [.dictionary []])])
  | some (.list tables) => some (t.assign key (.list (tables ++ [.dictionary []])))
  | some _ => none

/-- Changes the table that a path leads to. `throughLists` tells whether a list on the way stands for its last table. There is no
result where something else than a table is on the way, or where the change itself has none. -/
def update? (throughLists : Bool) (change : Table → Option Table) : Path → Table → Option Table
  | [], t => change t
  | key :: path, t =>
    match t.lookup key with
    | none => (update? throughLists change path []).map fun inner => t ++ [(key, .dictionary inner)]
    | some (.dictionary inner) => (update? throughLists change path inner).map fun inner => t.assign key (.dictionary inner)
    | some (.list tables) =>
      if throughLists then
        match tables.getLast? with
        | some (.dictionary inner) =>
          (update? throughLists change path inner).map fun inner => t.assign key (.list (tables.dropLast ++ [.dictionary inner]))
        | _ => none
      else none
    | some _ => none

end Table

/-- The marks on the paths of a document. -/
structure Marks where
  /-- The paths that a heading or a dotted key declared. -/
  declared : List Path := []
  /-- The paths of dotted keys under the current heading, which are declared when the next heading comes. -/
  pending : List Path := []
  /-- The paths below which nothing may change. -/
  closed : List Path := []
deriving Inhabited

namespace Marks

/-- Whether a path is declared. -/
def isDeclared (m : Marks) (path : Path) : Bool := m.declared.contains path

/-- Whether a path is closed, itself or with one that it goes through. -/
def isClosed (m : Marks) (path : Path) : Bool := m.closed.any (·.isPrefixOf path)

/-- Declares a path. -/
def declare (m : Marks) (path : Path) : Marks := { m with declared := path :: m.declared }

/-- Closes a path. -/
def close (m : Marks) (path : Path) : Marks := { m with closed := path :: m.closed }

/-- Takes all marks from a path and from those that go through it. -/
def free (m : Marks) (path : Path) : Marks :=
  { m with
    declared := m.declared.filter (!path.isPrefixOf ·)
    closed := m.closed.filter (!path.isPrefixOf ·) }

/-- Declares the pending paths. -/
def settle (m : Marks) : Marks := { m with declared := m.pending ++ m.declared, pending := [] }

/-- Keeps paths until the next heading. -/
def await (m : Marks) (paths : List Path) : Marks := { m with pending := paths ++ m.pending }

end Marks

/-- Whether a value closes the path that it stands under. -/
def closesPath : Value → Bool
  | .list _ => true
  | .dictionary _ => true
  | _ => false

end Toml

end AccelProbe
