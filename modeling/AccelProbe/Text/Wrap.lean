/-!
# Filling lines

A text is broken into lines of a given width. A line may end at a blank, which is then dropped, or behind a hyphen inside a
word. A piece that fits on no line is cut: the line is filled with its beginning, up to its last hyphen where one comes in
reach.
-/

namespace AccelProbe

namespace Text

/-- The pieces of a text: blanks, and the parts of words up to and with each hyphen that stands between two letters. `word` is
the part of a word read so far, in reverse. -/
def pieces (word : List Char) : List Char → List (List Char)
  | [] => if word.isEmpty then [] else [word.reverse]
  | c :: rest =>
    if c = ' ' then (if word.isEmpty then [] else [word.reverse]) ++ [' '] :: pieces [] rest
    else if c = '-' && word.head?.any Char.isAlpha && rest.head?.any Char.isAlpha then
      (c :: word).reverse :: pieces [] rest
    else pieces (c :: word) rest

/-- The leading pieces that fit into `room`, and the rest. -/
def takeFitting (room : Nat) : List (List Char) → List (List Char) × List (List Char)
  | [] => ([], [])
  | piece :: rest =>
    if piece.length ≤ room then
      let (taken, left) := takeFitting (room - piece.length) rest
      (piece :: taken, left)
    else ([], piece :: rest)

/-- Where a piece that is too long is cut to fill `room`: behind the last hyphen in reach, or where the room ends. -/
def cutLength (room : Nat) (piece : List Char) : Nat :=
  match ((piece.take room).reverse.findIdx? (· == '-')).map fun back => (piece.take room).length - 1 - back with
  | some hyphen => if 0 < hyphen && (piece.take hyphen).any (· != '-') then hyphen + 1 else room
  | none => room

/-- A line without the blank at its end. -/
def dropLastBlank (line : List (List Char)) : List (List Char) :=
  if line.getLast? = some [' '] then line.dropLast else line

/-- The lines of a list of pieces. Every line takes at least one character, which bounds the number of lines. -/
def fillLines (width : Nat) : Nat → Bool → List (List Char) → List (List Char)
  | 0, _, _ => []
  | _, _, [] => []
  | fuel + 1, first, piece :: rest =>
    let start := if piece = [' '] && !first then rest else piece :: rest
    let (taken, left) := takeFitting width start
    let used := (taken.map List.length).sum
    let (line, left) := match left with
      | [] => (taken, [])
      | long :: more =>
        if width < long.length then
          let cut := cutLength (width - used) long
          (taken ++ [long.take cut], long.drop cut :: more)
        else (taken, left)
    let line := dropLastBlank line
    let lines := fillLines width fuel (first && line.isEmpty) left
    if line.isEmpty then lines else line.flatten :: lines

/-- A text in lines of at most `width` characters (at least one). -/
def wrap (width : Nat) (s : String) : List String :=
  (fillLines width (2 * s.length + 1) true (pieces [] s.toList)).map String.ofList

end Text

end AccelProbe
