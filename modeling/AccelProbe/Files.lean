/-!
# The files of a host

A path is followed name by name; a name that is empty or a single point stays in the same directory, and a name of two points goes
back to the one above. A path begins in the working directory, of which all files and directories are known, or with a slash at
the root of the host, of which little is known: some directories and files are on every host. Of the directories between the
two it is only known that they are there.
-/

namespace AccelProbe

/-- What lies at the end of a path. -/
inductive FileEntry where
  /-- A directory. -/
  | directory
  /-- A file with its content. -/
  | file (content : ByteArray)

/-- What a run sees of its files: what lies at the end of each path. -/
abbrev FileSystem := String → Option FileEntry

/-- Where a path has led so far. -/
inductive Place where
  /-- A directory in the working directory, by the names on the way to it. -/
  | within (names : List String)
  /-- A directory above the working directory. -/
  | above
  /-- A directory of the host, by the names on the way to it from the root. -/
  | system (names : List String)
deriving DecidableEq, Repr

/-- The files and directories of a working directory. -/
structure Files where
  /-- The directories, each by the names on the way to it. -/
  directories : List (List String) := []
  /-- The files with their contents, each by the names on the way to it. -/
  contents : List (List String × ByteArray) := []
deriving Inhabited

namespace Files

/-- The names of a path: what stands between its slashes. -/
def names (path : String) : List String := path.splitOn "/"

/-- Whether a name stays in the same directory. -/
def isIdle (name : String) : Bool := name == "" || name == "."

/-- The name that goes back to the directory above. -/
def back : String := ".."

/-- Directories that every host has. -/
def systemDirectories : List (List String) :=
  [["bin"], ["boot"], ["dev"], ["dev", "shm"], ["etc"], ["home"], ["lib"], ["media"], ["mnt"], ["opt"], ["proc"], ["root"],
    ["run"], ["sbin"], ["srv"], ["sys"], ["tmp"], ["usr"], ["usr", "bin"], ["usr", "lib"], ["usr", "local"], ["usr", "share"],
    ["var"], ["var", "lib"], ["var", "log"], ["var", "tmp"]]

/-- Files that every host has: one that is always empty, and the table of its users. -/
def systemFiles : List (List String × String) :=
  [(["dev", "null"], ""), (["etc", "passwd"], "root:x:0:0:root:/root:/bin/sh\n")]

/-- The content of a file in the working directory. -/
def contentAt? (fs : Files) (names : List String) : Option ByteArray := fs.contents.lookup names

/-- The file that lies under a name in a directory. -/
def fileIn? (fs : Files) : Place → String → Option ByteArray
  | .within names, name => fs.contentAt? (names ++ [name])
  | .above, _ => none
  | .system names, name => (systemFiles.lookup (names ++ [name])).map (·.toUTF8)

/-- The directory to which a name leads from a directory. -/
def directoryIn? (fs : Files) (place : Place) (name : String) : Option Place :=
  if isIdle name then some place
  else
    match place with
    | .within names =>
      if name == back then some (if names.isEmpty then .above else .within names.dropLast)
      else if fs.directories.contains (names ++ [name]) then some (.within (names ++ [name]))
      else none
    | .above => if name == back then some .above else none
    | .system names =>
      if name == back then some (.system names.dropLast)
      else if systemDirectories.contains (names ++ [name]) then some (.system (names ++ [name]))
      else none

/-- Follows names from a directory. Behind the name of a file no other name may come. -/
def follow (fs : Files) (place : Place) : List String → Option FileEntry
  | [] => some .directory
  | name :: rest =>
    match fs.fileIn? place name with
    | some content => if rest.isEmpty then some (.file content) else none
    | none =>
      match fs.directoryIn? place name with
      | some next => follow fs next rest
      | none => none

/-- The greatest number of bytes of a path that leads anywhere. -/
def longestPath : Nat := 4095

/-- What lies at the end of a path. An empty path leads nowhere, and so does one that is too long or holds the character zero. -/
def find? (fs : Files) : FileSystem := fun path =>
  if path.isEmpty || decide (longestPath < path.utf8ByteSize) || path.toList.contains '\x00' then none
  else if path.toList.head? = some '/' then fs.follow (.system []) (names path)
  else fs.follow (.within []) (names path)

/-- The places of the working directory that names lead through, the last one included. -/
def wayThrough (place : List String) : List String → List (List String)
  | [] => []
  | name :: rest =>
    let next := if isIdle name then place else if name == back then place.dropLast else place ++ [name]
    next :: wayThrough next rest

/-- The files with one more directory, and all the directories on the way to it. -/
def addDirectory (fs : Files) (path : String) : Files :=
  { fs with directories := fs.directories ++ wayThrough [] (names path) }

/-- The files with one more file, and all the directories on the way to it. It takes the place of a file that was there. -/
def addFile (fs : Files) (path : String) (content : ByteArray) : Files where
  directories := fs.directories ++ wayThrough [] (names path).dropLast
  contents := ((wayThrough [] (names path)).getLastD [], content) :: fs.contents

end Files

end AccelProbe
