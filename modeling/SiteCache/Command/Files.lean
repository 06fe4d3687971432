import SiteCache.Fault
import SiteCache.Table

/-!
# Files in memory

A tree of directories and files, known by the names that lead to them from the root, with a working
directory from which a path without a leading slash sets out.  A path is followed name by name:
every name but the last must lead into a directory.
-/

namespace SiteCache

/-- Names that lead from the root to a directory or a file. -/
abbrev Location := List String

/-- What stands at a location. -/
inductive Files.Entry where
  | directory
  | file (content : Octets)
  deriving DecidableEq

/-- A tree of directories and files with a working directory. -/
structure Files where
  workingDirectory : Location
  entries : Table Location Files.Entry := .empty

namespace Files

/-- What stands at a location; the root is a directory. -/
def entry? (f : Files) (l : Location) : Option Entry :=
  if l.isEmpty then some .directory else f.entries.get? l

/-- One name further. -/
def step (l : Location) (name : String) : Location :=
  if name.isEmpty ∨ name = "." then l
  else if name = ".." then l.dropLast
  else l ++ [name]

/-- Where a path sets out, and its names. -/
def names (f : Files) (path : String) : Location × List String :=
  (if path.startsWith "/" then [] else f.workingDirectory, path.splitOn "/")

/-- The most octets of a name in a directory. -/
def longestName : Nat := 255

/-- The most octets of a path. -/
def longestPath : Nat := 4095

/-- A path must not be too long and must not have an octet zero. -/
def checkPath (path : String) : Except FileFault Unit :=
  if path.toList.contains '\x00' then .error .zeroOctet
  else if longestPath < path.utf8ByteSize then .error .longName
  else .ok ()

/-- Follows names from a location. -/
def follow (f : Files) : Location → List String → Except FileFault Location
  | l, [] => .ok l
  | l, name :: rest =>
    match f.entry? l with
    | none => .error .absent
    | some (.file _) => .error .notDirectory
    | some .directory =>
      if longestName < name.utf8ByteSize then .error .longName else follow f (step l name) rest

/-- The location that a path leads to. -/
def locate (f : Files) (path : String) : Except FileFault Location := do
  checkPath path
  f.follow (f.names path).1 (f.names path).2

/-- The tree with an entry. -/
def insert (f : Files) (l : Location) (e : Entry) : Files := { f with entries := f.entries.insert l e }

/-- The content of the file at a path. -/
def read (f : Files) (path : String) : Except FileFault Octets := do
  match f.entry? (← f.locate path) with
  | none => throw .absent
  | some .directory => throw .isDirectory
  | some (.file content) => pure content

/-- The tree in which the file at a path has this content. -/
def write (f : Files) (path : String) (content : Octets) : Except FileFault Files := do
  let l ← f.locate path
  match f.entry? l with
  | some .directory => throw .isDirectory
  | _ => pure (f.insert l (.file content))

/-- The tree in which the names lead from a location to a directory. -/
def makeFrom (f : Files) : Location → List String → Except FileFault Files
  | _, [] => .ok f
  | l, name :: rest =>
    let next := step l name
    if longestName < name.utf8ByteSize then .error .longName else
    match f.entry? next with
    | some .directory => makeFrom f next rest
    | some (.file _) => .error (if rest.all String.isEmpty then .exists else .notDirectory)
    | none => makeFrom (f.insert next .directory) next rest

/-- The tree in which a path leads to a directory; a path that ends in a dot must do so already. -/
def makeDirectories (f : Files) (path : String) : Except FileFault Files := do
  checkPath path
  let (start, names) := f.names path
  if (names.filter (!·.isEmpty)).getLast? = some "." then
    (f.follow start (names ++ [""])).map fun _ => f
  else f.makeFrom start names

/-- The tree with a file and the directories above it. -/
def put (f : Files) (path : String) (content : Octets) : Except FileFault Files := do
  let directory := "/".intercalate (path.splitOn "/").dropLast
  (← f.makeDirectories directory).write path content

end Files

end SiteCache
