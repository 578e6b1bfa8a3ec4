import RecordFamily.Text.Parts
import RecordFamily.Text.Quoted

/-!
# File trees

The files and directories below a working directory, as a value. A path is followed part by part:
each part but the last has to be a directory.

* `Entry`, `FileTree`: files with their bytes, and directories;
* `PathError`, `PathError.message`, `PathError.report`: why a path leads nowhere;
* `FileTree.walk`: where the parts of a path lead to;
* **`FileTree.read`**, **`FileTree.write`**: the bytes of a file, and the tree after a file was
  written;
* `FileTree.changes`: the files of one tree that another one does not have.
-/

namespace RecordFamily

open Text

/-- What stands at a path. -/
inductive Entry where
  | file (bytes : List UInt8)
  | directory
  deriving DecidableEq, Repr

/-- Why a path leads nowhere. -/
inductive PathError where
  | missing
  | notDirectory
  | isDirectory
  | nameTooLong
  | denied
  deriving DecidableEq, Repr

/-- The text of the error. -/
def PathError.message : PathError → String
  | missing => "No such file or directory"
  | notDirectory => "Not a directory"
  | isDirectory => "Is a directory"
  | nameTooLong => "File name too long"
  | denied => "Permission denied"

/-- The number of the error. -/
def PathError.code : PathError → Nat
  | missing => 2
  | notDirectory => 20
  | isDirectory => 21
  | nameTooLong => 36
  | denied => 13

/-- The error of a number; a number that is not known counts as a refusal. -/
def PathError.ofCode (code : Nat) : PathError :=
  ([missing, notDirectory, isDirectory, nameTooLong].find? fun e => e.code == code).getD denied

/-- The text of the error with its number and the path. -/
def PathError.report (e : PathError) (path : String) : String :=
  let shown := quoted path
  s!"[Errno {e.code}] {e.message}: {shown}"

/-- Files and directories by the parts of their paths. A directory is also one that something stands
in. -/
structure FileTree where
  entries : List (List String × Entry)
  deriving DecidableEq, Repr

namespace FileTree

/-- The parts of a path that are directory or file names. -/
def nameParts (path : String) : List String := (partsOf '/' path).filter (· != "")

/-- The tree of entries given by their paths. -/
def ofPaths (entries : List (String × Entry)) : FileTree :=
  ⟨entries.map fun e => (nameParts e.1, e.2)⟩

/-- The entry at a place. -/
def entry? (t : FileTree) (place : List String) : Option Entry :=
  match t.entries.lookup place with
  | some e => some e
  | none => if t.entries.any fun e => place.isPrefixOf e.1 then some .directory else none

/-- The greatest length of a name in bytes. -/
def nameBound : Nat := 255

/-- The length in bytes that a path has to stay below. -/
def pathBound : Nat := 4096

/-- The place that the parts of a path lead to from a directory, and what stands there. Only the last
part may be missing. -/
def walk (t : FileTree) (start : List String) :
    List String → Except PathError (List String × Option Entry)
  | [] => .ok (start, some .directory)
  | name :: rest =>
    if name == "" || name == "." then walk t start rest
    else if name == ".." then walk t start.dropLast rest
    else if nameBound < name.utf8ByteSize then .error .nameTooLong
    else
      let place := start ++ [name]
      match t.entry? place with
      | some .directory => walk t place rest
      | some (.file bytes) =>
        if rest.isEmpty then .ok (place, some (.file bytes)) else .error .notDirectory
      | none => if rest.isEmpty then .ok (place, none) else .error .missing

/-- The place of a path, and what stands there. -/
def locate (t : FileTree) (path : String) : Except PathError (List String × Option Entry) :=
  if path == "" then .error .missing
  else if pathBound ≤ path.utf8ByteSize then .error .nameTooLong
  else t.walk [] (partsOf '/' path)

/-- **The bytes of a file.** -/
def read (t : FileTree) (path : String) : Except PathError (List UInt8) := do
  match (← t.locate path).2 with
  | some (.file bytes) => return bytes
  | some .directory => throw .isDirectory
  | none => throw .missing

/-- The entries with the one at a place set, which keeps its position. -/
def setEntry (place : List String) (e : Entry) :
    List (List String × Entry) → List (List String × Entry)
  | [] => [(place, e)]
  | x :: xs => if x.1 == place then (place, e) :: xs else x :: setEntry place e xs

/-- The directory that a path ending in a slash stands in. -/
def folderOf (path : String) : List String := (nameParts path).dropLast

/-- **The tree after a file was written.** No file is written at a path that ends in a slash. -/
def write (t : FileTree) (path : String) (bytes : List UInt8) : Except PathError FileTree := do
  if path.endsWith "/" && path.utf8ByteSize < pathBound then
    match (← t.walk [] (folderOf path)).2 with
    | some .directory => throw .isDirectory
    | some (.file _) => throw .notDirectory
    | none => throw .missing
  else
    match ← t.locate path with
    | (_, some .directory) => throw .isDirectory
    | (place, _) => return ⟨setEntry place (.file bytes) t.entries⟩

/-- The files of the second tree that the first does not have as they are, by their paths. -/
def changes (before after : FileTree) : List (String × List UInt8) :=
  after.entries.filterMap fun (place, e) =>
    match e with
    | .directory => none
    | .file bytes =>
      if before.entry? place == some (.file bytes) then none
      else some ("/".intercalate place, bytes)

end FileTree

end RecordFamily
