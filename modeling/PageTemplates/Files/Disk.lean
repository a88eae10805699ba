import PageTemplates.Error
import PageTemplates.Files.Memory

/-!
# Files on disk

A directory tree as far as reading shows it. Directories come into being with the files in them and stay when these are removed.
A path with a `..` segment is never followed, so no path leads out of the root.
-/

namespace PageTemplates

/-- A directory tree: its files and its directories by their paths from the root, which is the empty path, and the length of the
root's own path in bytes. -/
structure DiskFiles where
  files : Table StoredFile := []
  directories : List String := [""]
  rootBytes : Nat := 15
  deriving DecidableEq, Inhabited

namespace DiskFiles

/-- The path from the root that a path stands for; none if it goes up. -/
def resolve? (path : String) : Option String :=
  let normal := Path.normalizeChars path.toList
  if (Path.segments normal).contains ['.', '.'] then none else some (String.ofList normal)

/-- The longest name that a directory entry can have, in bytes. -/
def maxNameBytes : Nat := 255

/-- The longest path that the system follows, in bytes. -/
def maxPathBytes : Nat := 4095

/-- What a path from the root leads to. -/
inductive Entry where
  | file (file : StoredFile)
  | directory
  deriving DecidableEq, Inhabited

/-- The entry of a directory by its path. -/
def entry? (d : DiskFiles) (path : String) : Option Entry :=
  match Table.get? d.files path with
  | some file => some (.file file)
  | none => if d.directories.contains path then some .directory else none

/-- What a path leads to when its segments are followed one by one from a directory. -/
def follow (d : DiskFiles) (directory : String) : List (List Char) → Except FileError Entry
  | [] => .ok .directory
  | name :: rest =>
    if (Utf8.encode (String.ofList name)).length > maxNameBytes then .error .nameTooLong
    else
      let path := Path.join directory (String.ofList name)
      match d.entry? path, rest with
      | none, _ => .error .notFound
      | some (.file file), [] => .ok (.file file)
      | some (.file _), _ :: _ => .error .notADirectory
      | some .directory, rest => d.follow path rest

/-- What a resolved path leads to. A slash at its end asks for a directory. The root's path and a slash stand before it when the
system follows it. -/
def open? (d : DiskFiles) (path : String) : Except FileError Entry :=
  if path.toList.contains '\x00' then .error .invalidName
  else if d.rootBytes + 1 + (Utf8.encode path).length > maxPathBytes then .error .nameTooLong
  else do
    match ← d.follow "" (Path.segments path.toList), path.toList.getLast? with
    | .file _, some '/' => .error .notADirectory
    | entry, _ => .ok entry

/-- What is known of the file at a path; none if there is none there, and an error if the path cannot be followed. -/
def info? (d : DiskFiles) (path : String) : Except FileError (Option FileInfo) :=
  match resolve? path with
  | none => .ok none
  | some path =>
    match d.open? path with
    | .ok (.file file) => .ok (some { path, stamp := file.stamp })
    | .ok .directory => .ok none
    | .error .notFound => .ok none
    | .error e => .error e

/-- The bytes of the file at a path. -/
def read (d : DiskFiles) (path : String) : Except FileError Bytes :=
  match resolve? path with
  | none => .error (.outsideRoot path)
  | some path =>
    match d.open? path with
    | .ok (.file file) => .ok file.bytes
    | .ok .directory => .error .isADirectory
    | .error e => .error e

/-- The tree with a file written, and with the directories above it. -/
def writeAt (d : DiskFiles) (path : String) (bytes : Bytes) (stamp : Int) : DiskFiles :=
  let path := Path.normalize path
  { d with
    files := Table.insert d.files path { bytes, stamp }
    directories := d.directories ++ (Path.ancestors path).filter fun directory => !d.directories.contains directory }

/-- The tree without a file. -/
def remove (d : DiskFiles) (path : String) : DiskFiles :=
  { d with files := Table.erase d.files (Path.normalize path) }

end DiskFiles

end PageTemplates
