import PageTemplates.Path
import PageTemplates.Table
import PageTemplates.Text.Utf8

/-!
# Files in memory

Files under normal paths, each with its bytes and the stamp of its last change. A file that is written again gets a later stamp
than before, even if the clock stands still.
-/

namespace PageTemplates

/-- A file. Its stamp is the time of its last change in milliseconds. -/
structure StoredFile where
  bytes : Bytes
  stamp : Int
  deriving DecidableEq, Inhabited

/-- What is known of a file without reading it. -/
structure FileInfo where
  path : String
  stamp : Int
  deriving DecidableEq, Inhabited

/-- Files by their normal paths. -/
structure MemoryFiles where
  files : Table StoredFile := []
  deriving DecidableEq, Inhabited

namespace MemoryFiles

/-- The store with a file written at a given time, whatever its stamp was. -/
def writeAt (m : MemoryFiles) (path : String) (bytes : Bytes) (stamp : Int) : MemoryFiles where
  files := Table.insert m.files (Path.normalize path) { bytes, stamp }

/-- The file at a path. -/
def get? (m : MemoryFiles) (path : String) : Option StoredFile :=
  Table.get? m.files (Path.normalize path)

/-- The stamp of a file that is written: the time of the clock if that is later than the present stamp, else the next one. -/
def nextStamp (m : MemoryFiles) (path : String) (now : Int) : Int :=
  match m.get? path with
  | some file => if file.stamp ≥ now then file.stamp + 1 else now
  | none => now

/-- The store with a file written by the clock. -/
def write (m : MemoryFiles) (path : String) (bytes : Bytes) (now : Int) : MemoryFiles :=
  m.writeAt path bytes (m.nextStamp path now)

/-- The store without a file. -/
def remove (m : MemoryFiles) (path : String) : MemoryFiles where
  files := Table.erase m.files (Path.normalize path)

/-- What is known of a file. -/
def info? (m : MemoryFiles) (path : String) : Option FileInfo :=
  (m.get? path).map fun file => { path := Path.normalize path, stamp := file.stamp }

/-- The number of files. -/
def size (m : MemoryFiles) : Nat :=
  m.files.length

/-- A file that is written again has a later stamp. -/
theorem stamp_lt_nextStamp {m : MemoryFiles} {path : String} {file : StoredFile} (h : m.get? path = some file) (now : Int) :
    file.stamp < m.nextStamp path now := by
  simp only [nextStamp, h]
  split <;> omega

end MemoryFiles

end PageTemplates
