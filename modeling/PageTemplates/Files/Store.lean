import PageTemplates.Files.Disk

/-!
# File stores

The source of a site's pages: files in memory or a directory tree on disk.
-/

namespace PageTemplates

/-- A source of files. -/
inductive FileStore where
  | memory (files : MemoryFiles)
  | disk (files : DiskFiles)
  deriving DecidableEq, Inhabited

namespace FileStore

/-- What is known of the file at a path; none if there is no file. -/
def info? : FileStore → String → Except FileError (Option FileInfo)
  | .memory m, path => .ok (m.info? path)
  | .disk d, path => d.info? path

/-- The bytes of the file at a path. -/
def read : FileStore → String → Except FileError Bytes
  | .memory m, path =>
    match m.get? path with
    | some file => .ok file.bytes
    | none => .error (.missing (Path.normalize path))
  | .disk d, path => d.read path

/-- The file at a path, whatever keeps paths from being followed. -/
def file? : FileStore → String → Option StoredFile
  | .memory m, path => m.get? path
  | .disk d, path => Table.get? d.files (Path.normalize path)

/-- The store with a file written at a given time. -/
def writeAt : FileStore → String → Bytes → Int → FileStore
  | .memory m, path, bytes, stamp => .memory (m.writeAt path bytes stamp)
  | .disk d, path, bytes, stamp => .disk (d.writeAt path bytes stamp)

/-- The store with a file written by the clock; a file that is written again gets a later stamp than before. -/
def write : FileStore → String → Bytes → Int → FileStore
  | .memory m, path, bytes, now => .memory (m.write path bytes now)
  | .disk d, path, bytes, now =>
    .disk (d.writeAt path bytes (MemoryFiles.nextStamp { files := d.files } path now))

/-- The store without a file. -/
def remove : FileStore → String → FileStore
  | .memory m, path => .memory (m.remove path)
  | .disk d, path => .disk (d.remove path)

end FileStore

end PageTemplates
