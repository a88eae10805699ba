import PageTemplates.Text.TitleCase

/-!
# Virtual paths

Paths name files in a file source. Their segments stand between slashes, they start with no slash, and the root directory is the
empty path. `normalize` gives every path that form; a slash at the end is kept, since it names the index page of a directory.
-/

namespace PageTemplates.Path

/-- Both slashes separate segments. -/
def isSeparator (c : Char) : Bool :=
  c == '/' || c == '\\'

/-- The path with forward slashes only. -/
def forward (cs : List Char) : List Char :=
  cs.map fun c => if c = '\\' then '/' else c

/-- A segment that says where to go: neither empty nor a single point. -/
def isProper (segment : List Char) : Bool :=
  segment != [] && segment != ['.']

/-- The proper segments of a path. -/
def segments (cs : List Char) : List (List Char) :=
  (Text.splitAtChar '/' (forward cs)).filter isProper

/-- The normal form of a path: its proper segments between slashes, and a slash at the end if the path had one. -/
def normalizeChars (cs : List Char) : List Char :=
  let joined := ['/'].intercalate (segments cs)
  if (cs.getLast?.map isSeparator).getD false && !joined.isEmpty then joined ++ ['/'] else joined

/-- The normal form of a path. -/
def normalize (path : String) : String :=
  String.ofList (normalizeChars path.toList)

/-- A text without the given character at its end. -/
def trimEndOf (mark : Char) (cs : List Char) : List Char :=
  (cs.reverse.dropWhile (· == mark)).reverse

/-- A text without the given character at its start. -/
def trimStartOf (mark : Char) (cs : List Char) : List Char :=
  cs.dropWhile (· == mark)

/-- The text before the last occurrence of a character and the text after it. -/
def splitLast? (mark : Char) (cs : List Char) : Option (List Char × List Char) :=
  match cs.reverse.span (· != mark) with
  | (after, _ :: before) => some (before.reverse, after.reverse)
  | (_, []) => none

/-- The directory that holds a path; none for the root. -/
def parent? (path : String) : Option String :=
  let cs := trimEndOf '/' path.toList
  if cs.isEmpty then none
  else match splitLast? '/' cs with
    | some (directory, _) => some (String.ofList directory)
    | none => some ""

/-- The last segment of a path. -/
def lastSegment (cs : List Char) : List Char :=
  match splitLast? '/' cs with
  | some (_, name) => name
  | none => cs

/-- The extension of the last segment: what follows its last point, unless the segment starts with that point. -/
def extension? (path : String) : Option String :=
  match splitLast? '.' (lastSegment path.toList) with
  | some ([], _) => none
  | some (_, extension) => some (String.ofList extension)
  | none => none

/-- The path without the extension of its last segment. -/
def stripExtension (path : String) : String :=
  match extension? path with
  | some extension => String.ofList (path.toList.take (path.toList.length - extension.toList.length - 1))
  | none => path

/-- The path of a name in a directory. -/
def join (directory name : String) : String :=
  let cs := trimEndOf '/' directory.toList
  if cs.isEmpty then name else String.ofList cs ++ "/" ++ name

/-- The directories above a path, from its own up to the root. The first argument bounds their number. -/
def ancestorsFrom : Nat → String → List String
  | 0, _ => []
  | fuel + 1, path =>
    match parent? path with
    | some directory => directory :: ancestorsFrom fuel directory
    | none => []

/-- The directories above a path, from its own up to the root. -/
def ancestors (path : String) : List String :=
  ancestorsFrom (path.toList.length + 1) path

end PageTemplates.Path
