import PageTemplates.Text.Blank

/-!
# Front matter

A page may begin with a block of arguments between a prefix line and a suffix line, which the page format names. Each line of
the block holds a key and a value around its first colon. Reading is lenient: blank lines do not count, a line without a colon
is a key with an empty value, and a block without a suffix line takes the rest of the source.
-/

namespace PageTemplates

/-- The arguments of a page, in source order with repetitions kept, and its body. -/
structure FrontMatter where
  args : List (String × String)
  body : List Char
  deriving DecidableEq, Inhabited

namespace FrontMatter

/-- Whether the page has arguments. -/
def hasArgs (m : FrontMatter) : Bool :=
  !m.args.isEmpty

/-- The last value given for a key. -/
def get? (m : FrontMatter) (key : String) : Option String :=
  (m.args.reverse.find? (·.1 = key)).map (·.2)

/-- The lines of a text, each with what follows it. The line breaks are dropped, and nothing follows the last one. -/
def lines : List Char → List (List Char × List Char)
  | [] => []
  | c :: cs =>
    if c = '\n' then ([], cs) :: lines cs
    else match lines cs with
      | [] => [([c], [])]
      | (line, after) :: more => (c :: line, after) :: more

/-- The key and the value of a trimmed line. -/
def argument (line : List Char) : String × String :=
  match line.span (· != ':') with
  | (key, _ :: value) => (String.ofList (Text.trim key), String.ofList (Text.trim value))
  | (key, []) => (String.ofList key, "")

/-- The arguments in the lines of a block, and the body after its suffix line. -/
def readBlock (suffixMark : List Char) : List (List Char × List Char) → FrontMatter
  | [] => { args := [], body := [] }
  | (line, after) :: more =>
    let text := Text.trim line
    if text.isEmpty then readBlock suffixMark more
    else if suffixMark.isPrefixOf text then { args := [], body := Text.trimStart after }
    else
      let rest := readBlock suffixMark more
      { rest with args := argument text :: rest.args }

/-- The front matter of a source. Only a source whose first line that is not blank starts with the prefix mark has a block;
without one the body is the whole source. -/
def parse (source prefixMark suffixMark : List Char) : FrontMatter :=
  match lines (Text.trimStart source) with
  | (first, _) :: block =>
    if !prefixMark.isEmpty && prefixMark.isPrefixOf (Text.trim first) then readBlock suffixMark block
    else { args := [], body := source }
  | [] => { args := [], body := source }

end FrontMatter

end PageTemplates
