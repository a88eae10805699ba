import PageTemplates.Syntax.Parser

/-!
# Fragments

A page body is text with expressions between double braces. `parseTemplate` cuts a body into fragments. A span whose inside is
no pipeline is text like any other, and so is everything after a span that never closes; text that comes together is one
fragment.
-/

namespace PageTemplates

/-- An expression span of a body: its source with the braces, the pipeline inside, and the path's text when the initial
expression is a binding. -/
structure Variable where
  source : String
  initial : Expression
  binding : Option String
  stages : List (FilterCall Expression)
  deriving BEq, Inhabited

/-- The span with the given source and pipeline. -/
def Variable.ofPipeline (source : String) (p : Pipeline) : Variable where
  source
  initial := p.initial
  binding := match p.initial with
    | .binding path => some path.text
    | _ => none
  stages := p.stages

/-- A piece of a body: text that is written as it is, or an expression. -/
inductive Fragment where
  | text (s : String)
  | var (v : Variable)
  deriving BEq, Inhabited

/-- The source text of a fragment. -/
def Fragment.source : Fragment → String
  | .text s => s
  | .var v => v.source

/-- The text before the first two opening braces, and the text after them. -/
def splitOpen? : List Char → Option (List Char × List Char)
  | [] => none
  | c :: cs =>
    if c = '\x7b' ∧ cs.head? = some '\x7b' then some ([], cs.tail)
    else (splitOpen? cs).map fun (before, after) => (c :: before, after)

/-- The fragment that a text is, unless it is empty. -/
def textFragment (cs : List Char) : List Fragment :=
  if cs.isEmpty then [] else [.text (String.ofList cs)]

/-- The fragments of a body, after text that is still to be written out. The first argument bounds the number of spans. -/
def fragmentsFrom : Nat → List Char → List Char → List Fragment
  | 0, pending, body => textFragment (pending ++ body)
  | fuel + 1, pending, body =>
    match splitOpen? body with
    | none => textFragment (pending ++ body)
    | some (before, opened) =>
      match splitClose? opened with
      | none => textFragment (pending ++ body)
      | some (inner, after) =>
        let span := ['\x7b', '\x7b'] ++ inner ++ ['\x7d', '\x7d']
        match parsePipeline (Text.trim inner) with
        | .ok p =>
          textFragment (pending ++ before) ++ .var (.ofPipeline (String.ofList span) p) :: fragmentsFrom fuel [] after
        | .error _ => fragmentsFrom fuel (pending ++ before ++ span) after

/-- The fragments of a body. -/
def parseTemplate (body : List Char) : List Fragment :=
  fragmentsFrom (body.length + 1) [] body

end PageTemplates
