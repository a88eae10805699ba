import PageTemplates.Error
import PageTemplates.Text.Html
import PageTemplates.Text.Utf8

/-!
# Stream transformers

A transformer changes a finished piece of output: that of a page, of a whole render, or of a block filter. Main statements:
running a chain of transformers one after the other.
-/

namespace PageTemplates

/-- A function from output to output that may fail. -/
abbrev Transformer := Bytes → Except TemplateError Bytes

namespace Transformer

/-- The output after every transformer in order; the first error ends the chain. -/
def applyAll (transformers : List Transformer) (input : Bytes) : Except TemplateError Bytes :=
  transformers.foldlM (fun bytes transform => transform bytes) input

/-- Writes the text in HTML form. -/
def htmlEncode : Transformer := fun input =>
  match Utf8.decode input with
  | .ok text => .ok (Utf8.encode (Text.escapeHtml text))
  | .error fault => .error (.transform fault.message)

/-- The ASCII blanks: space, tab, line feed, form feed and carriage return. -/
def isAsciiBlank (b : UInt8) : Bool :=
  b == 0x20 || b == 0x09 || b == 0x0A || b == 0x0C || b == 0x0D

/-- Drops the ASCII blanks at both ends. -/
def trim : Transformer := fun input =>
  .ok ((input.dropWhile isAsciiBlank).reverse.dropWhile isAsciiBlank).reverse

@[simp]
theorem applyAll_nil (input : Bytes) : applyAll [] input = .ok input := rfl

theorem applyAll_cons (transform : Transformer) (transformers : List Transformer) (input : Bytes) :
    applyAll (transform :: transformers) input = transform input >>= applyAll transformers := rfl

end Transformer

end PageTemplates
