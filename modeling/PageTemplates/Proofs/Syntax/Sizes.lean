import PageTemplates.Proofs.Syntax.Parsing

/-!
# Sizes of expressions

The size of an expression counts the text of its paths, which is parsed again when a path is evaluated, and one for every array,
object and call. Main statements: an expression is no longer than the text it is read from (`Reads.size_le`), so the indexes in
the steps that a text is parsed to are shorter than the text (`size_lt_of_parseSteps`).
-/

namespace PageTemplates

namespace Expression

mutual

/-- The size of an expression. -/
def size : Expression → Nat
  | .literal _ => 0
  | .binding path => path.text.toList.length
  | .array items => 1 + sizes items
  | .object entries => 1 + entrySizes entries
  | .call { name := _, args } => 1 + sizes args

/-- The sizes of the items together. -/
def sizes : List Expression → Nat
  | [] => 0
  | e :: es => size e + sizes es

/-- The sizes of the entries' values together. -/
def entrySizes : List (String × Expression) → Nat
  | [] => 0
  | (_, e) :: es => size e + entrySizes es

end

theorem size_le_sizes {e : Expression} {es : List Expression} (h : e ∈ es) : e.size ≤ sizes es := by
  induction h with
  | head es =>
    rw [sizes]
    omega
  | tail _ _ ih =>
    rw [sizes]
    omega

theorem size_le_entrySizes {entry : String × Expression} {es : List (String × Expression)} (h : entry ∈ es) :
    entry.2.size ≤ entrySizes es := by
  induction h with
  | head es =>
    rw [entrySizes]
    omega
  | tail _ _ ih =>
    rw [entrySizes]
    omega

end Expression

/-- The sizes of the indexes in the steps of a path together, with one for the brackets of each. -/
def stepSizes : List (Accessor Expression) → Nat
  | [] => 0
  | .member _ :: steps => stepSizes steps
  | .index e :: steps => e.size + 1 + stepSizes steps

theorem size_lt_stepSizes {e : Expression} {steps : List (Accessor Expression)} (h : .index e ∈ steps) :
    e.size < stepSizes steps := by
  induction steps with
  | nil => cases h
  | cons step steps ih =>
    rcases List.mem_cons.1 h with rfl | h
    · rw [stepSizes]
      omega
    · have := ih h
      cases step with
      | member name => exact this
      | index e' =>
        rw [stepSizes]
        omega

/-- The size of what a phrase stands for. -/
def Phrase.size : Phrase → Nat
  | .expression e => e.size
  | .steps ss => stepSizes ss
  | .items _ es => Expression.sizes es
  | .moreItems _ es => Expression.sizes es
  | .entries es => Expression.entrySizes es
  | .moreEntries es => Expression.entrySizes es
  | .entry _ value => value.size

/-- **Sizes.** A phrase is no larger than the text that it takes up. -/
theorem Reads.size_le {rule : LiteralRule} {φ : Phrase} {cs ds : List Char} (h : Reads rule φ cs ds) :
    φ.size + ds.length ≤ cs.length := by
  induction h with
  | string start literal | number start number | reserved start name word ends bare =>
    have := length_le_of_trimStart start
    simp only [Phrase.size, Expression.size, List.length_append] at this ⊢
    omega
  | array start items ih | object start entries ih =>
    have := length_lt_of_trimStart start
    simp only [Phrase.size, Expression.size] at ih ⊢
    omega
  | call start name items ih =>
    have := length_le_of_trimStart start
    simp only [Phrase.size, Expression.size, List.length_append, List.length_cons] at this ih ⊢
    omega
  | path start name ends plain free rest ih =>
    have := length_le_of_trimStart start
    simp only [Phrase.size, Expression.size, String.toList_ofList, List.length_append] at this ⊢
    omega
  | noStep ends => simp [Phrase.size, stepSizes]
  | member name ends rest ih =>
    simp only [Phrase.size, stepSizes, List.length_cons, List.length_append] at ih ⊢
    omega
  | index value close rest ih ih' =>
    have := length_lt_of_trimStart close
    simp only [Phrase.size, stepSizes, List.length_cons] at ih ih' ⊢
    omega
  | noItem stop | noEntry stop =>
    have := length_lt_of_trimStart stop
    simp only [Phrase.size, Expression.sizes, Expression.entrySizes]
    omega
  | someItems start items ih | someEntries start entries ih => exact ih
  | lastItem item stop mark ih | lastEntry entry stop ih =>
    have := length_lt_of_trimStart stop
    simp only [Phrase.size, Expression.sizes, Expression.entrySizes] at ih ⊢
    omega
  | nextItem item comma items ih ih' | nextEntry entry comma entries ih ih' =>
    have := length_lt_of_trimStart comma
    simp only [Phrase.size, Expression.sizes, Expression.entrySizes] at ih ih' ⊢
    omega
  | named start name ends colon rest ih =>
    have hstart := length_le_of_trimStart start
    have hcolon := length_lt_of_trimStart colon
    simp only [Phrase.size, List.length_append] at ih hstart ⊢
    omega
  | short start name ends bare =>
    have := length_le_of_trimStart start
    simp only [Phrase.size, Expression.size, BindingPath.ofName, String.toList_ofList, List.length_append] at this ⊢
    omega
  | quoted start literal colon rest ih =>
    have hstart := length_le_of_trimStart start
    have hcolon := length_lt_of_trimStart colon
    simp only [Phrase.size, List.length_append] at ih hstart ⊢
    omega

/-- The indexes in the steps that a text is parsed to are shorter than the text. -/
theorem size_lt_of_parseSteps {text : List Char} {steps : List (Accessor Expression)} (h : parseSteps text = .ok steps)
    {e : Expression} (he : .index e ∈ steps) : e.size < text.length := by
  obtain ⟨⟨steps', c⟩, hparse, hrest⟩ := Except.bind_eq_ok.1 h
  have hsteps : steps' = steps := by
    simp only at hrest
    split at hrest
    · exact Except.ok.inj hrest
    · cases hrest
  subst hsteps
  have hreads : Reads anyLiteral (.steps steps') text c.rest :=
    reads_of_parsed _ (.steps steps') .step hparse
  have hsize := hreads.size_le
  have hmem := size_lt_stepSizes he
  simp only [Phrase.size] at hsize
  omega

end PageTemplates
