import Mathlib.Data.List.Chain
import PageTemplates.Proofs.Syntax.Spans

/-!
# The fragments of a body

Cutting a body into fragments neither drops nor moves a character, whichever spans close and whichever of them are pipelines.
`Cuts` has one rule for each way the cutting can go on, and everything about the fragments is an induction over it. Main
statements: the fragments cover the body, texts among them are not empty and do not meet, and every expression carries the
pipeline of its own span and is read back from that span alone (`parseTemplate_cover`); a body without two opening braces is
one text (`parseTemplate_of_no_span`).
-/

namespace PageTemplates

/-! ## Where the scans stop -/

/-- The two opening braces stand where the scan for them says. -/
theorem eq_of_splitOpen? {cs before after : List Char} (h : splitOpen? cs = some (before, after)) :
    cs = before ++ '\x7b' :: '\x7b' :: after := by
  induction cs generalizing before with
  | nil => simp [splitOpen?] at h
  | cons c cs ih =>
    rw [splitOpen?] at h
    split at h
    · rename_i hc
      obtain ⟨rfl, hd⟩ := hc
      simp only [Option.some.injEq, Prod.mk.injEq] at h
      obtain ⟨rfl, rfl⟩ := h
      match cs, hd with
      | _ :: _, rfl => rfl
    · obtain ⟨⟨b, a⟩, hb, he⟩ := Option.map_eq_some_iff.1 h
      simp only [Prod.mk.injEq] at he
      obtain ⟨rfl, rfl⟩ := he
      rw [ih hb]
      rfl

/-- The scan finds no opening braces exactly in the texts without two of them. -/
theorem splitOpen?_eq_none_iff {cs : List Char} : splitOpen? cs = none ↔ ¬['\x7b', '\x7b'] <:+: cs := by
  induction cs with
  | nil => simp [splitOpen?]
  | cons c cs ih =>
    rw [splitOpen?, List.infix_cons_iff, not_or, ← ih]
    split
    · rename_i hc
      obtain ⟨rfl, hd⟩ := hc
      match cs, hd with
      | _ :: _, rfl => simp
    · rename_i hc
      have hp : ¬['\x7b', '\x7b'] <+: c :: cs := by
        rintro ⟨t, ht⟩
        obtain ⟨rfl, rfl⟩ := List.cons.inj ht
        exact hc ⟨rfl, rfl⟩
      simp [hp]

/-- The scan for the closing braces stops at the end of the text before them. -/
theorem stopsAtEnd_of_splitCloseFrom {s : ScanState} {cs inner after : List Char}
    (h : splitCloseFrom s cs = some (inner, after)) : StopsAtEnd s inner := by
  induction cs generalizing s inner with
  | nil => simp [splitCloseFrom] at h
  | cons c cs ih =>
    rw [splitCloseFrom] at h
    split at h
    · rename_i hc
      simp only [Option.some.injEq, Prod.mk.injEq] at h
      obtain ⟨rfl, -⟩ := h
      exact stopsAtEnd_nil.2 hc.1
    · rename_i hgo
      obtain ⟨⟨i, a⟩, hi, he⟩ := Option.map_eq_some_iff.1 h
      simp only [Prod.mk.injEq] at he
      obtain ⟨rfl, rfl⟩ := he
      refine stopsAtEnd_cons.2 ⟨?_, ih hi⟩
      -- The next character is the same one, whatever stands after the two braces.
      have hhead : (i ++ ['\x7d', '\x7d']).head? = cs.head? := by
        rw [eq_of_splitCloseFrom hi]
        cases i <;> rfl
      rw [hhead]
      exact hgo

/-! ## The steps of the cutting -/

/-- The fragments of a body after pending text: a text to the end, an expression with the text before it, or what follows a
span that is no pipeline and has become pending text. -/
inductive Cuts : List Char → List Char → List Fragment → Prop where
  | text (pending body : List Char) : Cuts pending body (textFragment (pending ++ body))
  | expression {before inner after : List Char} {p : Pipeline} {fragments : List Fragment} (pending : List Char)
      (stops : StopsAtEnd (.outside 0) inner) (pipeline : parsePipeline (Text.trim inner) = .ok p)
      (rest : Cuts [] after fragments) :
      Cuts pending (before ++ (spanText inner ++ after))
        (textFragment (pending ++ before) ++ .var (.ofPipeline (String.ofList (spanText inner)) p) :: fragments)
  | failed {pending before inner after : List Char} {fragments : List Fragment}
      (rest : Cuts (pending ++ before ++ spanText inner) after fragments) :
      Cuts pending (before ++ (spanText inner ++ after)) fragments

theorem cuts_fragmentsFrom (fuel : Nat) (pending body : List Char) :
    Cuts pending body (fragmentsFrom fuel pending body) := by
  induction fuel generalizing pending body with
  | zero => exact .text pending body
  | succ fuel ih =>
    rw [fragmentsFrom]
    split
    · exact .text pending body
    · rename_i before opened hopen
      split
      · exact .text pending body
      · rename_i inner after hclose
        have hbody : body = before ++ (spanText inner ++ after) := by
          rw [eq_of_splitOpen? hopen, eq_of_splitClose? hclose]
          simp [spanText]
        rw [hbody]
        split
        · rename_i p hp
          exact .expression pending (stopsAtEnd_of_splitCloseFrom hclose) hp (ih [] after)
        · exact .failed (ih _ after)

theorem cuts_parseTemplate (body : List Char) : Cuts [] body (parseTemplate body) :=
  cuts_fragmentsFrom _ [] body

/-! ## The sources in a row -/

/-- The sources of fragments one after the other. -/
def sourcesOf (fragments : List Fragment) : List Char :=
  fragments.flatMap fun f => f.source.toList

@[simp]
theorem sourcesOf_nil : sourcesOf [] = [] := rfl

@[simp]
theorem sourcesOf_cons (f : Fragment) (fs : List Fragment) : sourcesOf (f :: fs) = f.source.toList ++ sourcesOf fs := rfl

@[simp]
theorem sourcesOf_textFragment (cs : List Char) (fs : List Fragment) :
    sourcesOf (textFragment cs ++ fs) = cs ++ sourcesOf fs := by
  by_cases h : cs = []
  · simp [textFragment, h]
  · simp [textFragment_of_ne_nil h, Fragment.source]

/-- Nothing of the pending text and the body is lost. -/
theorem Cuts.sourcesOf_eq {pending body : List Char} {fragments : List Fragment} (h : Cuts pending body fragments) :
    sourcesOf fragments = pending ++ body := by
  induction h with
  | text pending body => simpa using sourcesOf_textFragment (pending ++ body) []
  | expression pending stops pipeline rest ih => simp [Fragment.source, Variable.ofPipeline, ih]
  | failed rest ih => simp [ih]

/-! ## Texts among the fragments -/

/-- The fragment is text. -/
def Fragment.isText : Fragment → Bool
  | .text _ => true
  | .var _ => false

theorem ne_empty_of_mem_textFragment {cs : List Char} {s : String} (h : Fragment.text s ∈ textFragment cs) : s ≠ "" := by
  rw [textFragment] at h
  split at h
  · simp at h
  · rename_i hcs
    obtain rfl : s = String.ofList cs := by simpa using h
    intro he
    rw [← String.toList_inj, String.toList_ofList] at he
    exact hcs (by simpa using he)

theorem Cuts.ne_empty {pending body : List Char} {fragments : List Fragment} (h : Cuts pending body fragments) :
    ∀ s, Fragment.text s ∈ fragments → s ≠ "" := by
  induction h with
  | text pending body => exact fun s hs => ne_empty_of_mem_textFragment hs
  | expression pending stops pipeline rest ih =>
    intro s hs
    rcases List.mem_append.1 hs with hs | hs
    · exact ne_empty_of_mem_textFragment hs
    · rcases List.mem_cons.1 hs with hs | hs
      · simp at hs
      · exact ih s hs
  | failed rest ih => exact ih

/-- Of two fragments in a row one is an expression: text is written out before an expression and at the end, nowhere else. -/
theorem Cuts.isChain {pending body : List Char} {fragments : List Fragment} (h : Cuts pending body fragments) :
    fragments.IsChain fun f g => ¬(f.isText = true ∧ g.isText = true) := by
  induction h with
  | text pending body =>
    rw [textFragment]
    split <;> simp
  | expression pending stops pipeline rest ih =>
    have hvar : ∀ v, (Fragment.var v :: _).IsChain fun f g : Fragment => ¬(f.isText = true ∧ g.isText = true) := fun v =>
      List.isChain_cons.2 ⟨fun g _ => by simp [Fragment.isText], ih⟩
    rw [textFragment]
    split
    · exact hvar _
    · exact List.isChain_cons.2 ⟨by simp [Fragment.isText], hvar _⟩
  | failed rest ih => exact ih

/-! ## Expressions among the fragments -/

/-- An expression is the span of a text: its source is the text between double braces, its pipeline is the one that the trimmed
text parses to, it knows the path that its initial expression is, and its source is no other fragment. -/
structure Variable.IsSpanOf (v : Variable) (inner : List Char) : Prop where
  source : v.source.toList = spanText inner
  pipeline : parsePipeline (Text.trim inner) = .ok { initial := v.initial, stages := v.stages }
  binding : ∀ text, v.binding = some text ↔ ∃ path, v.initial = .binding path ∧ path.text = text
  alone : parseTemplate v.source.toList = [.var v]

theorem binding_ofPipeline (source : String) (p : Pipeline) (text : String) :
    (Variable.ofPipeline source p).binding = some text ↔ ∃ path, p.initial = .binding path ∧ path.text = text := by
  cases p with
  | mk initial stages => cases initial <;> simp [Variable.ofPipeline]

theorem isSpanOf_ofPipeline {inner : List Char} {p : Pipeline} (hs : StopsAtEnd (.outside 0) inner)
    (hp : parsePipeline (Text.trim inner) = .ok p) :
    (Variable.ofPipeline (String.ofList (spanText inner)) p).IsSpanOf inner where
  source := String.toList_ofList
  pipeline := hp
  binding := binding_ofPipeline _ p
  alone := by
    rw [Variable.ofPipeline, String.toList_ofList]
    exact (parseTemplate_spanText_iff hp).2 hs

theorem Cuts.isSpanOf {pending body : List Char} {fragments : List Fragment} (h : Cuts pending body fragments) :
    ∀ v, Fragment.var v ∈ fragments → ∃ inner, v.IsSpanOf inner := by
  induction h with
  | text pending body =>
    intro v hv
    rw [textFragment] at hv
    split at hv <;> simp at hv
  | @expression before inner after p fragments pending stops pipeline rest ih =>
    intro v hv
    rcases List.mem_append.1 hv with hv | hv
    · rw [textFragment] at hv
      split at hv <;> simp at hv
    · rcases List.mem_cons.1 hv with hv | hv
      · obtain rfl := Fragment.var.inj hv
        exact ⟨inner, isSpanOf_ofPipeline stops pipeline⟩
      · exact ih v hv
  | failed rest ih => exact ih

/-- The fragments of a body cover it, texts among them are not empty and no two of them meet, and every expression is the span
of a text. -/
theorem parseTemplate_cover (body : List Char) :
    sourcesOf (parseTemplate body) = body ∧
      (∀ s, .text s ∈ parseTemplate body → s ≠ "") ∧
      (parseTemplate body).IsChain (fun f g => ¬(f.isText = true ∧ g.isText = true)) ∧
      ∀ v, .var v ∈ parseTemplate body → ∃ inner, v.IsSpanOf inner := by
  have h := cuts_parseTemplate body
  exact ⟨h.sourcesOf_eq, h.ne_empty, h.isChain, h.isSpanOf⟩

/-- A body with a span that is no pipeline, a path and a span that does not close. -/
theorem parseTemplate_cover_path :
    let body := spanText [] ++ 'a' :: spanText [' ', 'b', '.', 'c', ' '] ++ ['\x7b', '\x7b']
    let v : Variable :=
      { source := "\x7b\x7b b.c \x7d\x7d", initial := .binding ⟨"b.c", "b", [.member "c"]⟩, binding := some "b.c",
        stages := [] }
    parseTemplate body = [.text "\x7b\x7b\x7d\x7da", .var v, .text "\x7b\x7b"] ∧ sourcesOf (parseTemplate body) = body ∧
      ∃ inner, v.IsSpanOf inner := by
  intro body v
  obtain ⟨hsources, -, -, hspan⟩ := parseTemplate_cover body
  have hbody : parseTemplate body = [.text "\x7b\x7b\x7d\x7da", .var v, .text "\x7b\x7b"] := rfl
  exact ⟨hbody, hsources, hspan v (by rw [hbody]; simp)⟩

/-! ## Bodies without expressions -/

/-- A body without two opening braces is one text. -/
theorem parseTemplate_of_no_span {body : List Char} (h : ¬['\x7b', '\x7b'] <:+: body) :
    parseTemplate body = textFragment body := by
  rw [parseTemplate, fragmentsFrom, splitOpen?_eq_none_iff.2 h, List.nil_append]

end PageTemplates
