import Mathlib.Data.List.TakeDrop
import PageTemplates.Proofs.Syntax.Parsing

/-!
# Paths and their texts

A path is evaluated from its text: the head is cut off, and the rest is parsed again when the steps are taken. The steps that
the parser found are not looked at then, so the two readings have to agree. Main statement: they do, for every path that
stands anywhere in a parsed expression or pipeline (`parsed_paths_splitBack`). A path takes up a piece of the text and reads
the same when the text is cut after it, so its own text alone gives the same steps.
-/

namespace PageTemplates

/-! ## Where a path stands -/

/-- A path stands in an expression: it is the expression, or it stands in an index, an item, the value of an entry or an
argument. -/
inductive BindingPath.StandsIn (p : BindingPath Expression) : Expression → Prop where
  | self : StandsIn p (.binding p)
  | index {q : BindingPath Expression} {e : Expression} (step : .index e ∈ q.steps) (h : StandsIn p e) :
      StandsIn p (.binding q)
  | item {items : List Expression} {e : Expression} (item : e ∈ items) (h : StandsIn p e) : StandsIn p (.array items)
  | value {entries : List (String × Expression)} {key : String} {e : Expression} (entry : (key, e) ∈ entries)
      (h : StandsIn p e) : StandsIn p (.object entries)
  | argument {call : FilterCall Expression} {e : Expression} (argument : e ∈ call.args) (h : StandsIn p e) :
      StandsIn p (.call call)

/-- A path stands in a pipeline: in its initial expression or in an argument of a stage. -/
def BindingPath.StandsInPipeline (p : BindingPath Expression) (q : Pipeline) : Prop :=
  p.StandsIn q.initial ∨ ∃ stage ∈ q.stages, ∃ e ∈ stage.args, p.StandsIn e

/-- A path stands in an expression of a phrase. -/
def BindingPath.StandsInPhrase (p : BindingPath Expression) : Phrase → Prop
  | .expression e => p.StandsIn e
  | .steps steps => ∃ e, .index e ∈ steps ∧ p.StandsIn e
  | .items _ items => ∃ e ∈ items, p.StandsIn e
  | .moreItems _ items => ∃ e ∈ items, p.StandsIn e
  | .entries entries => ∃ entry ∈ entries, p.StandsIn entry.2
  | .moreEntries entries => ∃ entry ∈ entries, p.StandsIn entry.2
  | .entry _ value => p.StandsIn value

/-! ## The text of a path -/

/-- The text of a path says what the path is: it is the head and the rest, it is cut between them, and the rest parses to the
steps. -/
structure BindingPath.SplitsBack (p : BindingPath Expression) : Prop where
  text : p.text = p.head ++ p.rest
  split : splitBinding p.text.toList = (p.head.toList, p.rest.toList)
  steps : parseSteps p.rest.toList = .ok p.steps

/-- The head of a path is not cut off inside a name. -/
theorem not_cut_of_isNameChar {c : Char} (h : isNameChar c = true) : (c != '.' && c != '[' && c != ' ') = true := by
  have hne : ∀ x, isNameChar x = false → c ≠ x := by
    rintro x hx rfl
    exact Bool.false_ne_true (hx.symm.trans h)
  simp [hne '.' (by decide), hne '[' (by decide), hne ' ' (by decide)]

/-- A name is cut off from the text of steps after it. -/
theorem splitBinding_append {w u : List Char} (hw : IsName w) (hu : u = [] ∨ u.head? = some '.' ∨ u.head? = some '[') :
    splitBinding (w ++ u) = (w, u) := by
  have hstart : StartsNot (fun c => c != '.' && c != '[' && c != ' ') u := by
    intro c hc
    rcases hu with rfl | hu | hu
    · simp at hc
    all_goals
      rw [hu, Option.mem_some_iff] at hc
      rw [← hc]
      decide
  have hname : ∀ c ∈ w, (c != '.' && c != '[' && c != ' ') = true := fun c hc => not_cut_of_isNameChar (hw.isNameChar c hc)
  have htake := takeWhile_append_of_startsNot hname hstart
  have hdrop : (w ++ u).dropWhile (fun c => c != '.' && c != '[' && c != ' ') = u := by
    have happ := List.takeWhile_append_dropWhile (p := fun c => c != '.' && c != '[' && c != ' ') (l := w ++ u)
    rw [htake] at happ
    exact List.append_cancel_left happ
  rw [splitBinding, List.span_eq_takeWhile_dropWhile, htake, hdrop]

/-- Steps that the grammar reads to the end of a text are the steps that the text is. -/
theorem parseSteps_of_reads {rule : LiteralRule} {steps : List (Accessor Expression)} {u : List Char}
    (h : Reads rule (.steps steps) u []) : parseSteps u = .ok steps := by
  obtain ⟨d, hd, hr⟩ := h.parsed (nestingBound u) (Cursor.ofList u) .step rfl (Nat.add_le_add_left (by decide : 1 ≤ 3) _)
  simp only [Phrase.Parsed] at hd
  simp only [parseSteps, hd, hr, List.isEmpty_nil, if_true, bind, Except.bind, pure, Except.pure]

/-- A name and the text of steps after it are the text of a path that splits back. -/
theorem splitsBack_of_reads {rule : LiteralRule} {steps : List (Accessor Expression)} {w u : List Char} (hw : IsName w)
    (h : Reads rule (.steps steps) u []) :
    BindingPath.SplitsBack { text := String.ofList (w ++ u), head := String.ofList w, steps } := by
  have hu : u = [] ∨ u.head? = some '.' ∨ u.head? = some '[' := by
    by_cases hs : steps = []
    · subst hs
      exact Or.inl (reads_steps_nil.1 h).1
    · exact Or.inr (h.head?_of_steps hs)
  have hrest : BindingPath.rest { text := String.ofList (w ++ u), head := String.ofList w, steps } = String.ofList u := by
    simp [BindingPath.rest]
  refine ⟨?_, ?_, ?_⟩
  · rw [hrest, String.ofList_append]
  · rw [hrest, String.toList_ofList, String.toList_ofList, String.toList_ofList]
    exact splitBinding_append hw hu
  · rw [hrest, String.toList_ofList]
    exact parseSteps_of_reads h

/-! ## The paths of a phrase -/

/-- Every path of a phrase splits back. The induction is on the grammar's derivation; at a path itself the text after the path
is cut off, and its indexes stand in the steps. -/
theorem Reads.splitsBack {rule : LiteralRule} {φ : Phrase} {cs ds : List Char} (h : Reads rule φ cs ds) :
    ∀ p : BindingPath Expression, p.StandsInPhrase φ → p.SplitsBack := by
  induction h with
  | string start literal | number start number | reserved start name word ends bare =>
    intro p hp
    cases hp
  | array start items ih =>
    intro p hp
    cases hp with
    | item hmem hp => exact ih p ⟨_, hmem, hp⟩
  | object start entries ih =>
    intro p hp
    cases hp with
    | value hmem hp => exact ih p ⟨_, hmem, hp⟩
  | call start name items ih =>
    intro p hp
    cases hp with
    | argument hmem hp => exact ih p ⟨_, hmem, hp⟩
  | @path cs w u ds steps start name ends plain free rest ih =>
    intro p hp
    cases hp with
    | self =>
      obtain ⟨u', hu, -, hcut⟩ := rest.consumes
      obtain rfl : u = u' := List.append_cancel_right hu
      have halone := hcut [] ds rfl
      rw [List.append_nil] at halone
      exact splitsBack_of_reads name halone
    | index hmem hp => exact ih p ⟨_, hmem, hp⟩
  | noStep ends =>
    rintro p ⟨e, he, -⟩
    cases he
  | member name ends rest ih =>
    rintro p ⟨e, he, hp⟩
    rcases List.mem_cons.1 he with he | he
    · cases he
    · exact ih p ⟨e, he, hp⟩
  | index value close rest ih ih' =>
    rintro p ⟨e, he, hp⟩
    rcases List.mem_cons.1 he with he | he
    · rw [Accessor.index.inj he] at hp
      exact ih p hp
    · exact ih' p ⟨e, he, hp⟩
  | noItem stop | noEntry stop =>
    rintro p ⟨e, he, -⟩
    cases he
  | someItems start items ih | someEntries start entries ih => exact ih
  | lastItem item stop mark ih | lastEntry entry stop ih =>
    rintro p ⟨e, he, hp⟩
    rw [List.mem_singleton.1 he] at hp
    exact ih p hp
  | nextItem item comma items ih ih' | nextEntry entry comma entries ih ih' =>
    rintro p ⟨e, he, hp⟩
    rcases List.mem_cons.1 he with he | he
    · rw [he] at hp
      exact ih p hp
    · exact ih' p ⟨e, he, hp⟩
  | named start name ends colon rest ih | quoted start literal colon rest ih => exact ih
  | @short cs w ds start name ends bare =>
    intro p hp
    cases hp with
    | self =>
      have hsteps : Reads anyLiteral (.steps []) [] [] := .noStep (.nil _)
      simpa [BindingPath.ofName] using splitsBack_of_reads name hsteps
    | index hmem => cases hmem

/-! ## The paths of an expression and of a pipeline -/

theorem splitsBack_of_parseExpression {text : List Char} {e : Expression} (h : parseExpression text = .ok e)
    {p : BindingPath Expression} (hp : p.StandsIn e) : p.SplitsBack := by
  obtain ⟨rest, hr, -⟩ := parseExpression_eq_ok.1 h
  exact hr.splitsBack p hp

/-- The argument after a colon is a constant. -/
theorem not_standsIn_colonArgument {text : List Char} {e : Expression} (he : e ∈ colonArgument text)
    {p : BindingPath Expression} : ¬p.StandsIn e := by
  have hconst : ∃ s, e = .string s := by
    simp only [colonArgument] at he
    split at he
    · cases he
    · split at he
      all_goals exact ⟨_, List.mem_singleton.1 he⟩
  obtain ⟨s, rfl⟩ := hconst
  intro hp
  cases hp

/-- The paths in the arguments of a stage split back. -/
theorem splitsBack_of_parseStageArguments {c d : Cursor} {args : List Expression} (h : parseStageArguments c = .ok (args, d))
    {e : Expression} (he : e ∈ args) {p : BindingPath Expression} (hp : p.StandsIn e) : p.SplitsBack := by
  simp only [parseStageArguments] at h
  split at h
  · exact (reads_of_parsed _ (.items ')' args) .endOfArguments h).splitsBack p ⟨e, he, hp⟩
  · split at h
    · obtain ⟨rfl, -⟩ := Prod.mk.inj (Except.ok.inj h)
      exact absurd hp (not_standsIn_colonArgument he)
    · obtain ⟨rfl, -⟩ := Prod.mk.inj (Except.ok.inj h)
      cases he

/-- The paths in the arguments of stages split back, however many stages follow. -/
theorem splitsBack_of_parseStages {fuel : Nat} {c : Cursor} {stages : List (FilterCall Expression)}
    (h : parseStages fuel c = .ok stages) {stage : FilterCall Expression} (hstage : stage ∈ stages) {e : Expression}
    (he : e ∈ stage.args) {p : BindingPath Expression} (hp : p.StandsIn e) : p.SplitsBack := by
  induction fuel generalizing c stages with
  | zero => simp [parseStages] at h
  | succ fuel ih =>
    simp only [parseStages] at h
    split at h
    · obtain rfl := Except.ok.inj h
      cases hstage
    · split at h
      · split at h
        · cases h
        · rename_i name d _
          obtain ⟨⟨args, f⟩, hargs, h⟩ := Except.bind_eq_ok.1 h
          obtain ⟨more, hmore, h⟩ := Except.bind_eq_ok.1 h
          obtain rfl : { name, args } :: more = stages := Except.ok.inj h
          rcases List.mem_cons.1 hstage with rfl | hstage
          · exact splitsBack_of_parseStageArguments hargs he hp
          · exact ih hmore hstage
      · cases h

theorem splitsBack_of_parsePipeline {text : List Char} {q : Pipeline} (h : parsePipeline text = .ok q)
    {p : BindingPath Expression} (hp : p.StandsInPipeline q) : p.SplitsBack := by
  obtain ⟨⟨initial, c⟩, hinitial, h⟩ := Except.bind_eq_ok.1 h
  obtain ⟨stages, hstages, h⟩ := Except.bind_eq_ok.1 h
  obtain rfl : { initial, stages } = q := Except.ok.inj h
  rcases hp with hp | ⟨stage, hstage, e, he, hp⟩
  · exact (reads_of_parsed _ (.expression initial) .endOfExpression hinitial).splitsBack p hp
  · exact splitsBack_of_parseStages hstages hstage he hp

/-- Every path in what a text parses to, as an expression or as a pipeline, splits back into its head and its steps. -/
theorem parsed_paths_splitBack (text : List Char) :
    (∀ e, parseExpression text = .ok e → ∀ p : BindingPath Expression, p.StandsIn e → p.SplitsBack) ∧
      ∀ q, parsePipeline text = .ok q → ∀ p : BindingPath Expression, p.StandsInPipeline q → p.SplitsBack :=
  ⟨fun _ he _ hp => splitsBack_of_parseExpression he hp, fun _ hq _ hp => splitsBack_of_parsePipeline hq hp⟩

/-- A path with an index and blanks in it, the path of the index, and an entry without a value in an argument. -/
theorem parsed_paths_splitBack_nested :
    let c : BindingPath Expression := { text := "c.d", head := "c", steps := [.member "d"] }
    let a : BindingPath Expression := { text := "a[ c.d ].b", head := "a", steps := [.index (.binding c), .member "b"] }
    let q : Pipeline :=
      { initial := .binding a, stages := [{ name := "f", args := [.object [("e", .binding (.ofName "e"))]] }] }
    parsePipeline
        ['a', '[', ' ', 'c', '.', 'd', ' ', ']', '.', 'b', ' ', '|', ' ', 'f', '(', '\x7b', 'e', '\x7d', ')'] = .ok q ∧
      a.SplitsBack ∧ c.SplitsBack ∧ (BindingPath.ofName "e" : BindingPath Expression).SplitsBack := by
  intro c a q
  have hq : parsePipeline
      ['a', '[', ' ', 'c', '.', 'd', ' ', ']', '.', 'b', ' ', '|', ' ', 'f', '(', '\x7b', 'e', '\x7d', ')'] = .ok q := rfl
  have ha : a.StandsInPipeline q := Or.inl .self
  have hc : c.StandsInPipeline q := Or.inl (.index (List.mem_cons_self ..) .self)
  have he : (BindingPath.ofName "e").StandsInPipeline q :=
    Or.inr ⟨_, List.mem_cons_self .., _, List.mem_cons_self .., .value (List.mem_cons_self ..) .self⟩
  obtain ⟨-, hpaths⟩ := parsed_paths_splitBack
    ['a', '[', ' ', 'c', '.', 'd', ' ', ']', '.', 'b', ' ', '|', ' ', 'f', '(', '\x7b', 'e', '\x7d', ')']
  exact ⟨hq, hpaths q hq a ha, hpaths q hq c hc, hpaths q hq _ he⟩

end PageTemplates
