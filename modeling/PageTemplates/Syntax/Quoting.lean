/-!
# Quotes and groups

Reading past string literals and brace groups without parsing them. `splitBar` finds the `|` that ends a stage, `splitClose`
the two braces that end an expression span. Both skip whatever stands in a string literal, where a backslash takes the next
character with it, and both skip balanced braces. Main statements: what comes before the mark, the mark, and what comes
after it make up the text.
-/

namespace PageTemplates

/-- The characters that open and close a string literal. -/
def isQuote (c : Char) : Bool :=
  c == '\x27' || c == '"' || c == '\x60'

/-- Where a scan stands: outside of literals, inside a literal with the given quote, or after a backslash in one. The number
counts the open braces. -/
inductive ScanState where
  | outside (depth : Nat)
  | quoted (quote : Char) (depth : Nat)
  | escaped (quote : Char) (depth : Nat)
  deriving DecidableEq, Inhabited

/-- The state after a character that is not the mark looked for. A closing brace without an opening one changes nothing. -/
def ScanState.step : ScanState → Char → ScanState
  | .outside depth, c =>
    if isQuote c then .quoted c depth
    else if c = '\x7b' then .outside (depth + 1)
    else if c = '\x7d' then .outside (depth - 1)
    else .outside depth
  | .quoted quote depth, c =>
    if c = '\\' then .escaped quote depth
    else if c = quote then .outside depth
    else .quoted quote depth
  | .escaped quote depth, _ => .quoted quote depth

/-- The text before the first bar outside of literals and groups, and the text from that bar on. Without such a bar the whole
text comes before it. -/
def splitBarFrom : ScanState → List Char → List Char × List Char
  | _, [] => ([], [])
  | state, c :: cs =>
    if state = .outside 0 ∧ c = '|' then ([], c :: cs)
    else
      let (before, after) := splitBarFrom (state.step c) cs
      (c :: before, after)

/-- The text before the first bar outside of literals and groups, and the text from that bar on. -/
def splitBar (cs : List Char) : List Char × List Char :=
  splitBarFrom (.outside 0) cs

/-- The text before two closing braces that close no group, and the text after them. -/
def splitCloseFrom : ScanState → List Char → Option (List Char × List Char)
  | _, [] => none
  | state, c :: cs =>
    if state = .outside 0 ∧ c = '\x7d' ∧ cs.head? = some '\x7d' then some ([], cs.tail)
    else (splitCloseFrom (state.step c) cs).map fun (inner, after) => (c :: inner, after)

/-- The text before the two braces that end an expression span, and the text after them. -/
def splitClose? (cs : List Char) : Option (List Char × List Char) :=
  splitCloseFrom (.outside 0) cs

theorem splitBarFrom_append (state : ScanState) (cs : List Char) :
    (splitBarFrom state cs).1 ++ (splitBarFrom state cs).2 = cs := by
  induction cs generalizing state with
  | nil => rfl
  | cons c cs ih =>
    rw [splitBarFrom]
    split
    · rfl
    · simp [ih]

theorem splitBar_append (cs : List Char) : (splitBar cs).1 ++ (splitBar cs).2 = cs :=
  splitBarFrom_append _ _

theorem eq_of_splitCloseFrom {state : ScanState} {cs inner after : List Char}
    (h : splitCloseFrom state cs = some (inner, after)) : cs = inner ++ '\x7d' :: '\x7d' :: after := by
  induction cs generalizing state inner with
  | nil => simp [splitCloseFrom] at h
  | cons c cs ih =>
    rw [splitCloseFrom] at h
    split at h
    · rename_i hc
      obtain ⟨-, rfl, hd⟩ := hc
      simp only [Option.some.injEq, Prod.mk.injEq] at h
      obtain ⟨rfl, rfl⟩ := h
      match cs, hd with
      | _ :: _, rfl => rfl
    · obtain ⟨⟨i, a⟩, hi, he⟩ := Option.map_eq_some_iff.1 h
      simp only [Prod.mk.injEq] at he
      obtain ⟨rfl, rfl⟩ := he
      simp [ih hi]

theorem eq_of_splitClose? {cs inner after : List Char} (h : splitClose? cs = some (inner, after)) :
    cs = inner ++ '\x7d' :: '\x7d' :: after :=
  eq_of_splitCloseFrom h

end PageTemplates
