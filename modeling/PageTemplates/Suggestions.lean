import PageTemplates.Filter
import PageTemplates.Text.CaseMap
import PageTemplates.Text.EditDistance

/-!
# Suggestions

The filters that a misspelt name may have meant: those of the nearest three names, all arities of each. Letter case does not
count for the distance of names.
-/

namespace PageTemplates

/-- A filter as a suggestion. -/
structure Suggestion where
  distance : Nat
  name : String
  arity : Nat
  signature : String
  deriving DecidableEq, Inhabited

namespace Suggestion

/-- The greatest distance of a name that is suggested. -/
def maxDistance : Nat := 3

/-- The greatest number of names that are suggested. -/
def maxNames : Nat := 3

/-- The distance between two names in lower case. -/
def nameDistance (a b : String) : Nat :=
  Text.editDistance (Text.lower a.toList) (Text.lower b.toList)

/-- A filter as a suggestion for a wanted name. -/
def ofDef (wanted : String) (d : FilterDef) : Suggestion where
  distance := nameDistance wanted d.name
  name := d.name
  arity := d.arity
  signature := d.signature

/-- Nearer names come first, then names, arities and signatures in their order. -/
def le (a b : Suggestion) : Bool :=
  a.distance < b.distance || a.distance = b.distance &&
    (decide (a.name < b.name) || a.name = b.name &&
      (a.arity < b.arity || a.arity = b.arity && !decide (b.signature < a.signature)))

/-- The suggestions without one that has the signature of the one before it. -/
def dropRepeated : List Suggestion → List Suggestion
  | [] => []
  | a :: as =>
    match dropRepeated as with
    | [] => [a]
    | b :: bs => if a.signature = b.signature then a :: bs else a :: b :: bs

/-- The first names, each once, in the order of the suggestions. -/
def firstNames (count : Nat) (suggestions : List Suggestion) : List String :=
  (suggestions.foldl (fun names s => if names.contains s.name then names else names ++ [s.name]) []).take count

end Suggestion

/-- The signatures of the filters that a name may have meant, nearest first. -/
def suggestFilters (wanted : String) (defs : List FilterDef) : List String :=
  let near := (defs.map (Suggestion.ofDef wanted)).filter (·.distance ≤ Suggestion.maxDistance)
  let sorted := Suggestion.dropRepeated (near.mergeSort Suggestion.le)
  let names := Suggestion.firstNames Suggestion.maxNames sorted
  (sorted.filter fun s => names.contains s.name).map (·.signature)

end PageTemplates
