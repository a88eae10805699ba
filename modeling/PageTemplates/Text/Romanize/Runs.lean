/-!
# Runs of characters

A table that gives neighbouring characters their texts is written with one row for each run of them.
-/

namespace PageTemplates.Text.Romanize

/-- The rows with their texts apart: in a row a pilcrow stands between the texts of two neighbours. -/
def openRuns (rows : List (Nat × String)) : List (Nat × List String) :=
  rows.map fun (first, text) => (first, text.splitOn "¶")

/-- The text of a character, if a run holds it. -/
def findInRuns? (runs : List (Nat × List String)) (n : Nat) : Option String :=
  runs.findSome? fun (first, texts) => if first ≤ n then texts[n - first]? else none

end PageTemplates.Text.Romanize
