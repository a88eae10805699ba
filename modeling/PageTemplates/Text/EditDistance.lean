/-!
# Edit distance

The least number of insertions, removals and exchanges of single characters that turn one text into another.
-/

namespace PageTemplates.Text

/-- The next row of the table of distances, for one more character of the first text: `corner` and `left` are the entries above
to the left and to the left. -/
def distanceRow (a : Char) : Nat → Nat → List Char → List Nat → List Nat
  | corner, left, b :: bs, above :: row =>
    let here := min (min (left + 1) (above + 1)) (corner + if a = b then 0 else 1)
    here :: distanceRow a above here bs row
  | _, _, _, _ => []

/-- The last row of the table, from the row of the empty text on. The first number of a row is the length of the text so far. -/
def distanceRows (bs : List Char) : List Char → Nat → List Nat → Nat × List Nat
  | [], first, row => (first, row)
  | a :: as, first, row => distanceRows bs as (first + 1) (distanceRow a first (first + 1) bs row)

/-- The edit distance between two texts. -/
def editDistance (as bs : List Char) : Nat :=
  let (first, row) := distanceRows bs as 0 ((List.range bs.length).map (· + 1))
  row.getLast?.getD first

end PageTemplates.Text
