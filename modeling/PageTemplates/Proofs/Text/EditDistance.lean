import Mathlib.Order.Lattice.Nat
import PageTemplates.Text.EditDistance

/-!
# Edit distance

The table of distances gives the Levenshtein distance: the least number of edits one after the other that turn one text into
another, where an edit inserts, removes or exchanges one character anywhere in the text (`editDistance_eq_levenshtein`).

The table compares the beginnings of the texts, and the recurrence for lists compares their ends. The two meet because the
reversed texts are as far from each other.
-/

namespace PageTemplates.Text

/-! ## Edits -/

/-- One edit of a text. -/
inductive Edit : List Char → List Char → Prop
  | insert (p : List Char) (a : Char) (s : List Char) : Edit (p ++ s) (p ++ a :: s)
  | remove (p : List Char) (a : Char) (s : List Char) : Edit (p ++ a :: s) (p ++ s)
  | exchange (p : List Char) (a b : Char) (s : List Char) : Edit (p ++ a :: s) (p ++ b :: s)

/-- A number of edits, one after the other. -/
inductive Edits : Nat → List Char → List Char → Prop
  | none (as : List Char) : Edits 0 as as
  | more {n : Nat} {as bs cs : List Char} (h : Edits n as bs) (e : Edit bs cs) : Edits (n + 1) as cs

/-- The Levenshtein distance. -/
noncomputable def levenshtein (as bs : List Char) : Nat :=
  sInf {n | Edits n as bs}

section

variable {as bs cs : List Char} {n : Nat}

theorem Edit.cons (x : Char) (h : Edit as bs) : Edit (x :: as) (x :: bs) := by
  cases h with
  | insert p a s => exact .insert (x :: p) a s
  | remove p a s => exact .remove (x :: p) a s
  | exchange p a b s => exact .exchange (x :: p) a b s

theorem Edit.reverse (h : Edit as bs) : Edit as.reverse bs.reverse := by
  cases h with
  | insert p a s => simpa using Edit.insert s.reverse a p.reverse
  | remove p a s => simpa using Edit.remove s.reverse a p.reverse
  | exchange p a b s => simpa using Edit.exchange s.reverse a b p.reverse

theorem Edits.cons (x : Char) (h : Edits n as bs) : Edits n (x :: as) (x :: bs) := by
  induction h with
  | none as => exact .none (x :: as)
  | more _ e ih => exact ih.more (e.cons x)

/-- An edit before others. -/
theorem Edits.after (h : Edits n bs cs) (e : Edit as bs) : Edits (n + 1) as cs := by
  induction h with
  | none bs => exact (Edits.none as).more e
  | more _ e' ih => exact (ih e).more e'

theorem Edits.reverse (h : Edits n as bs) : Edits n as.reverse bs.reverse := by
  induction h with
  | none as => exact .none as.reverse
  | more _ e ih => exact ih.more e.reverse

theorem levenshtein_reverse (as bs : List Char) : levenshtein as.reverse bs.reverse = levenshtein as bs := by
  have h : ∀ n, Edits n as.reverse bs.reverse ↔ Edits n as bs := fun n =>
    ⟨fun h => by simpa using h.reverse, Edits.reverse⟩
  simp only [levenshtein, h]

end

/-! ## The recurrence -/

/-- The distance by the first characters of both texts: the last edit inserts the one, removes the other, or exchanges them if
they differ. -/
def recurrence : List Char → List Char → Nat
  | [], bs => bs.length
  | as, [] => as.length
  | a :: as, b :: bs =>
    min (min (recurrence (a :: as) bs + 1) (recurrence as (b :: bs) + 1)) (recurrence as bs + if a = b then 0 else 1)

section

variable {as bs cs : List Char}

theorem recurrence_nil_left (bs : List Char) : recurrence [] bs = bs.length := by
  cases bs <;> simp [recurrence]

theorem recurrence_nil_right (as : List Char) : recurrence as [] = as.length := by
  cases as <;> simp [recurrence]

theorem recurrence_cons_cons (a : Char) (as : List Char) (b : Char) (bs : List Char) :
    recurrence (a :: as) (b :: bs) =
      min (min (recurrence (a :: as) bs + 1) (recurrence as (b :: bs) + 1)) (recurrence as bs + if a = b then 0 else 1) := by
  rw [recurrence]

theorem recurrence_self (as : List Char) : recurrence as as = 0 := by
  induction as with
  | nil => exact recurrence_nil_left []
  | cons a as ih => simp [recurrence, ih]

/-- Inserting one character more. -/
theorem recurrence_cons_right_le (as : List Char) (b : Char) (bs : List Char) :
    recurrence as (b :: bs) ≤ recurrence as bs + 1 := by
  cases as with
  | nil => simp [recurrence_nil_left]
  | cons a as => rw [recurrence]; omega

/-- Removing one character more. -/
theorem recurrence_cons_left_le (a : Char) (as bs : List Char) : recurrence (a :: as) bs ≤ recurrence as bs + 1 := by
  cases bs with
  | nil => simp [recurrence_nil_right]
  | cons b bs => rw [recurrence]; omega

/-- Exchanging one character more, if it differs. -/
theorem recurrence_cons_cons_le (a : Char) (as : List Char) (b : Char) (bs : List Char) :
    recurrence (a :: as) (b :: bs) ≤ recurrence as bs + if a = b then 0 else 1 := by
  rw [recurrence]
  omega

/-- What costs at most one more, whatever the first text, does so behind a common first character. -/
theorem recurrence_cons_le_succ (h : ∀ as, recurrence as cs ≤ recurrence as bs + 1) (x : Char) :
    ∀ as, recurrence as (x :: cs) ≤ recurrence as (x :: bs) + 1
  | [] => by
    have := h []
    simp only [recurrence_nil_left, List.length_cons] at this ⊢
    omega
  | a :: as => by
    have insert := recurrence_cons_right_le (a :: as) x cs
    have remove := recurrence_cons_left_le a as (x :: cs)
    have exchange := recurrence_cons_cons_le a as x cs
    have ih := recurrence_cons_le_succ h x as
    have := h as
    have := h (a :: as)
    rw [recurrence_cons_cons a as x bs]
    omega

/-- And so behind a common beginning. -/
theorem recurrence_append_le_succ (h : ∀ as, recurrence as cs ≤ recurrence as bs + 1) (p : List Char) :
    ∀ as, recurrence as (p ++ cs) ≤ recurrence as (p ++ bs) + 1 := by
  induction p with
  | nil => exact h
  | cons x p ih => exact recurrence_cons_le_succ ih x

theorem recurrence_tail_le (b : Char) (bs : List Char) : ∀ as, recurrence as bs ≤ recurrence as (b :: bs) + 1
  | [] => by
    simp only [recurrence_nil_left, List.length_cons]
    omega
  | a :: as => by
    have remove := recurrence_cons_left_le a as bs
    have ih := recurrence_tail_le b bs as
    rw [recurrence_cons_cons a as b bs]
    omega

theorem recurrence_exchange_le (b c : Char) (bs : List Char) :
    ∀ as, recurrence as (c :: bs) ≤ recurrence as (b :: bs) + 1
  | [] => by simp [recurrence_nil_left]
  | a :: as => by
    have insert := recurrence_cons_right_le (a :: as) c bs
    have remove := recurrence_cons_left_le a as (c :: bs)
    have exchange := recurrence_cons_cons_le a as c bs
    have ih := recurrence_exchange_le b c bs as
    rw [recurrence_cons_cons a as b bs]
    split at exchange <;> omega

/-- One more edit makes the recurrence at most one greater. -/
theorem Edit.recurrence_le (h : Edit bs cs) (as : List Char) : recurrence as cs ≤ recurrence as bs + 1 := by
  cases h with
  | insert p a s => exact recurrence_append_le_succ (fun as => recurrence_cons_right_le as a s) p as
  | remove p a s => exact recurrence_append_le_succ (recurrence_tail_le a s) p as
  | exchange p a b s => exact recurrence_append_le_succ (recurrence_exchange_le a b s) p as

/-- No fewer edits than the recurrence says turn one text into the other. -/
theorem Edits.recurrence_le {n : Nat} (h : Edits n as bs) : recurrence as bs ≤ n := by
  induction h with
  | none as => exact (recurrence_self as).le
  | more _ e ih => exact (e.recurrence_le _).trans (Nat.succ_le_succ ih)

end

/-- As many edits as the recurrence says turn one text into the other. -/
theorem edits_recurrence : ∀ as bs : List Char, Edits (recurrence as bs) as bs
  | [], [] => by
    rw [recurrence_nil_left]
    exact .none []
  | [], b :: bs => by
    have h := edits_recurrence [] bs
    rw [recurrence_nil_left] at h ⊢
    exact h.more (.insert [] b bs)
  | a :: as, [] => by
    have h := edits_recurrence as []
    rw [recurrence_nil_right] at h ⊢
    exact h.after (.remove [] a as)
  | a :: as, b :: bs => by
    have insert := (edits_recurrence (a :: as) bs).more (.insert [] b bs)
    have remove := (edits_recurrence as (b :: bs)).after (.remove [] a as)
    have exchange : Edits (recurrence as bs + if a = b then 0 else 1) (a :: as) (b :: bs) := by
      by_cases hab : a = b
      · subst hab
        rw [if_pos rfl]
        exact (edits_recurrence as bs).cons a
      · rw [if_neg hab]
        exact ((edits_recurrence as bs).cons b).after (.exchange [] a b as)
    rw [recurrence]
    exact min_rec' (Edits · (a :: as) (b :: bs)) (min_rec' (Edits · (a :: as) (b :: bs)) insert remove) exchange

theorem levenshtein_eq_recurrence (as bs : List Char) : levenshtein as bs = recurrence as bs :=
  IsLeast.csInf_eq ⟨edits_recurrence as bs, fun _ h => h.recurrence_le⟩

/-! ## The table -/

/-- The distances of a text from all longer beginnings of another. Texts are reversed, and `q` is the beginning so far. -/
def distancesTo (p q : List Char) : List Char → List Nat
  | [] => []
  | b :: bs => recurrence p (b :: q) :: distancesTo p (b :: q) bs

theorem distanceRow_eq (a : Char) (p q bs : List Char) :
    distanceRow a (recurrence p q) (recurrence (a :: p) q) bs (distancesTo p q bs) = distancesTo (a :: p) q bs := by
  induction bs generalizing q with
  | nil => rfl
  | cons b bs ih =>
    rw [distancesTo, distancesTo, distanceRow, ← recurrence_cons_cons a p b q, ih]

theorem distanceRows_eq (bs as p : List Char) :
    distanceRows bs as p.length (distancesTo p [] bs) =
      ((as.reverse ++ p).length, distancesTo (as.reverse ++ p) [] bs) := by
  induction as generalizing p with
  | nil => rfl
  | cons a as ih =>
    have hrow := distanceRow_eq a p [] bs
    rw [recurrence_nil_right, recurrence_nil_right] at hrow
    rw [distanceRows, ← List.length_cons (a := a), hrow, ih]
    simp

/-- The distances from the empty text. -/
theorem distancesTo_nil (q bs : List Char) :
    distancesTo [] q bs = (List.range bs.length).map (q.length + 1 + ·) := by
  induction bs generalizing q with
  | nil => rfl
  | cons b bs ih =>
    rw [distancesTo, ih, recurrence_nil_left, List.length_cons, List.length_cons, List.range_succ_eq_map]
    simp [Function.comp_def, Nat.add_comm, Nat.add_left_comm]

theorem getLast_distancesTo (p q bs : List Char) :
    (distancesTo p q bs).getLast?.getD (recurrence p q) = recurrence p (bs.reverse ++ q) := by
  induction bs generalizing q with
  | nil => rfl
  | cons b bs ih =>
    rw [distancesTo, List.getLast?_cons, Option.getD_some, ih]
    simp

theorem editDistance_eq_levenshtein (as bs : List Char) : editDistance as bs = levenshtein as bs := by
  have hfirst : (List.range bs.length).map (· + 1) = distancesTo [] [] bs := by
    simp [distancesTo_nil, Nat.add_comm]
  have hrows := distanceRows_eq bs as []
  have hlast := getLast_distancesTo as.reverse [] bs
  rw [List.length_nil, List.append_nil] at hrows
  rw [recurrence_nil_right, List.append_nil] at hlast
  rw [editDistance, hfirst, hrows, ← levenshtein_reverse, levenshtein_eq_recurrence, ← hlast]

end PageTemplates.Text
