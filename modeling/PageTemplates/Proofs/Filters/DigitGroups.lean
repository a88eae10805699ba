import PageTemplates.Culture
import PageTemplates.Proofs.Text.Parts

/-!
# Groups of digits

The digits of an amount of money stand in groups of three, counted from the right. A digit in front of a full group begins a new
one, and any other joins the first group. As no digit is part of the separator, the groups can be read back from the text. Main
statement: `Culture.groupDigits_regular`.
-/

namespace PageTemplates.Culture

open Text (joinWith splitOn replaceAll)

variable {separator ds first : List Char} {rest : List (List Char)} {d : Char}

/-- The digits in groups as an amount is read: up to three digits, and then three in every group. -/
structure Grouped (ds first : List Char) (rest : List (List Char)) : Prop where
  flatten : (first :: rest).flatten = ds
  first_ne_nil : first ≠ []
  length_first : first.length ≤ 3
  length_rest : ∀ group ∈ rest, group.length = 3

/-- A text that can stand between digits and be told from them. -/
structure SeparatesDigits (separator : List Char) : Prop where
  ne_nil : separator ≠ []
  not_digit : ∀ c ∈ separator, c.isDigit = false

theorem SeparatesDigits.notMem (h : SeparatesDigits separator) (hd : d.isDigit = true) : d ∉ separator := by
  intro hmem
  rw [h.not_digit d hmem] at hd
  cases hd

/-- Every known culture separates its groups by a text that can be told from digits. -/
theorem separatesDigits_of_mem_all {c : Culture} (h : c ∈ all) : SeparatesDigits c.groupSeparator.toList := by
  have hall : ∀ c ∈ all, c.groupSeparator.toList ≠ [] ∧ c.groupSeparator.toList.all (!·.isDigit) = true := by decide
  obtain ⟨hne, hdigit⟩ := hall c h
  exact ⟨hne, fun d hd => by simpa using List.all_eq_true.1 hdigit d hd⟩

/-! ## Grouping -/

/-- The number of digits tells how many are in the first group. -/
theorem Grouped.length_eq (h : Grouped ds first rest) : ds.length = first.length + rest.length * 3 := by
  have hthree : rest.map List.length = List.replicate rest.length 3 := List.map_eq_replicate_iff.2 h.length_rest
  rw [← h.flatten, List.flatten_cons, List.length_append, List.length_flatten, hthree, List.sum_replicate_nat]

/-- Before a full group a digit begins a new one. -/
theorem Grouped.begin (h : Grouped ds first rest) (hfull : ds.length % 3 = 0) : Grouped (d :: ds) [d] (first :: rest) where
  flatten := by rw [List.flatten_cons, h.flatten, List.singleton_append]
  first_ne_nil := List.cons_ne_nil d []
  length_first := by simp
  length_rest := by
    have hlength := h.length_eq
    have hpos := List.length_pos_iff.2 h.first_ne_nil
    have hle := h.length_first
    have hthree : first.length = 3 := by omega
    exact List.forall_mem_cons.2 ⟨hthree, h.length_rest⟩

/-- Before any other group a digit joins it. -/
theorem Grouped.join (h : Grouped ds first rest) (hfull : ds.length % 3 ≠ 0) : Grouped (d :: ds) (d :: first) rest where
  flatten := congrArg (d :: ·) h.flatten
  first_ne_nil := List.cons_ne_nil d first
  length_first := by
    have hlength := h.length_eq
    have hle := h.length_first
    rw [List.length_cons]
    omega
  length_rest := h.length_rest

/-- Digits are written in groups with the separator between them. -/
theorem exists_grouped (separator : List Char) (hne : ds ≠ []) :
    ∃ first rest, Grouped ds first rest ∧ groupDigits separator ds = joinWith separator (first :: rest) := by
  induction ds with
  | nil => exact absurd rfl hne
  | cons d ds ih =>
    by_cases hlast : ds = []
    · subst hlast
      exact ⟨[d], [], ⟨rfl, List.cons_ne_nil d [], by simp, nofun⟩, by simp [groupDigits, joinWith]⟩
    · obtain ⟨first, rest, hgrouped, hform⟩ := ih hlast
      rw [groupDigits.eq_3 separator d ds hlast]
      by_cases hfull : ds.length % 3 = 0
      · refine ⟨[d], first :: rest, hgrouped.begin hfull, ?_⟩
        rw [if_pos hfull, Text.joinWith_cons (List.cons_ne_nil first rest), hform]
        simp
      · refine ⟨d :: first, rest, hgrouped.join hfull, ?_⟩
        rw [if_neg hfull, Text.joinWith_cons_part, hform]

/-! ## The ends -/

theorem head?_groupDigits (separator ds : List Char) : (groupDigits separator ds).head? = ds.head? := by
  fun_cases groupDigits separator ds with
  | case1 => rfl
  | case2 => rfl
  | case3 => rfl
  | case4 => rfl

theorem getLast?_groupDigits (separator ds : List Char) : (groupDigits separator ds).getLast? = ds.getLast? := by
  fun_induction groupDigits separator ds with
  | case1 => rfl
  | case2 => rfl
  | case3 d ds hne _ ih =>
    have hlast := List.getLast?_eq_some_getLast hne
    rw [List.getLast?_append, ih, List.getLast?_cons (l := ds), hlast]
    rfl
  | case4 d ds hne _ ih =>
    rw [List.getLast?_cons, ih, List.getLast?_cons]

/-- No separator stands before the first digit or after the last one. -/
theorem not_separator_at_ends (hsep : SeparatesDigits separator) (hdigits : ∀ d ∈ ds, d.isDigit = true) :
    ¬separator <+: groupDigits separator ds ∧ ¬separator <:+ groupDigits separator ds := by
  constructor
  · rintro ⟨after, hform⟩
    obtain ⟨c, tail, rfl⟩ := List.exists_cons_of_ne_nil hsep.ne_nil
    have hhead : ds.head? = some c := by rw [← head?_groupDigits (c :: tail), ← hform]; rfl
    exact hsep.notMem (hdigits c (List.mem_of_head? hhead)) List.mem_cons_self
  · rintro ⟨before, hform⟩
    obtain ⟨start, c, rfl⟩ := (List.eq_nil_or_concat separator).resolve_left hsep.ne_nil
    have hlast : ds.getLast? = some c := by rw [← getLast?_groupDigits (start.concat c), ← hform]; simp
    exact hsep.notMem (hdigits c (List.mem_of_getLast? hlast)) (by simp)

/-- **Groups of three.** Digits are written in order with the separator between groups: one to three digits in the first group and
three in every other. Cut at the separators, the text has just these groups; with the separators taken out, it is the digits; and no
separator stands at either end. -/
theorem groupDigits_regular (hdigits : ∀ d ∈ ds, d.isDigit = true) (hne : ds ≠ []) (hsep : SeparatesDigits separator) :
    ∃ first rest, Grouped ds first rest ∧ groupDigits separator ds = joinWith separator (first :: rest) ∧
      splitOn separator (groupDigits separator ds) = first :: rest ∧
      replaceAll separator [] (groupDigits separator ds) = ds ∧
      ¬separator <+: groupDigits separator ds ∧ ¬separator <:+ groupDigits separator ds := by
  obtain ⟨first, rest, hgrouped, hform⟩ := exists_grouped separator hne
  have hplain : ∀ group ∈ first :: rest, ∀ d ∈ group, d ∉ separator := fun group hgroup d hd =>
    hsep.notMem (hdigits d (hgrouped.flatten ▸ List.mem_flatten_of_mem hgroup hd))
  have hsplit : splitOn separator (groupDigits separator ds) = first :: rest := by
    rw [hform, Text.splitOn_joinWith hsep.ne_nil (List.cons_ne_nil first rest) hplain]
  refine ⟨first, rest, hgrouped, hform, hsplit, ?_, not_separator_at_ends hsep hdigits⟩
  rw [replaceAll, hsplit, Text.joinWith_nil, hgrouped.flatten]

/-- Seven digits with narrow spaces between the groups. -/
theorem groupDigits_regular_millions :
    (∀ d ∈ "1234567".toList, d.isDigit = true) ∧ "1234567".toList ≠ [] ∧ SeparatesDigits "\u202f".toList ∧
      ∃ first rest, Grouped "1234567".toList first rest ∧
        groupDigits "\u202f".toList "1234567".toList = joinWith "\u202f".toList (first :: rest) ∧
        splitOn "\u202f".toList (groupDigits "\u202f".toList "1234567".toList) = first :: rest ∧
        replaceAll "\u202f".toList [] (groupDigits "\u202f".toList "1234567".toList) = "1234567".toList ∧
        ¬"\u202f".toList <+: groupDigits "\u202f".toList "1234567".toList ∧
        ¬"\u202f".toList <:+ groupDigits "\u202f".toList "1234567".toList := by
  have hdigits : ∀ d ∈ "1234567".toList, d.isDigit = true := List.all_eq_true.1 (by decide)
  have hne : "1234567".toList ≠ [] := by decide
  have hsep : SeparatesDigits "\u202f".toList :=
    separatesDigits_of_mem_all (List.getElem_mem (l := all) (n := 2) (by decide))
  exact ⟨hdigits, hne, hsep, groupDigits_regular hdigits hne hsep⟩

example : groupDigits [' '] "1234567".toList = "1 234 567".toList := by decide

end PageTemplates.Culture
