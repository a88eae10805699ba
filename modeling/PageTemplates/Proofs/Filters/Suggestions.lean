import Mathlib
import PageTemplates.Suggestions
import PageTemplates.Proofs.Filters.Registrations
import PageTemplates.Proofs.Syntax.Lexemes
import PageTemplates.Proofs.Text.EditDistance

/-!
# Suggestions for a misspelt name

What is suggested depends on the set of the filters only: the names within the greatest distance are put in order, the first of
them are taken, and the signatures of all filters with these names are put in order. Distances are Levenshtein distances of
the names in lower case. Main statement: `suggestFilters_eq`.

The names of filters and of their parameters have to be names as they are written in templates: without commas and brackets in
them, a signature tells the name and the arity, so that suggestions with one signature are one suggestion.
-/

namespace PageTemplates

namespace Suggestion

/-! ## The order of suggestions -/

/-- What suggestions are put in order by. -/
def key (s : Suggestion) : ℕ ×ₗ String ×ₗ ℕ ×ₗ String :=
  toLex (s.distance, toLex (s.name, toLex (s.arity, s.signature)))

theorem sort_toFinset_of_pairwise_lt {α : Type} [LinearOrder α] {as : List α} (h : as.Pairwise (· < ·)) :
    as.toFinset.sort = as :=
  (List.toFinset_sort (· ≤ ·) (h.imp ne_of_lt)).2 (h.imp le_of_lt)

theorem key_injective : Function.Injective key := by
  rintro ⟨distance, name, arity, signature⟩ ⟨distance', name', arity', signature'⟩ h
  simpa [key] using h

theorem le_iff (a b : Suggestion) : a.le b = true ↔ a.key ≤ b.key := by
  simp only [le, key, Prod.Lex.toLex_le_toLex, Bool.or_eq_true, Bool.and_eq_true, Bool.not_eq_true', decide_eq_true_eq,
    decide_eq_false_iff_not, not_lt]

theorem pairwise_mergeSort (ss : List Suggestion) : (ss.mergeSort le).Pairwise (·.key ≤ ·.key) := by
  have h : (ss.mergeSort le).Pairwise fun a b => a.le b = true := by
    refine List.pairwise_mergeSort (fun a b c hab hbc => ?_) (fun a b => ?_) ss
    · rw [le_iff] at hab hbc ⊢
      exact hab.trans hbc
    · rw [Bool.or_eq_true, le_iff, le_iff]
      exact le_total a.key b.key
  exact h.imp fun hab => (le_iff _ _).1 hab

/-! ## One suggestion for each signature -/

/-- Suggestions of a list with the same signature are the same. -/
def Distinguished (ss : List Suggestion) : Prop :=
  ∀ a ∈ ss, ∀ b ∈ ss, a.signature = b.signature → a = b

theorem Distinguished.of_cons {a : Suggestion} {ss : List Suggestion} (h : Distinguished (a :: ss)) : Distinguished ss :=
  fun b hb c hc => h b (List.mem_cons_of_mem a hb) c (List.mem_cons_of_mem a hc)

theorem dropRepeated_sublist (ss : List Suggestion) : (dropRepeated ss).Sublist ss := by
  induction ss with
  | nil => exact List.Sublist.slnil
  | cons a ss ih =>
    rw [dropRepeated]
    cases hd : dropRepeated ss with
    | nil => simp
    | cons b bs =>
      rw [hd] at ih
      by_cases hab : a.signature = b.signature
      · simpa [hab] using (List.sublist_cons_self b bs).trans ih
      · simpa [hab] using ih

theorem mem_dropRepeated {ss : List Suggestion} (h : Distinguished ss) {s : Suggestion} : s ∈ dropRepeated ss ↔ s ∈ ss := by
  induction ss with
  | nil => rfl
  | cons a ss ih =>
    have hsub := dropRepeated_sublist ss
    rw [dropRepeated, List.mem_cons, ← ih h.of_cons]
    cases hd : dropRepeated ss with
    | nil => simp
    | cons b bs =>
      rw [hd] at hsub
      by_cases hab : a.signature = b.signature
      · have hb : b ∈ a :: ss := List.mem_cons_of_mem a (hsub.subset List.mem_cons_self)
        obtain rfl : a = b := h a List.mem_cons_self b hb hab
        simp
      · simp [hab]

/-- What is in order is strictly in order without the repeated signatures. -/
theorem pairwise_dropRepeated {ss : List Suggestion} (h : ss.Pairwise (·.key ≤ ·.key)) :
    (dropRepeated ss).Pairwise (·.key < ·.key) := by
  induction ss with
  | nil => exact .nil
  | cons a ss ih =>
    obtain ⟨ha, hss⟩ := List.pairwise_cons.1 h
    have ih := ih hss
    have hsub := dropRepeated_sublist ss
    rw [dropRepeated]
    cases hd : dropRepeated ss with
    | nil => exact List.pairwise_singleton _ _
    | cons b bs =>
      rw [hd] at ih hsub
      have hle : a.key ≤ b.key := ha b (hsub.subset List.mem_cons_self)
      obtain ⟨hb, hbs⟩ := List.pairwise_cons.1 ih
      by_cases hab : a.signature = b.signature
      · simp only [hab, if_true]
        exact .cons (fun c hc => hle.trans_lt (hb c hc)) hbs
      · have hlt : a.key < b.key := hle.lt_of_ne fun heq => hab (congrArg signature (key_injective heq))
        simp only [hab, if_false]
        refine .cons (fun c hc => ?_) ih
        rcases List.mem_cons.1 hc with rfl | hc
        · exact hlt
        · exact hlt.trans (hb c hc)

end Suggestion

/-! ## What a signature tells -/

theorem notMem_of_isName {w : List Char} {c : Char} (h : IsName w) (hc : isNameChar c = false) : c ∉ w :=
  fun hmem => Bool.false_ne_true (hc.symm.trans (h.isNameChar c hmem))

namespace FilterDef

/-- The names of a filter and of its parameters are names as they are written in templates. -/
def Named (d : FilterDef) : Prop :=
  IsName d.name.toList ∧ ∀ p ∈ d.params, IsName p.toList

/-- The names between the brackets of a signature. -/
def argNames (d : FilterDef) : List String :=
  if d.arity = 0 then [] else "value" :: (List.range (d.arity - 1)).map fun i => d.paramName (i + 1)

variable {d e : FilterDef}

theorem toList_signature (d : FilterDef) :
    d.signature.toList = d.name.toList ++ '(' :: ([',', ' '].intercalate (d.argNames.map String.toList) ++ [')']) := by
  simp [signature, argNames]

theorem length_argNames (d : FilterDef) : d.argNames.length = d.arity := by
  rw [argNames]
  split
  · next h => rw [h, List.length_nil]
  · next h => rw [List.length_cons, List.length_map, List.length_range, Nat.sub_add_cancel (Nat.one_le_iff_ne_zero.2 h)]

theorem Named.isName_paramName (h : d.Named) (i : Nat) : IsName (d.paramName i).toList := by
  rw [paramName]
  cases hp : d.params[i - 1]? with
  | some p => exact h.2 p (List.mem_of_getElem? hp)
  | none =>
    refine ⟨'a', 'r' :: 'g' :: Nat.toDigits 10 i, by simp, rfl, fun c hc => ?_⟩
    rcases List.mem_cons.1 hc with rfl | hc
    · rfl
    rcases List.mem_cons.1 hc with rfl | hc
    · rfl
    have hdigit := Nat.isDigit_of_mem_toDigits (by decide) (by decide) hc
    simp [isNameChar, Char.isAlphanum, hdigit]

theorem Named.isName_of_mem_argNames (h : d.Named) {w : List Char} (hw : w ∈ d.argNames.map String.toList) : IsName w := by
  obtain ⟨arg, harg, rfl⟩ := List.mem_map.1 hw
  rw [argNames] at harg
  split at harg
  · simp at harg
  · rcases List.mem_cons.1 harg with rfl | harg
    · exact ⟨'v', "alue".toList, rfl, rfl, by simp [isNameChar, Char.isAlphanum, Char.isAlpha, Char.isLower]⟩
    · obtain ⟨i, -, rfl⟩ := List.mem_map.1 harg
      exact h.isName_paramName (i + 1)

/-- There is one text more between the brackets than there are commas. -/
theorem count_intercalate {w : List Char} {ws : List (List Char)} (h : ∀ v ∈ w :: ws, ',' ∉ v) :
    ([',', ' '].intercalate (w :: ws)).count ',' = ws.length := by
  have hw : w.count ',' = 0 := List.count_eq_zero.2 (h w List.mem_cons_self)
  induction ws generalizing w with
  | nil => simpa using hw
  | cons v ws ih =>
    have hws := fun u hu => h u (List.mem_cons_of_mem w hu)
    have hv : v.count ',' = 0 := List.count_eq_zero.2 (hws v List.mem_cons_self)
    rw [List.intercalate_cons_cons, List.count_append, List.count_append, hw, ih hws hv]
    simp [Nat.add_comm]

theorem length_eq_of_intercalate_eq {vs ws : List (List Char)} (hv : ∀ v ∈ vs, IsName v) (hw : ∀ w ∈ ws, IsName w)
    (h : [',', ' '].intercalate vs = [',', ' '].intercalate ws) : vs.length = ws.length := by
  have hne : ∀ {w : List Char} {ws}, IsName w → [',', ' '].intercalate (w :: ws) ≠ [] := by
    rintro - ws ⟨x, xs, rfl, -⟩
    cases ws <;> simp
  have hcomma : ∀ {w : List Char}, IsName w → ',' ∉ w := fun hw => notMem_of_isName hw rfl
  cases vs with
  | nil =>
    cases ws with
    | nil => rfl
    | cons w ws => exact absurd h.symm (hne (hw w List.mem_cons_self))
  | cons v vs =>
    cases ws with
    | nil => exact absurd h (hne (hv v List.mem_cons_self))
    | cons w ws =>
      have hcount := congrArg (List.count ',') h
      rw [count_intercalate fun v h => hcomma (hv v h), count_intercalate fun w h => hcomma (hw w h)] at hcount
      rw [List.length_cons, List.length_cons, hcount]

/-- A signature tells the name and the arity. -/
theorem Named.eq_of_signature_eq (hd : d.Named) (he : e.Named) (h : d.signature = e.signature) :
    d.name = e.name ∧ d.arity = e.arity := by
  have hopen : ∀ {d : FilterDef}, d.Named → ∀ c ∈ d.name.toList, (c != '(') = true := fun hd c hc =>
    bne_iff_ne.2 fun heq => notMem_of_isName hd.1 rfl (heq ▸ hc)
  have hlist := congrArg String.toList h
  rw [toList_signature, toList_signature] at hlist
  have hname := congrArg (List.takeWhile (· != '(')) hlist
  rw [List.takeWhile_append_of_pos (hopen hd), List.takeWhile_append_of_pos (hopen he)] at hname
  have hname : d.name.toList = e.name.toList := by simpa using hname
  rw [hname, List.append_cancel_left_eq, List.cons.injEq, List.append_cancel_right_eq] at hlist
  have hlength := length_eq_of_intercalate_eq (fun _ => hd.isName_of_mem_argNames) (fun _ => he.isName_of_mem_argNames) hlist.2
  rw [List.length_map, List.length_map, length_argNames, length_argNames] at hlength
  exact ⟨String.toList_inj.1 hname, hlength⟩

end FilterDef

/-! ## What is suggested -/

namespace Suggestion

/-- How far a name is from a wanted one, letter case apart. -/
noncomputable def distanceFrom (wanted name : String) : ℕ :=
  Text.levenshtein (Text.lower wanted.toList) (Text.lower name.toList)

/-- The names of filters within the greatest distance: nearer names first, and names of one distance in their order. -/
noncomputable def nearNames (wanted : String) (defs : List FilterDef) : List String :=
  (((defs.map (·.name)).toFinset.filter (distanceFrom wanted · ≤ maxDistance)).image
    fun name => toLex (distanceFrom wanted name, name)).sort.map fun k => (ofLex k).2

/-- The place of a filter among the suggestions. -/
noncomputable def rank (wanted : String) (d : FilterDef) : ℕ ×ₗ String ×ₗ ℕ ×ₗ String :=
  toLex (distanceFrom wanted d.name, toLex (d.name, toLex (d.arity, d.signature)))

/-- The signatures of the filters with the first of the near names, in the order of their places. -/
noncomputable def nearestSignatures (wanted : String) (defs : List FilterDef) : List String :=
  ((defs.filter fun d => d.name ∈ (nearNames wanted defs).take maxNames).map (rank wanted)).toFinset.sort.map
    fun r => (ofLex (ofLex (ofLex r).2).2).2

/-- What is near, in its order and without repetition. -/
def inOrder (wanted : String) (defs : List FilterDef) : List Suggestion :=
  dropRepeated (((defs.map (ofDef wanted)).filter (·.distance ≤ maxDistance)).mergeSort le)

theorem nameDistance_eq (wanted name : String) : nameDistance wanted name = distanceFrom wanted name :=
  Text.editDistance_eq_levenshtein _ _

theorem key_ofDef (wanted : String) (d : FilterDef) : (ofDef wanted d).key = rank wanted d := by
  rw [key, rank, ofDef, nameDistance_eq]

section

variable {wanted : String} {defs : List FilterDef}

/-- Filters that are named distinguish their suggestions. -/
theorem distinguished_map_ofDef (h : ∀ d ∈ defs, d.Named) : Distinguished (defs.map (ofDef wanted)) := by
  intro a ha b hb hab
  obtain ⟨d, hd, rfl⟩ := List.mem_map.1 ha
  obtain ⟨e, he, rfl⟩ := List.mem_map.1 hb
  obtain ⟨hname, harity⟩ := (h d hd).eq_of_signature_eq (h e he) hab
  have hsignature : d.signature = e.signature := hab
  simp only [ofDef, hname, harity, hsignature]

theorem pairwise_inOrder (wanted : String) (defs : List FilterDef) : (inOrder wanted defs).Pairwise (·.key < ·.key) :=
  pairwise_dropRepeated (pairwise_mergeSort _)

theorem mem_inOrder (h : ∀ d ∈ defs, d.Named) {s : Suggestion} :
    s ∈ inOrder wanted defs ↔ ∃ d ∈ defs, distanceFrom wanted d.name ≤ maxDistance ∧ ofDef wanted d = s := by
  have hmem : ∀ s, s ∈ ((defs.map (ofDef wanted)).filter (·.distance ≤ maxDistance)).mergeSort le ↔
      ∃ d ∈ defs, distanceFrom wanted d.name ≤ maxDistance ∧ ofDef wanted d = s := by
    intro s
    rw [List.mem_mergeSort, List.mem_filter, List.mem_map, decide_eq_true_iff]
    constructor
    · rintro ⟨⟨d, hd, rfl⟩, hle⟩
      exact ⟨d, hd, (nameDistance_eq wanted d.name).ge.trans hle, rfl⟩
    · rintro ⟨d, hd, hle, rfl⟩
      exact ⟨⟨d, hd, rfl⟩, (nameDistance_eq wanted d.name).le.trans hle⟩
  have hdist : Distinguished (((defs.map (ofDef wanted)).filter (·.distance ≤ maxDistance)).mergeSort le) := by
    intro a ha b hb
    exact distinguished_map_ofDef h a (List.mem_of_mem_filter (List.mem_mergeSort.1 ha)) b
      (List.mem_of_mem_filter (List.mem_mergeSort.1 hb))
  rw [inOrder, mem_dropRepeated hdist, hmem]

/-- The first names, each once. -/
theorem firstNames_eq (count : Nat) (ss : List Suggestion) :
    firstNames count ss = (ss.map (·.name)).eraseDups.take count := by
  rw [firstNames]
  congr 1
  induction ss using List.reverseRecOn with
  | nil => rfl
  | append_singleton ss s ih => rw [List.foldl_concat, List.map_append, List.map_singleton, eraseDups_concat, ih]

/-- Names in the order of their distances, each once. -/
theorem pairwise_eraseDups {names : List String} {f : String → ℕ ×ₗ String} (hf : Function.Injective f)
    (h : names.Pairwise (f · ≤ f ·)) : names.eraseDups.Pairwise (f · < f ·) := by
  induction names using List.reverseRecOn with
  | nil => exact .nil
  | append_singleton names name ih =>
    obtain ⟨hnames, -, hlast⟩ := List.pairwise_append.1 h
    rw [eraseDups_concat]
    by_cases hmem : names.eraseDups.contains name = true
    · rw [if_pos hmem]
      exact ih hnames
    · rw [if_neg hmem]
      refine List.pairwise_append.2 ⟨ih hnames, List.pairwise_singleton _ _, fun a ha b hb => ?_⟩
      have hne : f a ≠ f b := by
        intro heq
        obtain rfl := List.mem_singleton.1 hb
        exact hmem (List.contains_iff_mem.2 (hf heq ▸ ha))
      exact (hlast a (List.mem_eraseDups.1 ha) b hb).lt_of_ne hne

/-- The names of what is in order, each once, are the near names. -/
theorem eraseDups_names_inOrder (h : ∀ d ∈ defs, d.Named) :
    ((inOrder wanted defs).map (·.name)).eraseDups = nearNames wanted defs := by
  let f : String → ℕ ×ₗ String := fun name => toLex (distanceFrom wanted name, name)
  have hf : Function.Injective f := fun a b hab => congrArg (fun k => (ofLex k).2) hab
  have hle : ((inOrder wanted defs).map (·.name)).Pairwise (f · ≤ f ·) := by
    refine List.pairwise_map.2 ((pairwise_inOrder wanted defs).imp_of_mem fun {a b} ha hb hab => ?_)
    obtain ⟨d, -, -, rfl⟩ := (mem_inOrder h).1 ha
    obtain ⟨e, -, -, rfl⟩ := (mem_inOrder h).1 hb
    rw [key_ofDef, key_ofDef, rank, rank, Prod.Lex.toLex_lt_toLex] at hab
    refine Prod.Lex.toLex_le_toLex.2 (hab.imp_right fun ⟨hdistance, hlt⟩ => ⟨hdistance, ?_⟩)
    exact (Prod.Lex.toLex_lt_toLex.1 hlt).elim le_of_lt fun heq => heq.1.le
  have hlt := pairwise_eraseDups hf hle
  have hsort := sort_toFinset_of_pairwise_lt (List.pairwise_map.2 hlt)
  have hset : ((((inOrder wanted defs).map (·.name)).eraseDups).map f).toFinset =
      ((defs.map (·.name)).toFinset.filter (distanceFrom wanted · ≤ maxDistance)).image f := by
    ext k
    simp only [List.mem_toFinset, List.mem_map, List.mem_eraseDups, Finset.mem_image, Finset.mem_filter, mem_inOrder h]
    constructor
    · rintro ⟨-, ⟨-, ⟨d, hd, hnear, rfl⟩, rfl⟩, rfl⟩
      exact ⟨d.name, ⟨⟨d, hd, rfl⟩, hnear⟩, rfl⟩
    · rintro ⟨-, ⟨⟨d, hd, rfl⟩, hnear⟩, rfl⟩
      exact ⟨d.name, ⟨ofDef wanted d, ⟨d, hd, hnear, rfl⟩, rfl⟩, rfl⟩
  rw [nearNames, ← hset, hsort, List.map_map]
  exact (List.map_id _).symm

theorem distance_le_of_mem_nearNames {name : String} (h : name ∈ nearNames wanted defs) :
    distanceFrom wanted name ≤ maxDistance := by
  obtain ⟨k, hk, rfl⟩ := List.mem_map.1 h
  obtain ⟨name, hname, rfl⟩ := Finset.mem_image.1 ((Finset.mem_sort _).1 hk)
  exact (Finset.mem_filter.1 hname).2

end

end Suggestion

open Suggestion

section

variable {wanted : String} {defs : List FilterDef}

theorem suggestFilters_eq_map_inOrder (h : ∀ d ∈ defs, d.Named) :
    suggestFilters wanted defs =
      ((inOrder wanted defs).filter fun s => s.name ∈ (nearNames wanted defs).take maxNames).map (·.signature) := by
  rw [← eraseDups_names_inOrder h, ← firstNames_eq]
  refine congrArg (List.map Suggestion.signature) (List.filter_congr fun s _ => ?_)
  rw [Bool.eq_iff_iff, List.contains_iff_mem, decide_eq_true_iff]
  rfl

theorem suggestFilters_eq_nearestSignatures (h : ∀ d ∈ defs, d.Named) :
    suggestFilters wanted defs = nearestSignatures wanted defs := by
  let ss := (inOrder wanted defs).filter fun s => s.name ∈ (nearNames wanted defs).take maxNames
  have hsort : (ss.map key).toFinset.sort = ss.map key :=
    sort_toFinset_of_pairwise_lt (List.pairwise_map.2 ((pairwise_inOrder wanted defs).filter _))
  have hset : (ss.map key).toFinset =
      ((defs.filter fun d => d.name ∈ (nearNames wanted defs).take maxNames).map (rank wanted)).toFinset := by
    ext k
    simp only [ss, List.mem_toFinset, List.mem_map, List.mem_filter, mem_inOrder h, decide_eq_true_iff]
    constructor
    · rintro ⟨-, ⟨⟨d, hd, -, rfl⟩, hfirst⟩, rfl⟩
      exact ⟨d, ⟨hd, hfirst⟩, (key_ofDef wanted d).symm⟩
    · rintro ⟨d, ⟨hd, hfirst⟩, rfl⟩
      have hnear := distance_le_of_mem_nearNames (List.mem_of_mem_take hfirst)
      exact ⟨ofDef wanted d, ⟨⟨d, hd, hnear, rfl⟩, hfirst⟩, key_ofDef wanted d⟩
  rw [suggestFilters_eq_map_inOrder h, nearestSignatures, ← hset, hsort, List.map_map]
  rfl

theorem nodup_suggestFilters (h : ∀ d ∈ defs, d.Named) : (suggestFilters wanted defs).Nodup := by
  rw [suggestFilters_eq_map_inOrder h]
  refine List.Nodup.map_on (fun a ha b hb hab => ?_) (((pairwise_inOrder wanted defs).filter _).imp fun hlt heq => ?_)
  · obtain ⟨d, hd, -, rfl⟩ := (mem_inOrder h).1 (List.mem_of_mem_filter ha)
    obtain ⟨e, he, -, rfl⟩ := (mem_inOrder h).1 (List.mem_of_mem_filter hb)
    exact distinguished_map_ofDef h _ (List.mem_map_of_mem hd) _ (List.mem_map_of_mem he) hab
  · exact hlt.ne (congrArg key heq)

/-- The nearest signatures depend on the set of the filters only. -/
theorem nearestSignatures_congr {defs' : List FilterDef} (h : ∀ d, d ∈ defs' ↔ d ∈ defs) :
    nearestSignatures wanted defs' = nearestSignatures wanted defs := by
  have hmap : ∀ {α : Type} [DecidableEq α] (f : FilterDef → α) (p : FilterDef → Bool),
      ((defs'.filter p).map f).toFinset = ((defs.filter p).map f).toFinset := by
    intro α _ f p
    ext a
    simp only [List.mem_toFinset, List.mem_map, List.mem_filter, h]
  have hnames : (defs'.map (·.name)).toFinset = (defs.map (·.name)).toFinset := by
    ext name
    simp only [List.mem_toFinset, List.mem_map, h]
  rw [nearestSignatures, nearestSignatures, nearNames, nearNames, hnames, hmap]

end

/-- For every wanted name, what is suggested are the signatures of the filters with the nearest names, in their order and without
duplicates, and it is the same for all lists of the same filters. -/
theorem suggestFilters_eq (wanted : String) (defs : List FilterDef) (h : ∀ d ∈ defs, d.Named) :
    suggestFilters wanted defs = nearestSignatures wanted defs ∧ (suggestFilters wanted defs).Nodup ∧
      ∀ defs', (∀ d, d ∈ defs' ↔ d ∈ defs) → suggestFilters wanted defs' = suggestFilters wanted defs := by
  refine ⟨suggestFilters_eq_nearestSignatures h, nodup_suggestFilters h, fun defs' hsame => ?_⟩
  have h' : ∀ d ∈ defs', d.Named := fun d hd => h d ((hsame d).1 hd)
  rw [suggestFilters_eq_nearestSignatures h', suggestFilters_eq_nearestSignatures h, nearestSignatures_congr hsame]

/-- A filter that hands its value on. -/
def FilterDef.idle (name : String) (params : List String) : FilterDef where
  name := name
  arity := params.length + 1
  params := params
  body := .value fun _ v _ => .ok v

/-- Both arities of a name come before a name that is farther off, in whatever order and however often they are registered. -/
theorem suggestFilters_substring :
    let one := FilterDef.idle "substring" ["start"]
    let two := FilterDef.idle "substring" ["start", "length"]
    let other := FilterDef.idle "string" []
    (∀ d ∈ [one, two, other], d.Named) ∧
      suggestFilters "substring" [one, two, other] = nearestSignatures "substring" [one, two, other] ∧
      suggestFilters "substring" [other, two, one, two] = suggestFilters "substring" [one, two, other] ∧
      suggestFilters "substring" [one, two, other] =
        ["substring(value, start)", "substring(value, start, length)", "string(value)"] := by
  intro one two other
  have hnamed : ∀ d ∈ [one, two, other], d.Named := by
    have hname : ∀ {x : Char} {xs : List Char}, isNameStart x = true → xs.all isNameChar = true → IsName (x :: xs) :=
      fun hx hxs => ⟨_, _, rfl, hx, List.all_eq_true.1 hxs⟩
    have hsubstring : IsName "substring".toList := hname rfl rfl
    have hstring : IsName "string".toList := hname rfl rfl
    have hstart : IsName "start".toList := hname rfl rfl
    have hlength : IsName "length".toList := hname rfl rfl
    refine List.forall_mem_cons.2 ⟨⟨hsubstring, ?_⟩, List.forall_mem_cons.2 ⟨⟨hsubstring, ?_⟩, ?_⟩⟩
    · exact List.forall_mem_singleton.2 hstart
    · exact List.forall_mem_cons.2 ⟨hstart, List.forall_mem_singleton.2 hlength⟩
    · exact List.forall_mem_singleton.2 ⟨hstring, nofun⟩
  have h := suggestFilters_eq "substring" [one, two, other] hnamed
  exact ⟨hnamed, h.1, h.2.2 [other, two, one, two] (by simp [or_comm, or_left_comm]), by cbv⟩

end PageTemplates
