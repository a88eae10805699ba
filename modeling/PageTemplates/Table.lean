/-!
# Tables

A table binds keys, mostly names, to values and keeps the order in which the keys came. A key that is bound again keeps its
place and takes the new value. Main statements: looking a key up after `insert` and after `erase`, and each key is there once
after them.
-/

namespace PageTemplates

/-- Keys with their values, each key once. -/
abbrev Table (α : Type) (κ : Type := String) := List (κ × α)

namespace Table

variable {α κ : Type} [DecidableEq κ]

/-- The value bound to a key. -/
def get? (t : Table α κ) (key : κ) : Option α :=
  List.lookup key t

/-- Whether a key is bound. -/
def contains (t : Table α κ) (key : κ) : Bool :=
  (get? t key).isSome

/-- The table with a key bound to a value: in its place if the table has the key, else at the end. -/
def insert (t : Table α κ) (key : κ) (value : α) : Table α κ :=
  match t with
  | [] => [(key, value)]
  | (other, old) :: rest => if key = other then (other, value) :: rest else (other, old) :: insert rest key value

/-- The table without a key; the other keys keep their order. -/
def erase (t : Table α κ) (key : κ) : Table α κ :=
  match t with
  | [] => []
  | (other, value) :: rest => if key = other then rest else (other, value) :: erase rest key

/-- The table with the given keys bound one after the other. -/
def insertAll (t : Table α κ) (entries : List (κ × α)) : Table α κ :=
  entries.foldl (fun t (key, value) => insert t key value) t

/-- The table of a list of bindings, which may repeat a key: each key has its first place and its last value. -/
def ofList (entries : List (κ × α)) : Table α κ :=
  insertAll [] entries

/-- The keys, in order. -/
def names (t : Table α κ) : List κ :=
  t.map (·.1)

@[simp]
theorem get?_nil (key : κ) : get? ([] : Table α κ) key = none := rfl

theorem get?_cons (other : κ) (value : α) (t : Table α κ) (key : κ) :
    get? ((other, value) :: t) key = if key = other then some value else get? t key := by
  by_cases h : key = other
  · subst h
    simp [get?]
  · simp [get?, List.lookup_cons, h, beq_eq_false_iff_ne.2 h]

/-- A value that is bound to a key stands beside it in the table. -/
theorem mem_of_get? {t : Table α κ} {key : κ} {value : α} (h : get? t key = some value) : (key, value) ∈ t := by
  obtain ⟨before, after, rfl, -⟩ := List.lookup_eq_some_iff.1 h
  exact List.mem_append_right _ List.mem_cons_self

/-- A key just bound has its value, and every other key what it had. -/
theorem get?_insert (t : Table α κ) (key : κ) (value : α) (other : κ) :
    get? (insert t key value) other = if other = key then some value else get? t other := by
  induction t with
  | nil => simp [insert, get?_cons]
  | cons e t ih =>
    obtain ⟨first, old⟩ := e
    by_cases h : key = first
    · subst h
      by_cases ho : other = key <;> simp [insert, get?_cons, ho]
    · by_cases ho : other = first
      · subst ho
        simp [insert, get?_cons, h, Ne.symm h]
      · simp [insert, get?_cons, h, ho, ih]

/-- Erasing a key leaves what every other key is bound to. -/
theorem get?_erase_of_ne (t : Table α κ) {key other : κ} (h : other ≠ key) :
    get? (erase t key) other = get? t other := by
  induction t with
  | nil => rfl
  | cons e t ih =>
    obtain ⟨first, value⟩ := e
    by_cases hk : key = first
    · subst hk
      simp [erase, get?_cons, h]
    · by_cases ho : other = first <;> simp [erase, get?_cons, hk, ho, ih]

/-- A table that has each key once does not have a key that was erased. -/
theorem get?_erase_self {t : Table α κ} (h : (names t).Nodup) (key : κ) : get? (erase t key) key = none := by
  induction t with
  | nil => rfl
  | cons e t ih =>
    obtain ⟨first, value⟩ := e
    obtain ⟨hfirst, ht⟩ := List.nodup_cons.1 h
    rw [erase]
    by_cases hk : key = first
    · subst hk
      rw [if_pos rfl, get?, List.lookup_eq_none_iff]
      intro entry hentry
      have hne : key ≠ entry.1 := fun he => hfirst (List.mem_map.2 ⟨entry, hentry, he.symm⟩)
      simpa using hne
    · rw [if_neg hk, get?_cons, if_neg hk]
      exact ih ht

/-- Binding a key adds it to the keys, unless it is one of them. -/
theorem names_insert (t : Table α κ) (key : κ) (value : α) :
    names (insert t key value) = if key ∈ names t then names t else names t ++ [key] := by
  induction t with
  | nil => rfl
  | cons e t ih =>
    obtain ⟨first, old⟩ := e
    by_cases hk : key = first
    · subst hk
      simp [insert, names]
    · have hmem : key ∈ names ((first, old) :: t) ↔ key ∈ names t := by simp [names, hk]
      have hcons : names (insert ((first, old) :: t) key value) = first :: names (insert t key value) := by
        simp [insert, names, hk]
      rw [hcons, ih]
      by_cases hkey : key ∈ names t
      · rw [if_pos hkey, if_pos (hmem.2 hkey)]
        rfl
      · rw [if_neg hkey, if_neg fun h => hkey (hmem.1 h)]
        rfl

theorem mem_names_insert {t : Table α κ} {key : κ} {value : α} {other : κ} :
    other ∈ names (insert t key value) ↔ other ∈ names t ∨ other = key := by
  rw [names_insert]
  split
  · rename_i hkey
    exact ⟨Or.inl, fun h => h.elim id fun ho => ho ▸ hkey⟩
  · rw [List.mem_append, List.mem_singleton]

theorem get?_isSome_iff {t : Table α κ} {key : κ} : (get? t key).isSome = true ↔ key ∈ names t := by
  induction t with
  | nil => simp [names]
  | cons e t ih =>
    obtain ⟨first, value⟩ := e
    rw [get?_cons]
    by_cases hk : key = first
    · simp [names, hk]
    · simpa [names, hk] using ih

/-- A new key comes at the end. -/
theorem insert_of_not_mem {t : Table α κ} {key : κ} (h : key ∉ names t) (value : α) :
    insert t key value = t ++ [(key, value)] := by
  induction t with
  | nil => rfl
  | cons e t ih =>
    obtain ⟨first, old⟩ := e
    obtain ⟨hne, ht⟩ := not_or.1 (fun hmem => h (List.mem_cons.2 hmem))
    rw [insert, if_neg hne, ih ht, List.cons_append]

/-- Binding a key leaves each key once. -/
theorem nodup_names_insert {t : Table α κ} (h : (names t).Nodup) (key : κ) (value : α) :
    (names (insert t key value)).Nodup := by
  rw [names_insert]
  split
  · exact h
  · rename_i hkey
    refine List.nodup_append.2 ⟨h, by simp, fun a ha b hb hab => hkey ?_⟩
    rw [← List.mem_singleton.1 hb, ← hab]
    exact ha

theorem erase_sublist (t : Table α κ) (key : κ) : (erase t key).Sublist t := by
  induction t with
  | nil => exact List.Sublist.refl _
  | cons e t ih =>
    obtain ⟨first, value⟩ := e
    rw [erase]
    split
    · exact List.sublist_cons_self _ _
    · exact ih.cons_cons _

/-- Erasing a key leaves each key once. -/
theorem nodup_names_erase {t : Table α κ} (h : (names t).Nodup) (key : κ) : (names (erase t key)).Nodup :=
  h.sublist ((erase_sublist t key).map _)

/-- Erasing a key just bound is erasing the key. -/
theorem erase_insert (t : Table α κ) (key : κ) (value : α) : erase (insert t key value) key = erase t key := by
  induction t with
  | nil => simp [insert, erase]
  | cons e t ih =>
    obtain ⟨first, old⟩ := e
    by_cases hk : key = first <;> simp [insert, erase, hk, ih]

end Table

end PageTemplates
