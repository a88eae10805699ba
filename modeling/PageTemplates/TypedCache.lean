/-!
# Typed caches

A cache keeps values of several types under texts; values of different types never meet, even under one text. An entry stays as
it was first stored. Main statements: looking an entry up after `insert`.
-/

namespace PageTemplates

/-- The entries of a cache: `κ` names the types, and `Entry` says which type a name stands for. -/
structure TypedCache (κ : Type) (Entry : κ → Type) where
  entries : List ((k : κ) × String × Entry k) := []

namespace TypedCache

variable {κ : Type} [DecidableEq κ] {Entry : κ → Type}

/-- The first entry of a type under a text. -/
def find? (kind : κ) (key : String) : List ((k : κ) × String × Entry k) → Option (Entry kind)
  | [] => none
  | ⟨k, other, entry⟩ :: rest =>
    if h : k = kind then
      if other = key then some (h ▸ entry) else find? kind key rest
    else find? kind key rest

/-- The entry of a type under a text. -/
def get? (c : TypedCache κ Entry) (kind : κ) (key : String) : Option (Entry kind) :=
  find? kind key c.entries

/-- The entry that is in the cache once a value was offered, and the cache: the value is stored unless there is an entry. -/
def insert (c : TypedCache κ Entry) (kind : κ) (key : String) (value : Entry kind) : Entry kind × TypedCache κ Entry :=
  match c.get? kind key with
  | some entry => (entry, c)
  | none => (value, { entries := ⟨kind, key, value⟩ :: c.entries })

/-- The entry under a text, built and stored if there is none. A failure to build leaves the cache as it is. -/
def getOrBuild {ε : Type} (c : TypedCache κ Entry) (kind : κ) (key : String) (build : Except ε (Entry kind)) :
    Except ε (Entry kind) × TypedCache κ Entry :=
  match c.get? kind key with
  | some entry => (.ok entry, c)
  | none =>
    match build with
    | .ok value =>
      let (entry, c) := c.insert kind key value
      (.ok entry, c)
    | .error e => (.error e, c)

/-- The number of entries. -/
def size (c : TypedCache κ Entry) : Nat :=
  c.entries.length

/-- A value that was offered is found, or the entry that was there before it. -/
theorem get?_insert_self (c : TypedCache κ Entry) (kind : κ) (key : String) (value : Entry kind) :
    (c.insert kind key value).2.get? kind key = some (c.insert kind key value).1 := by
  unfold insert
  split
  · assumption
  · simp [get?, find?]

/-- Offering a value leaves every other entry as it is. -/
theorem get?_insert_of_ne (c : TypedCache κ Entry) {kind other : κ} {key text : String} (value : Entry kind)
    (h : other ≠ kind ∨ text ≠ key) : (c.insert kind key value).2.get? other text = c.get? other text := by
  unfold insert
  split
  · rfl
  · rcases h with h | h
    · simp [get?, find?, Ne.symm h]
    · by_cases hk : kind = other
      · subst hk
        simp [get?, find?, Ne.symm h]
      · simp [get?, find?, hk]

end TypedCache

end PageTemplates
