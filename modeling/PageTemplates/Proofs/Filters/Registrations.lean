import Mathlib.Data.List.Induction
import Mathlib.Data.List.Nodup
import PageTemplates.Proofs.Evaluation.Filters

/-!
# Registrations of filters

A registry after filters were registered one after the other. Only the first filter of a kind, name and arity counts. The
registry is also described as it is kept, in three parts that every registration changes: the filters by their keys, the keys
in their order, and the names in theirs. Main statement: both tell of the first registrations, whatever was registered
(`registerAll_views`).
-/

namespace PageTemplates

/-- What a filter is registered under. -/
def FilterDef.key (d : FilterDef) : FilterKind × String × Nat :=
  (d.kind, d.name, d.arity)

/-! ## First registrations -/

/-- Nothing before a place of the list has the key of the filter there. -/
def isFirst (defs : List FilterDef) (place : FilterDef × Nat) : Bool :=
  (defs.take place.2).all fun earlier => earlier.key ≠ place.1.key

/-- For every registration, whether it is the first one of its key. -/
def firstFlags (defs : List FilterDef) : List Bool :=
  defs.zipIdx.map (isFirst defs)

/-- The filters that are the first of their keys, in the order of registration. -/
def firsts (defs : List FilterDef) : List FilterDef :=
  (defs.zipIdx.filter (isFirst defs)).map (·.1)

section

variable {defs : List FilterDef} {d : FilterDef}

/-- What is registered later does not change which registrations came first. -/
theorem isFirst_concat {place : FilterDef × Nat} (h : place ∈ defs.zipIdx) :
    isFirst (defs ++ [d]) place = isFirst defs place := by
  have hlt : place.2 < defs.length := List.snd_lt_of_mem_zipIdx h
  rw [isFirst, isFirst, List.take_append_of_le_length (Nat.le_of_lt hlt)]

theorem isFirst_last : isFirst (defs ++ [d]) (d, defs.length) = decide (d.key ∉ defs.map FilterDef.key) := by
  rw [isFirst, List.take_left, Bool.eq_iff_iff, decide_eq_true_iff]
  simp

theorem firstFlags_concat (defs : List FilterDef) (d : FilterDef) :
    firstFlags (defs ++ [d]) = firstFlags defs ++ [decide (d.key ∉ defs.map FilterDef.key)] := by
  rw [firstFlags, List.zipIdx_append, List.map_append, List.map_congr_left fun place hplace => isFirst_concat hplace,
    Nat.zero_add, List.zipIdx_singleton, List.map_singleton, isFirst_last]
  rfl

theorem firsts_concat (defs : List FilterDef) (d : FilterDef) :
    firsts (defs ++ [d]) = firsts defs ++ if d.key ∈ defs.map FilterDef.key then [] else [d] := by
  rw [firsts, List.zipIdx_append, List.filter_append, List.filter_congr fun place hplace => isFirst_concat hplace,
    Nat.zero_add, List.zipIdx_singleton, List.filter_cons, List.filter_nil, isFirst_last, List.map_append]
  by_cases h : d.key ∈ defs.map FilterDef.key
  · rw [if_pos h, decide_eq_false (not_not_intro h), if_neg Bool.false_ne_true]
    rfl
  · rw [if_neg h, decide_eq_true h, if_pos rfl]
    rfl

/-- What depends on the key only is the same for the first registrations as for all of them. -/
theorem mem_map_firsts {α : Type} (f : FilterDef → α) (hf : ∀ d e : FilterDef, d.key = e.key → f d = f e) {a : α} :
    a ∈ (firsts defs).map f ↔ a ∈ defs.map f := by
  induction defs using List.reverseRecOn with
  | nil => rfl
  | append_singleton defs d ih =>
    rw [firsts_concat, List.map_append, List.map_append, List.mem_append, List.mem_append, ih]
    by_cases h : d.key ∈ defs.map FilterDef.key
    · obtain ⟨e, he, hkey⟩ := List.mem_map.1 h
      have hmem : f d ∈ defs.map f := List.mem_map.2 ⟨e, he, hf e d hkey⟩
      rw [if_pos h, List.map_nil, List.map_singleton, List.mem_singleton]
      exact ⟨fun ha => ha.elim Or.inl nofun, fun ha => Or.inl (ha.elim id fun hd => hd ▸ hmem)⟩
    · rw [if_neg h]

theorem mem_keys_firsts {key : FilterKind × String × Nat} :
    key ∈ (firsts defs).map FilterDef.key ↔ key ∈ defs.map FilterDef.key :=
  mem_map_firsts FilterDef.key fun _ _ => id

theorem isEmpty_firsts (defs : List FilterDef) : (firsts defs).isEmpty = defs.isEmpty := by
  cases defs with
  | nil => rfl
  | cons d defs =>
    have hkey : d.key ∈ (firsts (d :: defs)).map FilterDef.key :=
      mem_keys_firsts.2 (List.mem_map_of_mem List.mem_cons_self)
    obtain ⟨e, he, -⟩ := List.mem_map.1 hkey
    exact List.isEmpty_eq_false_iff.2 (List.ne_nil_of_mem he)

theorem any_name_firsts (defs : List FilterDef) (name : String) :
    (firsts defs).any (·.name = name) = defs.any (·.name = name) := by
  have hmem : name ∈ (firsts defs).map (·.name) ↔ name ∈ defs.map (·.name) :=
    mem_map_firsts _ fun d e h => congrArg (·.2.1) h
  rw [Bool.eq_iff_iff]
  simpa using hmem

theorem nodup_firsts (defs : List FilterDef) : ((firsts defs).map FilterDef.key).Nodup := by
  induction defs using List.reverseRecOn with
  | nil => exact List.nodup_nil
  | append_singleton defs d ih =>
    rw [firsts_concat]
    by_cases h : d.key ∈ defs.map FilterDef.key
    · rwa [if_pos h, List.append_nil]
    · have hnew : d.key ∉ (firsts defs).map FilterDef.key := fun hmem => h (mem_keys_firsts.1 hmem)
      rw [if_neg h, List.map_append, List.map_singleton, ← List.concat_eq_append]
      exact List.Nodup.concat hnew ih

/-- One more name comes at the end, unless it is there. -/
theorem eraseDups_concat (names : List String) (name : String) :
    (names ++ [name]).eraseDups =
      if names.eraseDups.contains name then names.eraseDups else names.eraseDups ++ [name] := by
  rw [List.eraseDups_append]
  by_cases h : name ∈ names
  · rw [if_pos (List.contains_iff_mem.2 (List.mem_eraseDups.2 h))]
    simp [List.removeAll, h]
  · rw [if_neg fun hmem => h (List.mem_eraseDups.1 (List.contains_iff_mem.1 hmem))]
    simp [List.removeAll, h, List.eraseDups_cons]

/-- A filter whose key was registered brings no new name. -/
theorem eraseDups_names_of_key_mem (h : d.key ∈ defs.map FilterDef.key) :
    ((defs ++ [d]).map (·.name)).eraseDups = (defs.map (·.name)).eraseDups := by
  obtain ⟨e, he, hkey⟩ := List.mem_map.1 h
  have hname : d.name ∈ defs.map (·.name) := List.mem_map.2 ⟨e, he, congrArg (·.2.1) hkey⟩
  rw [List.map_append, List.map_singleton, eraseDups_concat,
    if_pos (List.contains_iff_mem.2 (List.mem_eraseDups.2 hname))]

end

/-! ## Registering one after the other -/

/-- Registers filters one after the other, in whatever keeps them: what the registrations answer, and what is kept then. -/
def registerAll {σ : Type} (register : σ → FilterDef → Bool × σ) (s : σ) : List FilterDef → List Bool × σ
  | [] => ([], s)
  | d :: defs =>
    let (added, s) := register s d
    let (answers, s) := registerAll register s defs
    (added :: answers, s)

section

variable {σ : Type} (register : σ → FilterDef → Bool × σ) (s : σ)

theorem registerAll_concat (defs : List FilterDef) (d : FilterDef) :
    registerAll register s (defs ++ [d]) =
      ((registerAll register s defs).1 ++ [(register (registerAll register s defs).2 d).1],
        (register (registerAll register s defs).2 d).2) := by
  induction defs generalizing s with
  | nil => rfl
  | cons d' defs ih => simp only [List.cons_append, registerAll, ih]

theorem registerAll_snd (defs : List FilterDef) :
    (registerAll register s defs).2 = defs.foldl (fun s d => (register s d).2) s := by
  induction defs generalizing s with
  | nil => rfl
  | cons d defs ih => exact ih _

end

/-! ## The registry -/

namespace FilterRegistry

theorem find?_isSome_iff {r : FilterRegistry} {d : FilterDef} :
    (r.find? d.kind d.name d.arity).isSome = true ↔ d.key ∈ r.defs.map FilterDef.key := by
  simp [find?, FilterDef.answers, FilterDef.key, and_assoc]

/-- Registering keeps the first registrations and answers whether it was one. -/
theorem registerAll_eq (defs : List FilterDef) :
    registerAll register {} defs = (firstFlags defs, { defs := firsts defs }) := by
  induction defs using List.reverseRecOn with
  | nil => rfl
  | append_singleton defs d ih =>
    have hsome := find?_isSome_iff (r := { defs := firsts defs }) (d := d)
    rw [mem_keys_firsts] at hsome
    rw [registerAll_concat, ih, firstFlags_concat, firsts_concat, register]
    cases hfind : find? { defs := firsts defs } d.kind d.name d.arity with
    | none =>
      have hnew : d.key ∉ defs.map FilterDef.key := fun hmem => by simpa [hfind] using hsome.2 hmem
      rw [if_neg hnew, decide_eq_true hnew]
    | some d' =>
      have hold : d.key ∈ defs.map FilterDef.key := hsome.1 (by rw [hfind]; rfl)
      rw [if_pos hold, decide_eq_false (not_not_intro hold), List.append_nil]

theorem ofList_eq (defs : List FilterDef) : ofList defs = { defs := firsts defs } := by
  rw [ofList, ← registerAll_snd register, registerAll_eq]

theorem ofProviders_eq (providers : List (List FilterDef)) :
    ofProviders providers = { defs := firsts providers.flatten } := by
  rw [ofProviders, ← List.foldl_flatten, ← registerAll_snd register, registerAll_eq]

theorem names_firsts (defs : List FilterDef) : names { defs := firsts defs } = (defs.map (·.name)).eraseDups := by
  induction defs using List.reverseRecOn with
  | nil => rfl
  | append_singleton defs d ih =>
    rw [firsts_concat]
    by_cases h : d.key ∈ defs.map FilterDef.key
    · rw [if_pos h, List.append_nil, ih, eraseDups_names_of_key_mem h]
    · rw [if_neg h, List.map_append, List.map_singleton, eraseDups_concat, ← ih, names, List.foldl_concat]
      rfl

end FilterRegistry

/-! ## The registry in three parts -/

/-- A registry as it is kept: the filters by their keys, the keys in the order of registration, and the names in the order in
which they came first. -/
structure FilterIndex where
  filters : Table FilterDef (FilterKind × String × Nat) := []
  order : List (FilterKind × String × Nat) := []
  names : List String := []

namespace FilterIndex

/-- Registers a filter in all parts, unless its key is there. -/
def register (index : FilterIndex) (d : FilterDef) : Bool × FilterIndex :=
  if Table.contains index.filters d.key then (false, index)
  else (true,
    { filters := Table.insert index.filters d.key d
      order := index.order ++ [d.key]
      names := if index.names.contains d.name then index.names else index.names ++ [d.name] })

/-- The parts after the filters of providers were registered, one provider after the other. -/
def ofProviders (providers : List (List FilterDef)) : FilterIndex :=
  providers.foldl (fun index defs => defs.foldl (fun index d => (index.register d).2) index) {}

/-- The parts that keep the first registrations. -/
def ofFirsts (defs : List FilterDef) : FilterIndex where
  filters := (firsts defs).map fun d => (d.key, d)
  order := (firsts defs).map FilterDef.key
  names := (defs.map (·.name)).eraseDups

theorem names_filters_ofFirsts (defs : List FilterDef) :
    Table.names (ofFirsts defs).filters = (firsts defs).map FilterDef.key := by
  simp [Table.names, ofFirsts]

/-- **Consistency.** The parts of the registry agree after every registration: all of them keep the first registrations. -/
theorem registerAll_eq (defs : List FilterDef) :
    registerAll register {} defs = (firstFlags defs, ofFirsts defs) := by
  induction defs using List.reverseRecOn with
  | nil => rfl
  | append_singleton defs d ih =>
    have hcontains : Table.contains (ofFirsts defs).filters d.key = true ↔ d.key ∈ defs.map FilterDef.key := by
      rw [Table.contains, Table.get?_isSome_iff, names_filters_ofFirsts, mem_keys_firsts]
    rw [registerAll_concat, ih, firstFlags_concat, register]
    by_cases h : d.key ∈ defs.map FilterDef.key
    · -- A filter with the key came first, so its name is there too.
      rw [if_pos (hcontains.2 h), decide_eq_false (not_not_intro h)]
      simp only [ofFirsts, firsts_concat, if_pos h, List.append_nil, eraseDups_names_of_key_mem h]
    · have hnew : d.key ∉ Table.names (ofFirsts defs).filters := by
        rwa [names_filters_ofFirsts, mem_keys_firsts]
      rw [if_neg fun hmem => h (hcontains.1 hmem), decide_eq_true h, Table.insert_of_not_mem hnew]
      simp only [ofFirsts, firsts_concat, if_neg h, List.map_append, List.map_singleton, eraseDups_concat]
      rfl

theorem ofProviders_eq (providers : List (List FilterDef)) : ofProviders providers = ofFirsts providers.flatten := by
  rw [ofProviders, ← List.foldl_flatten, ← registerAll_snd register, registerAll_eq]

end FilterIndex

/-! ## What a registry tells -/

/-- What can be asked of a registry. -/
structure RegistryViews where
  find? : FilterKind → String → Nat → Option FilterDef
  defs : List FilterDef
  names : List String
  contains : String → Bool
  size : Nat
  isEmpty : Bool

/-- What registrations are meant to leave: the first filter of each key, and each name once, in order. -/
def RegistryViews.ofRegistrations (defs : List FilterDef) : RegistryViews where
  find? kind name arity := defs.find? (·.answers kind name arity)
  defs := firsts defs
  names := (defs.map (·.name)).eraseDups
  contains name := defs.any (·.name = name)
  size := (firsts defs).length
  isEmpty := defs.isEmpty

/-- What a registry tells. -/
def FilterRegistry.views (r : FilterRegistry) : RegistryViews where
  find? := r.find?
  defs := r.defs
  names := r.names
  contains := r.contains
  size := r.size
  isEmpty := r.isEmpty

/-- What the parts of a registry tell. -/
def FilterIndex.views (index : FilterIndex) : RegistryViews where
  find? kind name arity := Table.get? index.filters (kind, name, arity)
  defs := index.order.filterMap (Table.get? index.filters)
  names := index.names
  contains name := index.names.contains name
  size := index.filters.length
  isEmpty := index.filters.isEmpty

theorem FilterRegistry.views_firsts (defs : List FilterDef) :
    FilterRegistry.views { defs := firsts defs } = RegistryViews.ofRegistrations defs := by
  rw [FilterRegistry.views, RegistryViews.ofRegistrations, RegistryViews.mk.injEq]
  refine ⟨?_, rfl, FilterRegistry.names_firsts defs, ?_, rfl, isEmpty_firsts defs⟩
  · funext kind name arity
    rw [← find?_ofList, FilterRegistry.ofList_eq]
  · funext name
    exact any_name_firsts defs name

/-- A table of filters by their keys finds what a search for the first filter that answers finds. -/
theorem get?_map_key (defs : List FilterDef) (kind : FilterKind) (name : String) (arity : Nat) :
    Table.get? (defs.map fun d => (d.key, d)) (kind, name, arity) = defs.find? (·.answers kind name arity) := by
  induction defs with
  | nil => rfl
  | cons d defs ih =>
    have hanswers : d.answers kind name arity = true ↔ (kind, name, arity) = d.key := by
      simp only [FilterDef.answers, FilterDef.key, Bool.and_eq_true, decide_eq_true_eq, Prod.mk.injEq]
      constructor
      · rintro ⟨⟨rfl, rfl⟩, rfl⟩
        exact ⟨rfl, rfl, rfl⟩
      · rintro ⟨rfl, rfl, rfl⟩
        exact ⟨⟨rfl, rfl⟩, rfl⟩
    rw [List.map_cons, Table.get?_cons, List.find?_cons, ih]
    by_cases h : (kind, name, arity) = d.key
    · rw [if_pos h, hanswers.2 h]
    · rw [if_neg h, Bool.eq_false_iff.2 fun ha => h (hanswers.1 ha)]

/-- In a table that has each key once, the keys lead to the values in order. -/
theorem Table.filterMap_get?_names {α κ : Type} [DecidableEq κ] {t : Table α κ} (h : (Table.names t).Nodup) :
    (Table.names t).filterMap (Table.get? t) = t.map (·.2) := by
  induction t with
  | nil => rfl
  | cons e t ih =>
    obtain ⟨first, value⟩ := e
    obtain ⟨hfirst, ht⟩ := List.nodup_cons.1 h
    have hself : Table.get? ((first, value) :: t) first = some value := by rw [Table.get?_cons, if_pos rfl]
    have hrest : ∀ key ∈ Table.names t, Table.get? ((first, value) :: t) key = Table.get? t key := by
      intro key hkey
      rw [Table.get?_cons, if_neg]
      rintro rfl
      exact hfirst hkey
    rw [Table.names, List.map_cons, List.filterMap_cons_some hself, List.map_cons, ← ih ht]
    exact congrArg _ (List.filterMap_congr hrest)

theorem FilterIndex.views_ofFirsts (defs : List FilterDef) :
    (FilterIndex.ofFirsts defs).views = RegistryViews.ofRegistrations defs := by
  rw [← FilterRegistry.views_firsts, FilterIndex.views, FilterRegistry.views, RegistryViews.mk.injEq]
  refine ⟨?_, ?_, (FilterRegistry.names_firsts defs).symm, ?_, List.length_map _, ?_⟩
  · funext kind name arity
    exact get?_map_key (firsts defs) kind name arity
  · have hnodup : (Table.names (ofFirsts defs).filters).Nodup := by
      rw [names_filters_ofFirsts]
      exact nodup_firsts defs
    have hvalues := Table.filterMap_get?_names hnodup
    rw [names_filters_ofFirsts] at hvalues
    exact hvalues.trans (by rw [ofFirsts, List.map_map]; exact List.map_id _)
  · funext name
    rw [FilterRegistry.contains, any_name_firsts, Bool.eq_iff_iff]
    simp [ofFirsts]
  · rw [ofFirsts, List.isEmpty_map]
    rfl

/-- **Registrations.** Whatever is registered, in a registry or in its three parts: a registration is accepted exactly if it is
the first of its kind, name and arity, and what the registry tells then is what these registrations are meant to leave. So it is
for the filters of providers, registered one provider after the other. -/
theorem registerAll_views (defs : List FilterDef) :
    (registerAll FilterRegistry.register {} defs).1 = firstFlags defs ∧
      (registerAll FilterRegistry.register {} defs).2.views = RegistryViews.ofRegistrations defs ∧
      (registerAll FilterIndex.register {} defs).1 = firstFlags defs ∧
      (registerAll FilterIndex.register {} defs).2.views = RegistryViews.ofRegistrations defs ∧
      ((firsts defs).map FilterDef.key).Nodup ∧
      ∀ providers : List (List FilterDef),
        (FilterRegistry.ofProviders providers).views = RegistryViews.ofRegistrations providers.flatten ∧
        (FilterIndex.ofProviders providers).views = RegistryViews.ofRegistrations providers.flatten := by
  rw [FilterRegistry.registerAll_eq, FilterIndex.registerAll_eq]
  refine ⟨rfl, FilterRegistry.views_firsts defs, rfl, FilterIndex.views_ofFirsts defs, nodup_firsts defs, ?_⟩
  intro providers
  rw [FilterRegistry.ofProviders_eq, FilterIndex.ofProviders_eq]
  exact ⟨FilterRegistry.views_firsts providers.flatten, FilterIndex.views_ofFirsts providers.flatten⟩

end PageTemplates
