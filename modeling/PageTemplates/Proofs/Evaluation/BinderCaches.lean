import Mathlib.Data.Finset.Card
import Mathlib.Data.List.Dedup
import PageTemplates.Proofs.Evaluation.Caches

/-!
# The cache of compiled paths

Calls of one cache, one after the other. The cache keeps what it compiled under a kind and a text; the path that errors name is
no part of the key. Main statement: every call is answered as compiling answers it, and the cache has one entry for each kind
and text that compiled (`answers_eq_compiled`).
-/

namespace PageTemplates.BinderCache

/-! ## Calls -/

/-- A call of the cache: the kind of the head's value, the path that errors name, and the part of the path after its head. -/
structure Call where
  kind : ValueKind
  expression : String
  rest : String

namespace Call

/-- What an entry is kept under. -/
def key (call : Call) : ValueKind × String :=
  (call.kind, call.rest)

/-- What compiling gives, without a cache. -/
def compiled (call : Call) : Except TemplateError Binder :=
  Binder.compile call.kind call.expression call.rest

end Call

/-- The answer to a call, and the cache after it. -/
def call (cache : BinderCache) (call : Call) : Except TemplateError Binder × BinderCache :=
  cache.getOrCompile Binder.compile call.kind call.expression call.rest

/-- The answers to calls, one after the other, and the cache after them. -/
def answers (cache : BinderCache) : List Call → List (Except TemplateError Binder) × BinderCache
  | [] => ([], cache)
  | call :: calls =>
    let (answer, cache) := cache.call call
    let (answers, cache) := cache.answers calls
    (answer :: answers, cache)

/-- The kinds and texts of the calls that compile, as often as they are called. -/
def compiledKeys (calls : List Call) : List (ValueKind × String) :=
  (calls.filter fun call => call.compiled.isOk).map Call.key

/-- Compiling fails with an error that names the path. -/
theorem expression_of_compile_error {kind : ValueKind} {expression rest : String} {e : TemplateError}
    (h : Binder.compile kind expression rest = .error e) : ∃ member message, e = .binding expression member message := by
  unfold Binder.compile at h
  cases hsteps : parseSteps rest.toList with
  | error error =>
    rw [hsteps] at h
    exact ⟨rest, error.message, (Except.error.inj h).symm⟩
  | ok steps =>
    rw [hsteps] at h
    cases steps with
    | nil => nomatch h
    | cons first steps =>
      cases hproblem : Binder.stepProblem? kind first with
      | none => simp [hproblem] at h
      | some problem =>
        simp only [hproblem, Except.error.injEq] at h
        exact ⟨Binder.stepName first, problem, h.symm⟩

/-! ## The cache after calls -/

/-- A cache after calls: it tells the truth, and it has one entry for each key that compiled. -/
structure After (cache : BinderCache) (calls : List Call) : Prop where
  truthful : cache.Truthful
  nodup : (Table.names cache.binders).Nodup
  mem_names : ∀ key, key ∈ Table.names cache.binders ↔ key ∈ compiledKeys calls

theorem after_nil : After {} [] where
  truthful := nofun
  nodup := List.nodup_nil
  mem_names := fun _ => Iff.rfl

theorem mem_compiledKeys_append {calls : List Call} {call : Call} {key : ValueKind × String} :
    key ∈ compiledKeys (calls ++ [call]) ↔
      key ∈ compiledKeys calls ∨ (call.compiled.isOk = true ∧ key = call.key) := by
  simp only [compiledKeys, List.filter_append, List.map_append, List.mem_append]
  cases hcompiled : call.compiled.isOk <;> simp [hcompiled]

namespace After

variable {cache : BinderCache} {calls : List Call}

/-- After one more call, its key has an entry if it compiles. -/
theorem call (h : After cache calls) (call : Call) : After (cache.call call).2 (calls ++ [call]) := by
  have htruthful := (h.truthful.getOrCompile call.kind call.expression call.rest).2
  cases hget : cache.get? call.kind call.rest with
  | some b =>
    -- The key compiled in an earlier call, so it is no new one.
    have hcache : (cache.call call).2 = cache := by simp only [BinderCache.call, getOrCompile, hget]
    have hkey : call.key ∈ compiledKeys calls :=
      (h.mem_names call.key).1 (List.mem_map_of_mem (Table.mem_of_get? hget))
    rw [hcache]
    refine ⟨h.truthful, h.nodup, fun key => ?_⟩
    rw [h.mem_names, mem_compiledKeys_append]
    exact ⟨Or.inl, fun hmem => hmem.elim id fun hcall => hcall.2 ▸ hkey⟩
  | none =>
    cases hcompiled : Binder.compile call.kind call.expression call.rest with
    | error e =>
      have hcache : (cache.call call).2 = cache := by simp only [BinderCache.call, getOrCompile, hget, hcompiled]
      rw [hcache]
      refine ⟨h.truthful, h.nodup, fun key => ?_⟩
      rw [h.mem_names, mem_compiledKeys_append, Call.compiled, hcompiled]
      exact ⟨Or.inl, fun hmem => hmem.elim id fun hcall => nomatch hcall.1⟩
    | ok b =>
      have hcache : (cache.call call).2 = { binders := Table.insert cache.binders call.key b } := by
        simp only [BinderCache.call, getOrCompile, hget, hcompiled, Call.key]
      refine ⟨htruthful, ?_, fun key => ?_⟩
      · rw [hcache]
        exact Table.nodup_names_insert h.nodup _ _
      · rw [hcache, Table.mem_names_insert, h.mem_names, mem_compiledKeys_append, Call.compiled, hcompiled]
        exact or_congr_right ⟨fun hkey => ⟨rfl, hkey⟩, And.right⟩

theorem answers (h : After cache calls) (more : List Call) :
    (cache.answers more).1 = more.map Call.compiled ∧ After (cache.answers more).2 (calls ++ more) := by
  induction more generalizing cache calls with
  | nil => exact ⟨rfl, by rwa [List.append_nil]⟩
  | cons call more ih =>
    have hanswer : (cache.call call).1 = call.compiled :=
      (h.truthful.getOrCompile call.kind call.expression call.rest).1
    obtain ⟨hanswers, hafter⟩ := ih (h.call call)
    rw [List.append_assoc, List.singleton_append] at hafter
    exact ⟨List.cons_eq_cons.2 ⟨hanswer, hanswers⟩, hafter⟩

theorem size_eq (h : After cache calls) : cache.size = (compiledKeys calls).toFinset.card := by
  have hkeys : (Table.names cache.binders).toFinset = (compiledKeys calls).toFinset := by
    ext key
    rw [List.mem_toFinset, List.mem_toFinset, h.mem_names]
  rw [← hkeys, List.toFinset_card_of_nodup h.nodup, Table.names, List.length_map]
  rfl

end After

/-- **The cache of compiled paths.** Whatever calls came before, a call is answered with what compiling gives for it: the same
compiled part, which does the same for every scope and target, or the same error, which names the path of this call. The cache
has as many entries as there are different kinds and texts among the calls that compile. -/
theorem answers_eq_compiled (calls : List Call) :
    (answers {} calls).1 = calls.map Call.compiled ∧
      (∀ call ∈ calls, ∀ e, call.compiled = .error e → ∃ member message, e = .binding call.expression member message) ∧
      (answers {} calls).2.size = (compiledKeys calls).toFinset.card := by
  obtain ⟨hanswers, hafter⟩ := after_nil.answers calls
  exact ⟨hanswers, fun _ _ _ he => expression_of_compile_error he, hafter.size_eq⟩

/-- Two paths with the same end share an entry, and an array has no member `y`. -/
example : (answers {} [⟨.object, "x.y", ".y"⟩, ⟨.object, "z.y", ".y"⟩, ⟨.array, "x.y", ".y"⟩]).2.size = 1 := by
  rfl

end PageTemplates.BinderCache
