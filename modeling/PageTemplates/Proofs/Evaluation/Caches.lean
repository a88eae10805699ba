import PageTemplates.Proofs.Evaluation.Filters

/-!
# Caches that tell the truth

The caches of a site tell the truth if every compiled path and every parsed text in them is what compiling and parsing give.
Main statement: what such caches answer is what compiling and parsing answer, and they go on telling the truth
(`Truthful.caching`).
-/

namespace PageTemplates

/-- A state whose caches tell the truth, with the usual compiler of paths. -/
structure Engine.Truthful (e : Engine) : Prop where
  binder : ∀ kind rest b, e.binders.get? kind rest = some b → ∀ expression, Binder.compile kind expression rest = .ok b
  text : ∀ kind text entry, e.cache.get? kind text = some entry → kind.parse text = .ok entry

/-- What a path compiles to does not depend on the text that errors name. -/
theorem compile_congr {kind : ValueKind} {expression expression' rest : String} {b : Binder}
    (h : Binder.compile kind expression rest = .ok b) : Binder.compile kind expression' rest = .ok b := by
  unfold Binder.compile at h ⊢
  cases hsteps : parseSteps rest.toList with
  | error error => simp [hsteps] at h
  | ok steps =>
    cases steps with
    | nil => simpa [hsteps] using h
    | cons first steps =>
      cases hproblem : Binder.stepProblem? kind first with
      | some problem => simp [hsteps, hproblem] at h
      | none => simpa [hsteps, hproblem] using h

/-- A cache all of whose entries are what compiling gives for their kind and text, whatever path errors would name. -/
def BinderCache.Truthful (cache : BinderCache) : Prop :=
  ∀ kind rest b, cache.get? kind rest = some b → ∀ expression, Binder.compile kind expression rest = .ok b

/-- A cache that tells the truth answers as compiling does and goes on telling the truth. -/
theorem BinderCache.Truthful.getOrCompile {cache : BinderCache} (h : cache.Truthful) (kind : ValueKind)
    (expression rest : String) :
    (cache.getOrCompile Binder.compile kind expression rest).1 = Binder.compile kind expression rest ∧
      (cache.getOrCompile Binder.compile kind expression rest).2.Truthful := by
  unfold BinderCache.getOrCompile
  cases hb : cache.get? kind rest with
  | some b => exact ⟨(h kind rest b hb expression).symm, h⟩
  | none =>
    cases hc : Binder.compile kind expression rest with
    | error error => exact ⟨rfl, h⟩
    | ok b =>
      refine ⟨rfl, ?_⟩
      intro kind' rest' b' hb' expression'
      simp only [BinderCache.get?, Table.get?_insert] at hb'
      split at hb'
      · rename_i hkey
        obtain ⟨rfl, rfl⟩ := Prod.mk.inj hkey
        obtain rfl := Option.some.inj hb'
        exact compile_congr hc
      · exact h kind' rest' b' hb' expression'

namespace Engine.Truthful

variable {e : Engine}

/-- A state tells the truth if it has the caches of one that does. -/
theorem of_caches {e' : Engine} (h : e.Truthful) (hbinders : e'.binders = e.binders) (hcache : e'.cache = e.cache) :
    e'.Truthful :=
  ⟨hbinders ▸ h.binder, hcache ▸ h.text⟩

theorem getOrCompile (h : e.Truthful) (kind : ValueKind) (expression rest : String) :
    (e.binders.getOrCompile Binder.compile kind expression rest).1 = Binder.compile kind expression rest ∧
      Engine.Truthful { e with binders := (e.binders.getOrCompile Binder.compile kind expression rest).2 } := by
  obtain ⟨hanswer, hbinders⟩ := BinderCache.Truthful.getOrCompile h.binder kind expression rest
  exact ⟨hanswer, hbinders, h.text⟩

theorem getOrBuild (h : e.Truthful) (kind : CachedText) (text : String) :
    (e.cache.getOrBuild kind text (kind.parse text)).1 = kind.parse text ∧
      Engine.Truthful { e with cache := (e.cache.getOrBuild kind text (kind.parse text)).2 } := by
  unfold TypedCache.getOrBuild
  cases hget : e.cache.get? kind text with
  | some entry => exact ⟨(h.text kind text entry hget).symm, h⟩
  | none =>
    cases hparse : kind.parse text with
    | error error => exact ⟨rfl, h⟩
    | ok value =>
      have hvalue : (e.cache.insert kind text value).1 = value := by
        unfold TypedCache.insert
        rw [hget]
      refine ⟨congrArg Except.ok hvalue, h.binder, ?_⟩
      intro kind' text' entry hentry
      by_cases hkey : kind' = kind ∧ text' = text
      · obtain ⟨rfl, rfl⟩ := hkey
        have hself := TypedCache.get?_insert_self e.cache kind' text' value
        rw [hvalue] at hself
        rw [hparse, Option.some.inj (hself.symm.trans hentry)]
      · have hother := TypedCache.get?_insert_of_ne e.cache value (Classical.not_and_iff_not_or_not.1 hkey)
        exact h.text kind' text' entry (hother.symm.trans hentry)

/-- **Caches.** Caches that tell the truth go on doing so. -/
theorem caching : Caching Binder.compile Engine.Truthful :=
  ⟨fun _ kind expression rest h => h.getOrCompile kind expression rest, fun _ kind text h => h.getOrBuild kind text⟩

/-- Beside that, a property goes on holding that does not look at the caches. -/
theorem caching_and {J : Engine → Prop} (hJ : ∀ e binders cache, J e → J { e with binders, cache }) :
    Caching Binder.compile fun e => e.Truthful ∧ J e := by
  constructor
  · intro e kind expression rest h
    obtain ⟨hanswer, hlater⟩ := h.1.getOrCompile kind expression rest
    exact ⟨hanswer, hlater, hJ e _ e.cache h.2⟩
  · intro e kind text h
    obtain ⟨hanswer, hlater⟩ := h.1.getOrBuild kind text
    exact ⟨hanswer, hlater, hJ e e.binders _ h.2⟩

end Engine.Truthful

end PageTemplates
