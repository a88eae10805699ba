import Mathlib.Data.List.Induction
import PageTemplates.Proofs.Evaluation.Stable

/-!
# The bound on nesting

Evaluating and writing take a bound on how deep computations may nest, which has no counterpart in a template. A computation is
below another one if it does the same whenever it stays within its bound. What a family of computations yields is what they do
under every large enough bound, so a statement about what is yielded does not speak of the bound. Main statements: the parts of
a computation may be put below others (`Below.bind`, `Below.attempt_bind`), a growing family yields what one member does within
its bound (`Yields.of_growing`), and what is yielded by the parts is yielded by the whole (`Yields.bind`, `Yields.bind_error`).
-/

namespace PageTemplates

/-- The error that a computation ended with, if it did. -/
def Emission.error? {σ α : Type} (r : Emission σ α) : Option TemplateError :=
  match r.outcome with
  | .error (.error e) => some e
  | _ => none

theorem Emission.error?_eq_some {σ α : Type} {r : Emission σ α} {e : TemplateError} :
    r.error? = some e ↔ r.outcome = .error (.error e) := by
  unfold error?
  split
  · rename_i h
    simp [h]
  · rename_i h
    exact ⟨nofun, fun he => (h e he).elim⟩

namespace Emit

variable {σ τ α β : Type}

/-! ## Evaluations as computations that write -/

@[simp]
theorem ofEval_pure (a : α) : ofEval (pure a : Eval α) = pure a := rfl

@[simp]
theorem ofEval_bind (x : Eval α) (f : α → Eval β) : ofEval (x >>= f) = ofEval x >>= fun a => ofEval (f a) := by
  ext s : 2
  cases hx : x.run.run s with
  | mk r s' =>
    have hrun : (ofEval x).run s = { output := [], outcome := r, state := s' } := by
      change ({ output := [], outcome := (x.run.run s).1, state := (x.run.run s).2 } : Emission _ _) = _
      rw [hx]
    have hbind : (ofEval (x >>= f)).run s =
        { output := [], outcome := ((x >>= f).run.run s).1, state := ((x >>= f).run.run s).2 } := rfl
    cases r with
    | error fault =>
      rw [hbind, PageTemplates.Stable.run_bind_error hx, Stable.run_bind_error (congrArg Emission.outcome hrun), hrun]
    | ok a =>
      rw [hbind, PageTemplates.Stable.run_bind_ok hx, Stable.run_bind_ok (congrArg Emission.outcome hrun), hrun]
      rfl

@[simp]
theorem ofEval_fail (e : TemplateError) : ofEval (Eval.fail e : Eval α) = fail e := rfl

@[simp]
theorem ofEval_attempt (x : Eval α) : ofEval (Eval.attempt x) = attempt (ofEval x) := rfl

@[simp]
theorem ofEval_resume (r : Except Fault α) : ofEval (Eval.resume r) = resume r := by
  cases r <;> rfl

@[simp]
theorem ofEval_mapM (f : α → Eval β) (as : List α) : ofEval (as.mapM f) = as.mapM fun a => ofEval (f a) := by
  induction as with
  | nil => rfl
  | cons a as ih => simp only [List.mapM_cons, ofEval_bind, ofEval_pure, ih]

@[simp]
theorem ofEval_inFilter (name : String) (x : Eval α) : ofEval (Eval.inFilter name x) = inFilter name (ofEval x) := by
  ext s : 2
  unfold Eval.inFilter
  rw [ofEval_bind, ofEval_attempt, Stable.run_bind_ok (x := attempt (ofEval x)) rfl]
  simp only [attempt, inFilter]
  cases ((ofEval x).run s).outcome with
  | error fault => rfl
  | ok a => rfl

/-! ## Below -/

/-- The first computation does what the second one does, unless it runs out of the bound. -/
def Below (x y : Emit σ α) : Prop :=
  ∀ s, (x.run s).outcome = .error .exhausted ∨ x.run s = y.run s

namespace Below

theorem refl (x : Emit σ α) : Below x x :=
  fun _ => Or.inr rfl

/-- A computation that runs out of the bound is below every other. -/
theorem exhausted (y : Emit σ α) : Below (throwFault .exhausted) y :=
  fun _ => Or.inl rfl

/-- Below a computation, one that stays within the bound does the same. -/
theorem run_eq {x y : Emit σ α} (h : Below x y) {s : σ} (hs : (x.run s).outcome ≠ .error .exhausted) : x.run s = y.run s :=
  (h s).resolve_left hs

theorem bind {x y : Emit σ α} {f g : α → Emit σ β} (hx : Below x y) (hf : ∀ a, Below (f a) (g a)) :
    Below (x >>= f) (y >>= g) := by
  intro s
  rcases hx s with hs | hs
  · exact Or.inl (by rw [Stable.run_bind_error hs])
  · cases hr : (x.run s).outcome with
    | error fault =>
      right
      rw [Stable.run_bind_error hr, Stable.run_bind_error (hs ▸ hr), hs]
    | ok a =>
      rw [Stable.run_bind_ok hr, Stable.run_bind_ok (hs ▸ hr), ← hs]
      rcases hf a (x.run s).state with ha | ha
      · exact Or.inl ha
      · right
        rw [ha]

/-- Catching is no way around the bound if what follows a computation that ran out of it does so too. -/
theorem attempt_bind {x y : Emit σ α} {f g : Except Fault α → Emit σ β} (hx : Below x y) (hf : ∀ r, Below (f r) (g r))
    (hout : ∀ s, ((f (.error .exhausted)).run s).outcome = .error .exhausted) :
    Below (attempt x >>= f) (attempt y >>= g) := by
  intro s
  rcases hx s with hs | hs
  · left
    rw [Stable.run_bind_ok (x := attempt x) (congrArg Except.ok hs)]
    exact hout _
  · have heq : (attempt x).run s = (attempt y).run s := by simp only [attempt, hs]
    rw [Stable.run_bind_ok (x := attempt x) rfl, Stable.run_bind_ok (x := attempt y) rfl, ← hs, ← heq]
    rcases hf (x.run s).outcome ((attempt x).run s).state with ha | ha
    · exact Or.inl ha
    · right
      rw [ha]

/-- A computation that changes the state before and the outcome after another one, and does not hide that the bound was too
small, keeps the order. -/
theorem through {x y : Emit σ α} {u v : Emit τ β} (h : Below x y) (before : τ → σ) (after : τ → Emission σ α → Emission τ β)
    (hu : ∀ t, u.run t = after t (x.run (before t))) (hv : ∀ t, v.run t = after t (y.run (before t)))
    (hout : ∀ t r, r.outcome = .error .exhausted → (after t r).outcome = .error .exhausted) : Below u v := by
  intro t
  rw [hu, hv]
  rcases h (before t) with hs | hs
  · exact Or.inl (hout t _ hs)
  · exact Or.inr (by rw [hs])

theorem inFilter (name : String) {x y : Emit σ α} (h : Below x y) : Below (Emit.inFilter name x) (Emit.inFilter name y) := by
  refine h.through id (fun _ r => { r with outcome := r.outcome.mapError (Fault.inFilter name) }) (fun _ => rfl)
    (fun _ => rfl) fun _ r hr => ?_
  simp only [hr]
  rfl

theorem capture {x y : Emit σ α} (h : Below x y) : Below (Emit.capture x) (Emit.capture y) := by
  refine h.through id (fun _ r => { output := [], outcome := r.outcome.map fun a => (a, r.output), state := r.state })
    (fun _ => rfl) (fun _ => rfl) fun _ r hr => ?_
  simp only [hr]
  rfl

theorem withScope (scope : Scope) {x y : Emit Session α} (h : Below x y) :
    Below (Emit.withScope scope x) (Emit.withScope scope y) :=
  h.through (fun s => { s with scope }) (fun s r => { r with state := { r.state with scope := s.scope } }) (fun _ => rfl)
    (fun _ => rfl) fun _ _ hr => hr

theorem inScope (scope : Scope) {x y : Emit Session α} (h : Below x y) : Below (Emit.inScope scope x) (Emit.inScope scope y) :=
  h.through (fun engine => { engine, scope }) (fun _ r => { r with state := r.state.engine }) (fun _ => rfl) (fun _ => rfl)
    fun _ _ hr => hr

theorem mapM {f g : α → Emit σ β} (as : List α) (h : ∀ a, Below (f a) (g a)) : Below (as.mapM f) (as.mapM g) := by
  induction as with
  | nil => exact refl _
  | cons a as ih =>
    rw [List.mapM_cons, List.mapM_cons]
    exact (h a).bind fun b => ih.bind fun bs => refl _

theorem forM {f g : α → Emit σ PUnit} (as : List α) (h : ∀ a, Below (f a) (g a)) : Below (as.forM f) (as.forM g) := by
  induction as with
  | nil => exact refl _
  | cons a as ih => exact (h a).bind fun _ => ih

end Below

/-- Under a larger bound, each computation of a family does what it does under a smaller one. -/
def Growing (x : Nat → Emit σ α) : Prop :=
  ∀ n m, n ≤ m → Below (x n) (x m)

theorem Growing.bind {x : Nat → Emit σ α} {f : Nat → α → Emit σ β} (hx : Growing x) (hf : ∀ a, Growing fun n => f n a) :
    Growing fun n => x n >>= f n :=
  fun n m hnm => (hx n m hnm).bind fun a => hf a n m hnm

/-! ## What is yielded -/

/-- Under every bound a computation does the same or runs out of the bound, and it stays within every large enough bound. -/
structure Yields (x : Nat → Emit σ α) (s : σ) (r : Emission σ α) : Prop where
  finished : r.outcome ≠ .error .exhausted
  same : ∀ n, ((x n).run s).outcome = .error .exhausted ∨ (x n).run s = r
  eventually : ∃ bound, ∀ n, bound ≤ n → (x n).run s = r

/-- A computation yields something. -/
def Ends (x : Nat → Emit σ α) (s : σ) : Prop :=
  ∃ r, Yields x s r

namespace Yields

variable {x : Nat → Emit σ α} {s : σ} {r : Emission σ α}

theorem unique {r' : Emission σ α} (h : Yields x s r) (h' : Yields x s r') : r = r' := by
  obtain ⟨n, hn⟩ := h.eventually
  obtain ⟨m, hm⟩ := h'.eventually
  exact (hn (max n m) (Nat.le_max_left n m)).symm.trans (hm (max n m) (Nat.le_max_right n m))

/-- What a computation does whatever the bound is. -/
theorem of_run {x : Emit σ α} (hrun : x.run s = r) (hr : r.outcome ≠ .error .exhausted) : Yields (fun _ => x) s r :=
  ⟨hr, fun _ => Or.inr hrun, 0, fun _ _ => hrun⟩

/-- In a growing family, what one member does within its bound is yielded. -/
theorem of_growing (h : Growing x) {n : Nat} (hrun : (x n).run s = r) (hr : r.outcome ≠ .error .exhausted) : Yields x s r := by
  have hn : ((x n).run s).outcome ≠ .error .exhausted := hrun.symm ▸ hr
  refine ⟨hr, fun m => ?_, n, fun m hm => ((h n m hm).run_eq hn).symm.trans hrun⟩
  rcases Nat.le_total n m with hm | hm
  · exact Or.inr (((h n m hm).run_eq hn).symm.trans hrun)
  · exact (h m n hm s).imp_right fun heq => heq.trans hrun

/-- If the least bound is too small, counting from the next one makes no difference. -/
theorem succ (h0 : ((x 0).run s).outcome = .error .exhausted) : Yields (fun n => x (n + 1)) s r ↔ Yields x s r := by
  constructor
  · rintro ⟨hr, hsame, bound, hbound⟩
    refine ⟨hr, fun n => ?_, bound + 1, fun n hn => ?_⟩
    · cases n with
      | zero => exact Or.inl h0
      | succ n => exact hsame n
    · obtain ⟨n, rfl⟩ := Nat.exists_eq_add_of_le' hn
      exact hbound (n + bound) (by omega)
  · rintro ⟨hr, hsame, bound, hbound⟩
    exact ⟨hr, fun n => hsame (n + 1), bound, fun n hn => hbound (n + 1) (by omega)⟩

theorem bind {f : Nat → α → Emit σ β} {a : α} {r' : Emission σ β} (h : Yields x s r) (ha : r.outcome = .ok a)
    (h' : Yields (fun n => f n a) r.state r') :
    Yields (fun n => x n >>= f n) s { r' with output := r.output ++ r'.output } := by
  have hrun : ∀ n, (x n).run s = r → (x n >>= f n).run s =
      { (f n a).run r.state with output := r.output ++ ((f n a).run r.state).output } := by
    intro n hn
    rw [Stable.run_bind_ok (hn ▸ ha), hn]
  obtain ⟨-, hsame, n, hn⟩ := h
  obtain ⟨hr', hsame', m, hm⟩ := h'
  refine ⟨hr', fun k => ?_, max n m, fun k hk => ?_⟩
  · rcases hsame k with hk | hk
    · exact Or.inl (by rw [Stable.run_bind_error hk])
    · rw [hrun k hk]
      rcases hsame' k with hk' | hk'
      · exact Or.inl hk'
      · exact Or.inr (by rw [hk'])
  · rw [hrun k (hn k (by omega)), hm k (by omega)]

theorem bind_error {f : Nat → α → Emit σ β} {fault : Fault} (h : Yields x s r) (hf : r.outcome = .error fault) :
    Yields (fun n => x n >>= f n) s { output := r.output, outcome := .error fault, state := r.state } := by
  have hrun : ∀ n, (x n).run s = r →
      (x n >>= f n).run s = { output := r.output, outcome := .error fault, state := r.state } := by
    intro n hn
    rw [Stable.run_bind_error (hn ▸ hf), hn]
  obtain ⟨hr, hsame, n, hn⟩ := h
  refine ⟨fun hout => hr (hf.trans (congrArg Except.error (Except.error.inj hout))), fun k => ?_, n,
    fun k hk => hrun k (hn k hk)⟩
  rcases hsame k with hk | hk
  · exact Or.inl (by rw [Stable.run_bind_error hk])
  · exact Or.inr (hrun k hk)

/-- What is yielded after a computation whose outcome is caught, if running out of the bound is passed on. -/
theorem attempt_bind {f : Nat → Except Fault α → Emit σ β} {r' : Emission σ β} (h : Yields x s r)
    (h' : Yields (fun n => f n r.outcome) r.state r')
    (hout : ∀ n s, ((f n (.error .exhausted)).run s).outcome = .error .exhausted) :
    Yields (fun n => Emit.attempt (x n) >>= f n) s { r' with output := r.output ++ r'.output } := by
  have hrun : ∀ n, (Emit.attempt (x n) >>= f n).run s =
      { (f n ((x n).run s).outcome).run ((x n).run s).state with
        output := ((x n).run s).output ++ ((f n ((x n).run s).outcome).run ((x n).run s).state).output } :=
    fun n => Stable.run_bind_ok (x := Emit.attempt (x n)) rfl
  obtain ⟨-, hsame, n, hn⟩ := h
  obtain ⟨hr', hsame', m, hm⟩ := h'
  refine ⟨hr', fun k => ?_, max n m, fun k hk => ?_⟩
  · rw [hrun]
    rcases hsame k with hk | hk
    · left
      rw [hk]
      exact hout k _
    · rw [hk]
      rcases hsame' k with hk' | hk'
      · exact Or.inl hk'
      · exact Or.inr (by rw [hk'])
  · rw [hrun, hn k (by omega), hm k (by omega)]

/-- What comes of what is yielded when the computation is part of another one. -/
theorem through {y : Nat → Emit τ β} {t : τ} (h : Yields x s r) (after : Emission σ α → Emission τ β)
    (hy : ∀ n, (y n).run t = after ((x n).run s))
    (hout : ∀ r, (after r).outcome = .error .exhausted ↔ r.outcome = .error .exhausted) : Yields y t (after r) := by
  obtain ⟨hr, hsame, n, hn⟩ := h
  refine ⟨fun h => hr ((hout r).1 h), fun k => ?_, n, fun k hk => by rw [hy, hn k hk]⟩
  rw [hy]
  rcases hsame k with hk | hk
  · exact Or.inl ((hout _).2 hk)
  · exact Or.inr (by rw [hk])

theorem capture (h : Yields x s r) :
    Yields (fun n => Emit.capture (x n)) s
      { output := [], outcome := r.outcome.map fun a => (a, r.output), state := r.state } := by
  refine h.through (fun r => { output := [], outcome := r.outcome.map fun a => (a, r.output), state := r.state })
    (fun _ => rfl) fun r => ?_
  cases r.outcome with
  | ok a => simp [Except.map]
  | error fault => simp [Except.map]

theorem inFilter (name : String) (h : Yields x s r) :
    Yields (fun n => Emit.inFilter name (x n)) s { r with outcome := r.outcome.mapError (Fault.inFilter name) } := by
  refine h.through (fun r => { r with outcome := r.outcome.mapError (Fault.inFilter name) }) (fun _ => rfl) fun r => ?_
  cases r.outcome with
  | ok a => exact ⟨nofun, nofun⟩
  | error fault =>
    cases fault with
    | error e => exact ⟨nofun, nofun⟩
    | exhausted => exact ⟨fun _ => rfl, fun _ => rfl⟩

end Yields

section

variable {x : Nat → Emit Session α} {r : Emission Session α}

theorem Yields.withScope {scope : Scope} {s : Session} (h : Yields x { s with scope } r) :
    Yields (fun n => Emit.withScope scope (x n)) s { r with state := { r.state with scope := s.scope } } :=
  h.through (fun r => { r with state := { r.state with scope := s.scope } }) (fun _ => rfl) fun _ => Iff.rfl

theorem Yields.inScope {scope : Scope} {engine : Engine} (h : Yields x { engine, scope } r) :
    Yields (fun n => Emit.inScope scope (x n)) engine { r with state := r.state.engine } :=
  h.through (fun r => { r with state := r.state.engine }) (fun _ => rfl) fun _ => Iff.rfl

end

namespace Ends

variable {x : Nat → Emit σ α} {s : σ}

theorem of_run {x : Emit σ α} (h : (x.run s).outcome ≠ .error .exhausted) : Ends (fun _ => x) s :=
  ⟨_, Yields.of_run rfl h⟩

theorem pure (a : α) (s : σ) : Ends (fun _ => (Pure.pure a : Emit σ α)) s :=
  ⟨{ output := [], outcome := .ok a, state := s }, Yields.of_run rfl (by simp)⟩

theorem fail (e : TemplateError) (s : σ) : Ends (fun _ => (Emit.fail e : Emit σ α)) s :=
  ⟨{ output := [], outcome := .error (.error e), state := s }, Yields.of_run rfl (by simp)⟩

theorem capture (h : Ends x s) : Ends (fun n => Emit.capture (x n)) s :=
  ⟨_, h.choose_spec.capture⟩

theorem inFilter (name : String) (h : Ends x s) : Ends (fun n => Emit.inFilter name (x n)) s :=
  ⟨_, h.choose_spec.inFilter name⟩

theorem bind {f : Nat → α → Emit σ β} (h : Ends x s)
    (hf : ∀ r a, Yields x s r → r.outcome = .ok a → Ends (fun n => f n a) r.state) : Ends (fun n => x n >>= f n) s := by
  obtain ⟨r, hr⟩ := h
  cases ha : r.outcome with
  | error fault => exact ⟨_, hr.bind_error ha⟩
  | ok a =>
    obtain ⟨r', hr'⟩ := hf r a hr ha
    exact ⟨_, hr.bind ha hr'⟩

/-- What comes after a computation that asks for no bound ends. -/
theorem after_run {x : Emit σ α} {f : Nat → α → Emit σ β} {r : Emission σ α} {a : α} (hr : x.run s = r) (ha : r.outcome = .ok a)
    (h : Ends (fun n => f n a) r.state) : Ends (fun n => x >>= f n) s := by
  obtain ⟨r', hr'⟩ := h
  exact ⟨_, (Yields.of_run hr (by simp [ha])).bind ha hr'⟩

/-- Nothing comes after a computation that failed with an error. -/
theorem after_error {x : Emit σ α} {f : Nat → α → Emit σ β} {r : Emission σ α} {e : TemplateError} (hr : x.run s = r)
    (he : r.outcome = .error (.error e)) : Ends (fun n => x >>= f n) s :=
  ⟨_, (Yields.of_run hr (by simp [he])).bind_error he⟩

theorem attempt_bind {f : Nat → Except Fault α → Emit σ β} (h : Ends x s)
    (hf : ∀ r, Yields x s r → Ends (fun n => f n r.outcome) r.state)
    (hout : ∀ n s, ((f n (.error .exhausted)).run s).outcome = .error .exhausted) :
    Ends (fun n => attempt (x n) >>= f n) s := by
  obtain ⟨r, hr⟩ := h
  obtain ⟨r', hr'⟩ := hf r hr
  exact ⟨_, hr.attempt_bind hr' hout⟩

theorem succ (h0 : ((x 0).run s).outcome = .error .exhausted) : Ends (fun n => x (n + 1)) s ↔ Ends x s :=
  exists_congr fun _ => Yields.succ h0

/-- A loop ends if what is done for each member does, once the members before it are done. -/
theorem forM {τ : Type} {f : Nat → τ → Emit σ Unit} {members : List τ}
    (h : ∀ before a after r, members = before ++ a :: after → Yields (fun n => before.forM (f n)) s r → r.outcome = .ok () →
      Ends (fun n => f n a) r.state) : Ends (fun n => members.forM (f n)) s := by
  induction members using List.reverseRecOn with
  | nil => exact pure _ s
  | append_singleton members a ih =>
    have hbefore : Ends (fun n => members.forM (f n)) s := ih fun before a' after r heq =>
      h before a' (after ++ [a]) r (by simp [heq])
    simp only [List.forM_eq_forM, List.forM_append] at hbefore ⊢
    refine hbefore.bind fun r _ hr hok => ?_
    exact (h members a [] r rfl hr hok).bind fun r' _ _ _ => pure _ _

end Ends

section

variable {x : Nat → Emit Session α}

theorem Ends.withScope {scope : Scope} {s : Session} (h : Ends x { s with scope }) :
    Ends (fun n => Emit.withScope scope (x n)) s :=
  ⟨_, h.choose_spec.withScope⟩

theorem Ends.inScope {scope : Scope} {engine : Engine} (h : Ends x { engine, scope }) :
    Ends (fun n => Emit.inScope scope (x n)) engine :=
  ⟨_, h.choose_spec.inScope⟩

end

/-! ## The same results -/

/-- Two growing families yield the same from a state. -/
structure SameFrom (s : σ) (x y : Nat → Emit σ α) : Prop where
  growing_left : Growing x
  growing_right : Growing y
  yields_iff : ∀ r, Yields x s r ↔ Yields y s r

namespace SameFrom

variable {s : σ} {x y z : Nat → Emit σ α}

theorem refl (hx : Growing x) : SameFrom s x x :=
  ⟨hx, hx, fun _ => Iff.rfl⟩

theorem symm (h : SameFrom s x y) : SameFrom s y x :=
  ⟨h.growing_right, h.growing_left, fun r => (h.yields_iff r).symm⟩

theorem trans (h : SameFrom s x y) (h' : SameFrom s y z) : SameFrom s x z :=
  ⟨h.growing_left, h'.growing_right, fun r => (h.yields_iff r).trans (h'.yields_iff r)⟩

/-- A few more in the bound make no difference to a growing family. -/
theorem shift (hx : Growing x) (k : Nat) : SameFrom s (fun n => x (n + k)) x := by
  have hshift : Growing fun n => x (n + k) := fun n m hnm => hx (n + k) (m + k) (by omega)
  refine ⟨hshift, hx, fun r => ⟨fun hr => ?_, fun hr => ?_⟩⟩
  · obtain ⟨n, hn⟩ := hr.eventually
    exact Yields.of_growing hx (hn n (Nat.le_refl n)) hr.finished
  · obtain ⟨n, hn⟩ := hr.eventually
    exact Yields.of_growing hshift (hn (n + k) (by omega)) hr.finished

/-- What a whole yields is found in one member of it, whose parts then do what the parts yield. -/
theorem yields_bind {f g : Nat → α → Emit σ β} (h : SameFrom s x y) (hf : ∀ a, Growing fun n => f n a)
    (hfg : ∀ r a, Yields x s r → r.outcome = .ok a → SameFrom r.state (fun n => f n a) fun n => g n a) {r : Emission σ β}
    (hr : Yields (fun n => x n >>= f n) s r) : Yields (fun n => y n >>= g n) s r := by
  obtain ⟨n, hn⟩ := hr.eventually
  have hrun := hn n (Nat.le_refl n)
  have hx : Yields x s ((x n).run s) := by
    refine Yields.of_growing h.growing_left rfl fun hout => hr.finished ?_
    rw [← hrun, Stable.run_bind_error hout]
  have hy := (h.yields_iff _).1 hx
  cases ha : ((x n).run s).outcome with
  | error fault =>
    rw [Stable.run_bind_error ha] at hrun
    exact hrun ▸ hy.bind_error ha
  | ok a =>
    rw [Stable.run_bind_ok ha] at hrun
    have hrest : Yields (fun n => f n a) ((x n).run s).state ((f n a).run ((x n).run s).state) := by
      refine Yields.of_growing (hf a) rfl fun hout => hr.finished ?_
      rw [← hrun]
      exact hout
    exact hrun ▸ hy.bind ha (((hfg _ a hx ha).yields_iff _).1 hrest)

/-- What a whole yields is decided by what its parts yield. -/
theorem bind {f g : Nat → α → Emit σ β} (h : SameFrom s x y) (hf : ∀ a, Growing fun n => f n a)
    (hg : ∀ a, Growing fun n => g n a)
    (hfg : ∀ r a, Yields x s r → r.outcome = .ok a → SameFrom r.state (fun n => f n a) fun n => g n a) :
    SameFrom s (fun n => x n >>= f n) fun n => y n >>= g n :=
  ⟨h.growing_left.bind hf, h.growing_right.bind hg, fun _ => ⟨h.yields_bind hf hfg,
    h.symm.yields_bind hg fun r a hr ha => (hfg r a ((h.yields_iff r).2 hr) ha).symm⟩⟩

/-- A whole after one first part is decided by what follows. -/
theorem bind_right (hx : Growing x) {f g : Nat → α → Emit σ β} (hf : ∀ a, Growing fun n => f n a)
    (hg : ∀ a, Growing fun n => g n a)
    (hfg : ∀ r a, Yields x s r → r.outcome = .ok a → SameFrom r.state (fun n => f n a) fun n => g n a) :
    SameFrom s (fun n => x n >>= f n) fun n => x n >>= g n :=
  (refl hx).bind hf hg hfg

end SameFrom

end Emit

end PageTemplates
