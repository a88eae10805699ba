import PageTemplates.Proofs.Evaluation.NestedCalls
import PageTemplates.Proofs.Rendering.AssignedValues

/-!
# What block filters give back

A partial is written in a scope of its own, so its caller keeps its scope. An inline template is written in the scope of its
caller, whose locals for item and place are put back when it ends, however it ends. That a local which was absent is absent again
rests on each local being there once, which no evaluation changes. Main statements: writing keeps local names distinct
(`Environment.DistinctLocals.access`), and block filters restore what they bind (`Environment.locals_restored`).
-/

namespace PageTemplates

/-! ## Local names -/

/-- A scope that has each local once. -/
def Scope.Distinct (s : Scope) : Prop :=
  (Table.names s.locals).Nodup

namespace Scope

variable {s : Scope}

theorem Distinct.setLocal (h : s.Distinct) (name : String) (value : Value) : (s.setLocal name value).Distinct :=
  Table.nodup_names_insert h name value

theorem Distinct.removeLocal (h : s.Distinct) (name : String) : (s.removeLocal name).Distinct :=
  Table.nodup_names_erase h name

theorem Distinct.restoreLocal (h : s.Distinct) (name : String) (saved : Option Value) : (s.restoreLocal name saved).Distinct := by
  cases saved with
  | none => exact h.removeLocal name
  | some value => exact h.setLocal name value

/-- A local that is restored is as it was saved, which may be absent. -/
theorem Distinct.get?_restoreLocal_self (h : s.Distinct) (name : String) (saved : Option Value) :
    Table.get? (s.restoreLocal name saved).locals name = saved := by
  cases saved with
  | none => exact Table.get?_erase_self h name
  | some value => exact (Table.get?_insert s.locals name value name).trans (if_pos rfl)

theorem get?_restoreLocal_of_ne (s : Scope) {name other : String} (hne : other ≠ name) (saved : Option Value) :
    Table.get? (s.restoreLocal name saved).locals other = Table.get? s.locals other := by
  cases saved with
  | none => exact Table.get?_erase_of_ne s.locals hne
  | some value => exact (Table.get?_insert s.locals name value other).trans (if_neg hne)

end Scope

/-- A session with each local once, if the one before has. -/
def Session.KeepsDistinct (s t : Session) : Prop :=
  s.scope.Distinct → t.scope.Distinct

instance : Session.ScopeOrder Session.KeepsDistinct where
  refl _ h := h
  trans h h' hs := h' (h hs)
  setLocal _ name value h := h.setLocal name value
  removeLocal _ name h := h.removeLocal name
  nested h hs := h hs
  restored _ hs := hs

namespace Environment

variable {env : Environment}

/-- The filters of an environment keep each local once, if what they ask does. -/
def DistinctLocals (env : Environment) : Prop :=
  ∀ name arity kind d, env.findFilterOfKind name arity kind = some d → d.body.Follows Session.KeepsDistinct

theorem DistinctLocals.preservesWriting (h : env.DistinctLocals) : env.PreservesWriting Session.KeepsDistinct where
  binder _ _ _ _ hs := hs
  cells _ _ hs := hs
  context name arity d hd _ := by
    obtain ⟨kind, hkind⟩ := exists_kind_of_findFilter hd
    exact h name arity kind d hkind
  parsing _ _ _ hs := hs
  block name arity kind d hd _ := h name arity kind d hd
  found _ _ _ hs := hs

/-- Templates and partials are written with each local there once. -/
theorem DistinctLocals.access (h : env.DistinctLocals) (fuel : Nat) : (env.access fuel).Follows Session.KeepsDistinct :=
  follows_access h.preservesWriting fuel

/-- Value filters see no scope, and the built-in filters set and remove locals by name. -/
theorem Standard.distinctLocals (h : env.Standard) : env.DistinctLocals := by
  have hparsing : Session.AllowsParsing Session.KeepsDistinct := fun _ _ _ hs => hs
  intro name arity kind d hd
  rcases h.filter name arity kind d hd with hd | hd | hd
  · exact FilterBody.follows_of_kind _ hd
  · exact Scoping.follows_filters hparsing d hd
  · exact Blocks.follows_filters hparsing d hd

end Environment

/-! ## Block filters -/

/-- A session in the scope of the one before. -/
def Session.SameScope (s t : Session) : Prop :=
  t.scope = s.scope

instance : Session.Order Session.SameScope where
  refl _ := rfl
  trans h h' := h'.trans h

/-- A partial leaves the scope of its caller, locals and all. -/
theorem Environment.sameScope_writePartial (env : Environment) (write : List Fragment → Emit Session Unit) (name : String)
    (locals : Table Value) : Emit.Follows Session.SameScope (env.writePartial write name locals) := by
  rw [writePartial_eq]
  refine Emit.Follows.scope.bind fun scope => ?_
  split
  · exact Emit.Follows.fail _
  · refine (Emit.Follows.ofLoad fun s => ?_).bind fun page s => ?_
    · exact rfl
    · exact rfl

/-- A session with the locals for item and place as in the one before, if that has each local once. -/
def Session.GivesBack (s t : Session) : Prop :=
  s.scope.Distinct → t.scope.Distinct ∧
    ∀ name ∈ ["it", "index"], Table.get? t.scope.locals name = Table.get? s.scope.locals name

instance : Session.Order Session.GivesBack where
  refl _ hs := ⟨hs, fun _ _ => rfl⟩
  trans := by
    intro s t u h h' hs
    obtain ⟨ht, hkept⟩ := h hs
    obtain ⟨hu, hkept'⟩ := h' ht
    exact ⟨hu, fun name hname => (hkept' name hname).trans (hkept name hname)⟩

/-- The scope that `select` leaves is that which the items leave, with the locals for item and place put back. -/
theorem Blocks.scope_writeSelected (access : BlockAccess) (fragments : List Fragment) (items : List Value) (s : Session) :
    ((writeSelected access fragments items).run s).state.scope =
      (((writeItems access fragments items).run
        { s with scope := (s.scope.removeLocal "it").removeLocal "index" }).state.scope.restoreLocal "it"
          (Table.get? s.scope.locals "it")).restoreLocal "index" (Table.get? s.scope.locals "index") := by
  rw [writeSelected, Emit.Stable.run_bind_ok (x := Emit.ofEval Eval.scope) (a := s.scope) rfl]
  rw [Emit.Stable.run_bind_ok (x := Emit.ofEval (Eval.modifyScope _)) (a := ()) rfl]
  exact congrArg Session.scope (run_attempt_modifyScope (writeItems access fragments items) _ _)

namespace Environment

variable {env : Environment}

theorem DistinctLocals.givesBack_writeSelected (h : env.DistinctLocals) (fuel : Nat) (fragments : List Fragment)
    (items : List Value) : Emit.Follows Session.GivesBack (Blocks.writeSelected (env.access fuel) fragments items) := by
  intro s hs
  have hitems : ((Blocks.writeItems (env.access fuel) fragments items).run
      { s with scope := (s.scope.removeLocal "it").removeLocal "index" }).state.scope.Distinct :=
    Blocks.follows_writeItems (h.access fuel) fragments items _ ((hs.removeLocal "it").removeLocal "index")
  have hit := hitems.restoreLocal "it" (Table.get? s.scope.locals "it")
  rw [Blocks.scope_writeSelected]
  refine ⟨hit.restoreLocal "index" _, fun name hname => ?_⟩
  rcases List.mem_pair.1 hname with rfl | rfl
  · rw [Scope.get?_restoreLocal_of_ne _ (by decide)]
    exact hitems.get?_restoreLocal_self "it" _
  · exact hit.get?_restoreLocal_self "index" _

/-- **Block filters.** However they end, `partial` and `selectPartial` leave the scope of their caller, and `select` the locals
for item and place, whatever the templates assign that they write. -/
theorem locals_restored (h : env.DistinctLocals) (fuel : Nat) (v : Value) (args : List Value) {s : Session}
    (hs : s.scope.Distinct) :
    ((Blocks.writePage (env.access fuel) v args).run s).state.scope = s.scope ∧
      ((Blocks.selectPartial (env.access fuel) v args).run s).state.scope = s.scope ∧
      ∀ name ∈ ["it", "index"], Table.get? ((Blocks.select (env.access fuel) v args).run s).state.scope.locals name =
        Table.get? s.scope.locals name := by
  have hpartial : ∀ name locals, Emit.Follows Session.SameScope ((env.access fuel).writePartial name locals) :=
    env.sameScope_writePartial (env.writeFragments fuel)
  have hparsing : Session.AllowsParsing Session.GivesBack := fun _ _ _ hs => ⟨hs, fun _ _ => rfl⟩
  have hpage := Blocks.follows_writePage hpartial v args
  have hpages := Blocks.follows_selectPartial hpartial v args
  refine ⟨hpage s, hpages s, ?_⟩
  exact (Blocks.follows_select hparsing (h.givesBack_writeSelected fuel) v args s hs).2

/-- A template for items that assigns to its item, writes another inline template, and fails in a partial that is missing. -/
def failingItems : String :=
  "\x7b 9 | assignTo('it') \x7d\x7b rows | select('<\x7b index \x7d>') \x7d\x7b it | assignTo('last') \x7d\x7b 'aside' | partial \x7d"

/-- An environment with the built-in filters and rows. -/
def rowsEnvironment : Environment where
  site := plainSite
  args := [("rows", .array [.int 1, .int 2])]

/-- A session in which there is an item already, and no place. -/
def itemSession : Session :=
  { emptyPageSession with scope := { emptyPageSession.scope with locals := [("it", .int 7)] } }

/-- The template fails at the first item, and the item is as before. -/
theorem locals_restored_failingItems :
    (rowsEnvironment.DistinctLocals ∧ itemSession.scope.Distinct) ∧
    let after := (Blocks.select (rowsEnvironment.access 30) (.array [.int 1, .int 2]) [.string failingItems]).run itemSession
    after.error? = some (.filter "partial" (.pageNotFound "aside")) ∧
      Table.get? after.state.scope.locals "it" = some (.int 7) ∧ Table.get? after.state.scope.locals "index" = none := by
  have henv : rowsEnvironment.DistinctLocals := (usual_plainSite _).standard.distinctLocals
  have hs : itemSession.scope.Distinct := List.nodup_singleton "it"
  obtain ⟨-, -, hselect⟩ := locals_restored henv 30 (.array [.int 1, .int 2]) [.string failingItems] hs
  refine ⟨⟨henv, hs⟩, ?_, hselect "it" (by simp), hselect "index" (by simp)⟩
  decide +kernel

end Environment

end PageTemplates
