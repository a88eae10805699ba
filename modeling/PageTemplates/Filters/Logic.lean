import PageTemplates.Filters.Arguments

/-!
# Logic filters

Null and truth, and an equality that looks through the kinds of values: texts are equal whether raw or not, and numbers whether
written as integer, float or text.
-/

namespace PageTemplates.Logic

/-- The argument in place of null. -/
def orDefault (v : Value) (args : List Value) : Value :=
  match v with
  | .null => args.head?.getD .null
  | v => v

/-- Equality across kinds. -/
def looselyEqual (a b : Value) : Bool :=
  a.equal b ||
    match a.text?, b.text? with
    | some s, some t => s == t
    | _, _ =>
      match a.number?, b.number? with
      | some m, some n => m.toFloat == n.toFloat
      | _, _ => false

/-- The argument in place of null. -/
def default : ValueFilter := fun _ v args => .ok (orDefault v args)

/-- Whether the value is null. -/
def isNull : ValueFilter := fun _ v _ => .ok (.bool v.isNull)

/-- Whether the value equals the argument. -/
def equals : ValueFilter := fun _ v args =>
  .ok (.bool (match args with
    | [] => false
    | other :: _ => looselyEqual v other))

/-- Whether the value is false. -/
def not : ValueFilter := fun _ v _ => .ok (.bool !v.isTruthy)

end PageTemplates.Logic
