import PageTemplates.Error

/-!
# Service containers

A container holds at most one service of every type. Registering a service replaces the one that was there.
-/

namespace PageTemplates

/-- The services of a site: `κ` names the types of services, and `Service` says which type a name stands for. -/
structure Container (κ : Type) (Service : κ → Type) where
  services : List ((k : κ) × Service k) := []

namespace Container

variable {κ : Type} [DecidableEq κ] {Service : κ → Type}

/-- The first service of a type. -/
def find? (kind : κ) : List ((k : κ) × Service k) → Option (Service kind)
  | [] => none
  | ⟨k, service⟩ :: rest => if h : k = kind then some (h ▸ service) else find? kind rest

/-- The service of a type. -/
def resolve? (c : Container κ Service) (kind : κ) : Option (Service kind) :=
  find? kind c.services

/-- Whether there is a service of a type. -/
def contains (c : Container κ Service) (kind : κ) : Bool :=
  (c.resolve? kind).isSome

/-- The container with a service in the place of any other of its type. -/
def register (c : Container κ Service) (kind : κ) (service : Service kind) : Container κ Service where
  services := ⟨kind, service⟩ :: c.services.filter fun s => s.1 ≠ kind

/-- The service of a type that has to be there; the error tells the name of the type. -/
def resolveRequired (c : Container κ Service) (typeName : κ → String) (kind : κ) : Except TemplateError (Service kind) :=
  match c.resolve? kind with
  | some service => .ok service
  | none => .error (.invalidArgument ("service not registered: " ++ typeName kind))

/-- The number of services. -/
def size (c : Container κ Service) : Nat :=
  c.services.length

/-- A service that was registered is found. -/
@[simp]
theorem resolve?_register_self (c : Container κ Service) (kind : κ) (service : Service kind) :
    (c.register kind service).resolve? kind = some service := by
  simp [register, resolve?, find?]

end Container

end PageTemplates
