import Skeletal.Universe.Basic

/-!
# Derived types

Arrays and parameterized views. Each derivation adds a type of its own, so deriving twice gives
two types with one canonical name.
-/

set_option autoImplicit false

namespace Skeletal.Universe

/-- Array type over the component at `component`, whose own superclass is at `root`. -/
def arrayOver (u : Universe) (root component : TypeId) : Descriptor :=
  let inner := u.get component
  { name := inner.name ++ "[]"
    canonical := inner.canonical ++ "[]"
    kind := .array
    package := inner.package
    modifiers := ["public", "abstract", "final"]
    superclass := some root
    component := some component }

/-- Value of a type under a binding of type variables; an unbound variable stands for the type
at `root`. -/
def substitute (u : Universe) (root : TypeId) (bindings : List (String × TypeId))
    (t : TypeId) : TypeId :=
  if (u.get t).kind = .variable then (bindings.lookup (u.get t).name).getD root else t

/-- Bindings of type parameters to arguments; of equal parameters the last one counts. -/
def bindings (parameters : List String) (arguments : List TypeId) : List (String × TypeId) :=
  (parameters.zip arguments).reverse

/-- Generic type seen with type arguments, to be placed at `place`: its methods speak of the
arguments and belong to the view, which is generic no more. -/
def viewOf (u : Universe) (root place : TypeId) (generic : TypeId) (arguments : List TypeId) :
    Descriptor :=
  let d := u.get generic
  let subst := u.substitute root (bindings d.typeParameters arguments)
  { d with
    typeParameters := []
    methods := d.methods.map fun m =>
      { m with
        parameters := m.parameters.map subst
        result := m.result.map subst
        declaring := some place } }

/-- Whether a generic type takes this number of arguments. -/
def takesArguments (u : Universe) (generic : TypeId) (arguments : List TypeId) : Bool :=
  let parameters := (u.get generic).typeParameters
  !parameters.isEmpty && arguments.length == parameters.length

end Skeletal.Universe

namespace Skeletal

/-- Array type of `dimensions` dimensions; the type itself for none. -/
def arrayOf (root component : TypeId) : Nat → Growing TypeId
  | 0 => pure component
  | dimensions + 1 => fun u =>
    let (inner, u) := arrayOf root component dimensions u
    addType (u.arrayOver root inner) u

/-- Generic type seen with type arguments; without matching arguments the type itself. -/
def parameterize (root generic : TypeId) (arguments : List TypeId) : Growing TypeId := fun u =>
  if u.takesArguments generic arguments then
    addType (u.viewOf root u.size generic arguments) u
  else (generic, u)

end Skeletal
