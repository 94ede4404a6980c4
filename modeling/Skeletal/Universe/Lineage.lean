import Skeletal.Reach
import Skeletal.Universe.Basic

/-!
# Lineage

The supertypes of a type in the order in which declarations are looked up: the chain of
superclasses from the type to its root, then the interfaces reached from any of them, breadth
first. For one signature the first declaration in this order counts.
-/

set_option autoImplicit false

namespace Skeletal.Universe

/-- The first `bound` types of a superclass chain. -/
def chain (u : Universe) : Nat → TypeId → List TypeId
  | 0, _ => []
  | bound + 1, t =>
    t :: match (u.get t).superclass with
      | none => []
      | some above => chain u bound above

/-- A type and its superclass chain up to the root. A chain without repetition has at most one
place outside the universe, at its end, so this bound cuts off no such chain. -/
def ancestors (u : Universe) (t : TypeId) : List TypeId := u.chain (u.size + 1) t

/-- The superclass chain, then every interface reached from it, each once. -/
def supertypes (u : Universe) (t : TypeId) : List TypeId :=
  let classes := u.ancestors t
  classes ++
    breadthFirst u.ids (fun i => (u.get i).interfaces) classes
      (classes.flatMap fun c => (u.get c).interfaces)

/-- Members without those whose signature an earlier one has. -/
def firstOfSignature (u : Universe) : List Member → List Member
  | [] => []
  | m :: rest =>
    m :: (firstOfSignature u rest).filter fun other => u.signature other ≠ u.signature m

/-- Public methods that `s` contributes to `t`: static methods of an interface stay with it. -/
def publicMethodsFrom (u : Universe) (t s : TypeId) : List Member :=
  (u.get s).methods.filter fun m =>
    m.isPublic && !(m.isStatic && (u.get s).isInterface && s != t)

/-- Public methods of a type, declared or inherited, one for each signature. -/
def publicMethods (u : Universe) (t : TypeId) : List Member :=
  u.firstOfSignature ((u.supertypes t).flatMap (u.publicMethodsFrom t))

/-- Types that a type refers to: its supertypes, the types its members mention, its component
and its enclosing type. -/
def related (u : Universe) (t : TypeId) : List TypeId :=
  let d := u.get t
  u.supertypes t ++ d.members.flatMap Member.mentions ++ d.component.toList ++
    d.enclosing.toList

/-- All types that a type refers to directly or through others, itself first. -/
def relatedClosure (u : Universe) (t : TypeId) : List TypeId :=
  breadthFirst u.ids u.related [] [t]

/-- Distinct non-empty origins of the types that a type refers to, in order of meeting. -/
def sourceRoots (u : Universe) (t : TypeId) : List String :=
  (((u.relatedClosure t).filterMap fun s => (u.get s).origin).filter (· ≠ "")).eraseDups

end Skeletal.Universe
