import Skeletal.Synthesis.Eligibility

/-!
# Obligations

The abstract methods that a concrete subclass has to override, one for each signature. The
abstract ones among the public methods come first. Then the superclass chain is searched for
abstract methods that are not public, which the public enumeration does not show; a more derived
class settles such a method by implementing it.
-/

set_option autoImplicit false

namespace Skeletal.Universe

/-- Abstract methods of one level that are not public and whose signature is not settled. -/
def hiddenAt (u : Universe) (settled : List Signature) (level : TypeId) : List Member :=
  u.firstOfSignature <| (u.get level).methods.filter fun m =>
    m.isAbstract && !m.isPublic && !settled.contains (u.signature m)

/-- Signatures of the methods that a level implements. -/
def implementedAt (u : Universe) (level : TypeId) : List Signature :=
  ((u.get level).methods.filter fun m => !m.isAbstract).map u.signature

/-- Abstract methods of a superclass chain that are not public, from the most derived level on.
A signature is settled once it is collected or implemented. -/
def hiddenObligations (u : Universe) : List Signature → List TypeId → List Member
  | _, [] => []
  | settled, level :: above =>
    let found := u.hiddenAt settled level
    found ++ hiddenObligations u
      (settled ++ found.map u.signature ++ u.implementedAt level) above

/-- Abstract methods among the public ones. -/
def publicObligations (u : Universe) (t : TypeId) : List Member :=
  (u.publicMethods t).filter Member.isAbstract

/-- All obligations of a concrete subclass of a type. -/
def obligations (u : Universe) (t : TypeId) : List Member :=
  let exposed := u.publicObligations t
  exposed ++ u.hiddenObligations (exposed.map u.signature) (u.ancestors t)

/-- The obligations, where the ancestors allow a subclass at all. -/
def abstractMethods (u : Universe) (t : TypeId) : Except SynthesisError (List Member) := do
  u.checkMembersKnown t
  u.checkOpenChain t
  return u.obligations t

end Skeletal.Universe
