import Skeletal.Synthesis.Failure
import Skeletal.Universe.Lineage

/-!
# Eligibility

The gate in front of synthesis. It looks at the type alone and, of several reasons to refuse it,
gives the first in a fixed order.
-/

set_option autoImplicit false

namespace Skeletal

/-- Canonical name of the superclass of all enums. -/
def enumRootName : String := "java.lang.Enum"

/-- Conditions on which a type is refused, in order of precedence. -/
def Descriptor.refusals (d : Descriptor) : List (Bool × UnsupportedReason) :=
  [(d.isPrimitive, .primitive),
    (d.isArray, .array),
    (d.canonical == enumRootName, .enumRoot),
    (d.kind == .enumType, .enumType),
    (d.kind == .annotationType, .annotationType),
    (d.isFinal, .finalType),
    (d.isPrivate, .privateType),
    (d.isInner, .innerClass)]

/-- The first reason to refuse a type. -/
def Descriptor.unsupportedReason? (d : Descriptor) : Option UnsupportedReason :=
  (d.refusals.find? (·.1)).map (·.2)

/-- The gate: passes the types that can be implemented at all. -/
def Universe.checkImplementable (u : Universe) (t : TypeId) : Except SynthesisError Unit :=
  match (u.get t).unsupportedReason? with
  | some reason => .error (.unsupported (u.canonical t) reason)
  | none => .ok ()

/-- Passes a type whose superclass chain, itself included, holds no private class. -/
def Universe.checkOpenChain (u : Universe) (t : TypeId) : Except SynthesisError Unit :=
  match (u.ancestors t).find? fun level => (u.get level).isPrivate with
  | some level => .error (.privateAncestor (u.canonical t) (u.canonical level))
  | none => .ok ()

/-- Passes a type the members of whose supertypes are all known. -/
def Universe.checkMembersKnown (u : Universe) (t : TypeId) : Except SynthesisError Unit :=
  match (u.supertypes t).find? fun s => (u.get s).membersUnknown with
  | some s => .error (.unknownMembers (u.canonical t) (u.canonical s))
  | none => .ok ()

/-- Passes a type whose ancestors a subclass can extend and override. -/
def Universe.checkAncestors (u : Universe) (t : TypeId) : Except SynthesisError Unit := do
  u.checkOpenChain t
  u.checkMembersKnown t

end Skeletal
