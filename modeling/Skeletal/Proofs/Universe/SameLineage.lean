import Skeletal.Universe.Lineage

/-!
# Universes of one lineage

Names, superclasses and interfaces decide what the supertypes of a type are and which members have
one signature. Two universes that agree in them agree in both, whatever else they hold.
-/

set_option autoImplicit false

namespace Skeletal.Universe

variable {u v : Universe}

/-! ## What names and superclasses decide -/

theorem signature_congr (h : v.canonical = u.canonical) : v.signature = u.signature := by
  funext m
  rw [signature, signature, h]

theorem firstOfSignature_congr (h : v.canonical = u.canonical) :
    v.firstOfSignature = u.firstOfSignature := by
  funext members
  induction members with
  | nil => rfl
  | cons m rest ih => rw [firstOfSignature, firstOfSignature, ih, signature_congr h]

theorem chain_congr (h : ∀ t, (v.get t).superclass = (u.get t).superclass) (bound : Nat)
    (t : TypeId) : v.chain bound t = u.chain bound t := by
  induction bound generalizing t with
  | zero => rfl
  | succ bound ih =>
      rw [chain, chain, h]
      cases (u.get t).superclass with
      | none => rfl
      | some above => exact congrArg (t :: ·) (ih above)

/-! ## Universes of one lineage -/

/-- The universes hold types of the same canonical names, superclasses and interfaces. -/
structure SameLineage (u v : Universe) : Prop where
  size : v.size = u.size
  canonical : v.canonical = u.canonical
  superclass : ∀ t, (v.get t).superclass = (u.get t).superclass
  interfaces : ∀ t, (v.get t).interfaces = (u.get t).interfaces

namespace SameLineage

variable (h : u.SameLineage v)

include h

theorem signature : v.signature = u.signature := signature_congr h.canonical

theorem ancestors : v.ancestors = u.ancestors := by
  funext t
  rw [Universe.ancestors, Universe.ancestors, h.size, chain_congr h.superclass]

theorem supertypes : v.supertypes = u.supertypes := by
  have hinterfaces : (fun i => (v.get i).interfaces) = fun i => (u.get i).interfaces :=
    funext h.interfaces
  funext t
  simp only [Universe.supertypes, h.ancestors, Universe.ids, h.size, hinterfaces]

theorem firstOfSignature : v.firstOfSignature = u.firstOfSignature :=
  firstOfSignature_congr h.canonical

end SameLineage

end Skeletal.Universe
