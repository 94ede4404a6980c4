import Skeletal.Proofs.Load.Allotted

/-!
# Roles of places

In a universe of loaded types the walks meet targets of references and the types that were added for
direct supertypes of loaded types. Each of them is known by its role, which does not speak of places
(`Role`): a place has one role at most (`HasRole.role_eq`) and a role belongs to one place at most
(`HasRole.place_eq`).
-/

set_option autoImplicit false

namespace Skeletal.Load

open Layout (firstLoaded)

/-- What a place is there for: a target of references, or the direct supertype of a loaded type at
an index, for which it was added. -/
inductive Role where
  | target (target : Target)
  | supertype (owner : String) (index : Nat)

/-- The place has the role in the universe of the declared types. -/
def HasRole (known : List Declared) (t : TypeId) : Role → Prop
  | .target target => (layoutOf known).Covers target ∧ t = (layoutOf known).place target
  | .supertype owner index => (layoutOf known).size ≤ t ∧ ∃ d ∈ known, d.canonical = owner ∧
      ((realizeAll (linkAll known)).get
        ((layoutOf known).loadedPlace owner)).directSupertypes[index]? = some t

variable {layout : Layout} {target target' : Target} {known : List Declared} {t t' : TypeId}
  {role role' : Role}

/-- Different targets have different places. -/
theorem Layout.place_injective (h : layout.Covers target) (h' : layout.Covers target')
    (heq : layout.place target = layout.place target') : target = target' := by
  -- standard types come first, then loaded ones, then those outside
  have hstandard : ∀ {p c}, layout.Covers (.standard p) →
      layout.place (.standard p) < layout.place (.declared c) :=
    fun hp => Nat.lt_add_right _ hp
  have hdeclared : ∀ {c c'}, layout.Covers (.declared c) →
      layout.place (.declared c) < layout.place (.outside c') :=
    fun hc => Nat.lt_add_right _ (Nat.add_lt_add_left (List.idxOf_lt_length_iff.2 hc) _)
  have hfirst : ∀ {p c}, layout.Covers (.standard p) →
      layout.place (.standard p) < layout.place (.outside c) :=
    fun hp => Nat.lt_add_right _ (Nat.lt_add_right _ hp)
  cases target with
  | standard p =>
      cases target' with
      | standard p' => exact congrArg Target.standard heq
      | declared c' => exact absurd heq (hstandard h).ne
      | outside c' => exact absurd heq (hfirst h).ne
  | declared c =>
      cases target' with
      | standard p' => exact absurd heq (hstandard h').ne'
      | declared c' =>
          have hindex := Nat.add_left_cancel heq
          exact congrArg Target.declared ((List.idxOf_inj h).1 hindex)
      | outside c' => exact absurd heq (hdeclared h).ne
  | outside c =>
      cases target' with
      | standard p' => exact absurd heq (hfirst h').ne'
      | declared c' => exact absurd heq (hdeclared h').ne'
      | outside c' =>
          have hindex := Nat.add_left_cancel heq
          exact congrArg Target.outside ((List.idxOf_inj h).1 hindex)

/-- A role belongs to one place. -/
theorem HasRole.place_eq (h : HasRole known t role) (h' : HasRole known t' role) : t = t' := by
  cases role with
  | target target => exact h.2.trans h'.2.symm
  | supertype owner index =>
      obtain ⟨-, -, -, -, ht⟩ := h
      obtain ⟨-, -, -, -, ht'⟩ := h'
      exact Option.some.inj (ht.symm.trans ht')

/-- A target of references was not added. -/
theorem not_size_le_of_covers (h : (layoutOf known).Covers target) :
    ¬ (layoutOf known).size ≤ (layoutOf known).place target :=
  Nat.not_le.2 (Layout.place_lt_size h)

section

variable (hknown : WellDeclared known)

include hknown

/-- A place has one role. -/
theorem HasRole.role_eq (h : HasRole known t role) (h' : HasRole known t role') : role = role' := by
  cases role with
  | target target =>
      obtain ⟨hcovers, rfl⟩ := h
      cases role' with
      | target target' => exact congrArg Role.target (Layout.place_injective hcovers h'.1 h'.2)
      | supertype owner' index' => exact absurd h'.1 (not_size_le_of_covers hcovers)
  | supertype owner index =>
      obtain ⟨hsize, d, hd, rfl, ht⟩ := h
      cases role' with
      | target target' =>
          obtain ⟨hcovers, rfl⟩ := h'
          exact absurd hsize (not_size_le_of_covers hcovers)
      | supertype owner' index' =>
          obtain ⟨-, e, he, rfl, ht'⟩ := h'
          obtain rfl := eq_of_added hknown hd he hsize (List.mem_of_getElem? ht)
            (List.mem_of_getElem? ht')
          obtain ⟨low, high, -, -, hallots⟩ := allots_loadedPlace hknown hd
          rw [hallots.index_eq hsize ht ht']

/-- A place that has a role is one of the universe. -/
theorem HasRole.lt_size (h : HasRole known t role) : t < (realizeAll (linkAll known)).size := by
  cases role with
  | target target =>
      obtain ⟨hcovers, rfl⟩ := h
      exact hknown.founded.place_lt hcovers
  | supertype owner index =>
      obtain ⟨hsize, d, hd, rfl, ht⟩ := h
      obtain ⟨low, high, -, hhigh, hallots⟩ := allots_loadedPlace hknown hd
      exact (hallots.of_mem (List.mem_of_getElem? ht) hsize).2.trans_le hhigh

end

end Skeletal.Load
