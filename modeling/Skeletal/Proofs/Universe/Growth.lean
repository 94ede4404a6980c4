import Mathlib.Data.List.Find
import Skeletal.Proofs.Universe.Winner

/-!
# Universes with one more type

Adding a type at the end of a closed universe leaves everything about the types before it as it
was: descriptors, signatures, superclass chains, walks along interfaces and contributions. The
added type sees its supertypes as they were.
-/

set_option autoImplicit false

namespace Skeletal.Universe

variable {u : Universe} {d : Descriptor} {t s i : TypeId} {sig : Signature}

theorem canonical_push_of_lt (d : Descriptor) (h : t < u.size) :
    (u.push d).canonical t = u.canonical t := by
  rw [canonical, get_push_of_lt u d h, canonical]

theorem signature_push {m : Member} (h : ∀ p ∈ m.parameters, p < u.size) :
    (u.push d).signature m = u.signature m := by
  have hnames : m.parameters.map (u.push d).canonical = m.parameters.map u.canonical :=
    List.map_congr_left fun p hp => canonical_push_of_lt d (h p hp)
  rw [signature, hnames, signature]

theorem signature_push_of_mem (hc : u.Closed) {m : Member} (h : m ∈ (u.get t).methods) :
    (u.push d).signature m = u.signature m :=
  signature_push (hc.parameter t m h)

theorem lt_size_of_extends (hc : u.Closed) (h : u.Extends t s) : s < u.size :=
  hc.supertype t s h.inherits

theorem chain_push (hc : u.Closed) (d : Descriptor) (bound : Nat) (ht : t < u.size) :
    (u.push d).chain bound t = u.chain bound t := by
  induction bound generalizing t with
  | zero => rfl
  | succ bound ih =>
      rw [chain_succ, chain_succ, get_push_of_lt u d ht]
      cases h : (u.get t).superclass with
      | none => rfl
      | some above =>
          simp only [Option.toList_some, List.flatMap_singleton, ih (lt_size_of_extends hc h)]

theorem lt_size_of_mem_ancestors (hc : u.Closed) (ht : t < u.size) (h : s ∈ u.ancestors t) :
    s < u.size := by
  rcases Relation.ReflTransGen.cases_tail (extends_of_mem_chain _ h) with rfl | ⟨k, -, hk⟩
  · exact ht
  · exact lt_size_of_extends hc hk

theorem lt_size_of_mem_supertypes (hc : u.Closed) (ht : t < u.size) (h : s ∈ u.supertypes t) :
    s < u.size := by
  rcases List.mem_append.1 h with h | h
  · exact lt_size_of_mem_ancestors hc ht h
  · rcases mem_breadthFirst h with h | ⟨a, ha⟩
    · obtain ⟨a, -, ha⟩ := List.mem_flatMap.1 h
      exact hc.supertype a s (inherits_of_mem_interfaces ha)
    · exact hc.supertype a s (inherits_of_mem_interfaces ha)

/-- Walks along interfaces from places of the universe stay as they were. -/
theorem breadthFirst_push (hc : u.Closed) {seen seen' queue : List TypeId}
    (hseen : ∀ a < u.size, a ∈ seen ↔ a ∈ seen') (hqueue : ∀ a ∈ queue, a < u.size) :
    breadthFirst (u.push d).ids (fun a => ((u.push d).get a).interfaces) seen queue =
      breadthFirst u.ids (fun a => (u.get a).interfaces) seen' queue := by
  refine breadthFirst_congr (fun a => a < u.size) ?_ ?_ ?_ hseen hqueue
  · intro a ha
    rw [get_push_of_lt u d ha]
  · intro a ha b hb
    rw [get_push_of_lt u d ha] at hb
    exact hc.supertype a b (inherits_of_mem_interfaces hb)
  · intro a ha
    simp only [ids, List.mem_range, size_push]
    omega

/-- Interfaces count the same for two types that are different from them; classes count the same
for all. -/
theorem publicMethodsFrom_congr (h : (u.get s).isInterface = true → (s = t ↔ s = i)) :
    u.publicMethodsFrom t s = u.publicMethodsFrom i s := by
  rw [publicMethodsFrom, publicMethodsFrom]
  cases hi : (u.get s).isInterface with
  | false => simp
  | true =>
      have hne : (s != t) = (s != i) := by
        rw [Bool.eq_iff_iff, bne_iff_ne, bne_iff_ne]
        exact not_congr (h hi)
      rw [hne]

/-- A type of the universe contributes to the added type what it contributes to any other. -/
theorem contribution?_push (hc : u.Closed) (hs : s < u.size)
    (h : (u.get s).isInterface = true → s ≠ t) :
    (u.push d).contribution? u.size sig s = u.contribution? t sig s := by
  -- neither `t` nor the added type is the interface `s`, so both see it without static methods
  have hfrom : (u.push d).publicMethodsFrom u.size s = u.publicMethodsFrom t s := by
    calc (u.push d).publicMethodsFrom u.size s = u.publicMethodsFrom u.size s := by
          rw [publicMethodsFrom, get_push_of_lt u d hs, publicMethodsFrom]
      _ = u.publicMethodsFrom t s :=
          publicMethodsFrom_congr fun hi => iff_of_false (Nat.ne_of_lt hs) (h hi)
  rw [contribution?, hfrom, contribution?]
  apply List.find?_congr
  intro m hm
  rw [signature_push_of_mem hc (mem_publicMethodsFrom_iff.1 hm).1]

/-- A closed universe stays closed if the added type refers to places of the new one. -/
theorem Closed.push (hc : u.Closed) (hsupertype : ∀ s ∈ d.directSupertypes, s < u.size + 1)
    (hparameter : ∀ m ∈ d.methods, ∀ p ∈ m.parameters, p < u.size + 1) : (u.push d).Closed := by
  apply closed_of_lt
  · intro t ht s hs
    rw [size_push] at ht ⊢
    rcases Nat.lt_succ_iff_lt_or_eq.1 ht with h | rfl
    · rw [get_push_of_lt u d h] at hs
      exact Nat.lt_succ_of_lt (hc.supertype t s hs)
    · rw [get_push_size] at hs
      exact hsupertype s hs
  · intro t ht m hm p hp
    rw [size_push] at ht ⊢
    rcases Nat.lt_succ_iff_lt_or_eq.1 ht with h | rfl
    · rw [get_push_of_lt u d h] at hm
      exact Nat.lt_succ_of_lt (hc.parameter t m hm p hp)
    · rw [get_push_size] at hm
      exact hparameter m hm p hp

end Skeletal.Universe
