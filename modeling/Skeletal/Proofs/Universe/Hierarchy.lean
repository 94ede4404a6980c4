import Mathlib.Data.Finset.Card
import Mathlib.Data.Finset.Range
import Mathlib.Logic.Relation
import Skeletal.Proofs.Reach.Layers
import Skeletal.Universe.Lineage
import Skeletal.Universe.Standard

/-!
# Hierarchies

Inheritance as a relation on places, and the lineage of a type read off it. In a universe where no
type inherits from itself the ancestors are exactly the types reached through superclass
references, from the most derived on (`mem_ancestors_iff`, `pairwise_ancestors`), and the
supertypes are the first occurrences in a listing that needs no queue: the superclass chain, the
interfaces that its types list, the interfaces that those list, and so on
(`supertypes_eq_firstMet`). Which of two types is met first is decided by this listing.
-/

set_option autoImplicit false

namespace Skeletal

namespace Universe

/-- `s` is the superclass of `t` or one of the interfaces that it lists. -/
def Inherits (u : Universe) (t s : TypeId) : Prop := s ∈ (u.get t).directSupertypes

/-- `s` is the superclass of `t`. -/
def Extends (u : Universe) (t s : TypeId) : Prop := (u.get t).superclass = some s

/-- `t` reaches `s` through one or more superclass or interface references. -/
def ProperSubtype (u : Universe) : TypeId → TypeId → Prop := Relation.TransGen u.Inherits

/-- No type inherits from itself. -/
def Acyclic (u : Universe) : Prop := ∀ t, ¬ u.ProperSubtype t t

/-- Every method is declared by the type that lists it. -/
def Linked (u : Universe) : Prop := ∀ t, ∀ m ∈ (u.get t).methods, m.declaring = some t

/-- References to supertypes and to parameter types lead to places of the universe. -/
structure Closed (u : Universe) : Prop where
  supertype : ∀ t s, u.Inherits t s → s < u.size
  parameter : ∀ t, ∀ m ∈ (u.get t).methods, ∀ p ∈ m.parameters, p < u.size

variable {u : Universe} {t s l k : TypeId}

theorem get_of_size_le (h : u.size ≤ t) : u.get t = Descriptor.blank := by
  simp only [get, size] at h ⊢
  exact Array.getD_eq_getD_getElem? .. ▸ by simp [h]

/-- What holds at the places of a universe and of the blank type holds of every type. -/
theorem forall_get {P : Descriptor → Prop} (h : ∀ t < u.size, P (u.get t))
    (hblank : P Descriptor.blank) (t : TypeId) : P (u.get t) := by
  by_cases ht : t < u.size
  · exact h t ht
  · rwa [get_of_size_le (Nat.le_of_not_lt ht)]

theorem lt_size_of_inherits (h : u.Inherits t s) : t < u.size := by
  by_contra hle
  rw [Inherits, get_of_size_le (Nat.le_of_not_lt hle)] at h
  exact List.not_mem_nil h

theorem Extends.inherits (h : u.Extends t s) : u.Inherits t s := by
  rw [Extends] at h
  simp [Inherits, Descriptor.directSupertypes, h]

theorem inherits_of_mem_interfaces (h : s ∈ (u.get t).interfaces) : u.Inherits t s :=
  List.mem_append_right _ h

theorem properSubtype_of_extends (h : Relation.TransGen u.Extends t s) : u.ProperSubtype t s :=
  Relation.TransGen.mono (r := u.Extends) (fun _ _ => Extends.inherits) t s h

/-! ## Ranks -/

/-- A rank that drops along inheritance rules out cycles. -/
theorem acyclic_of_rank (rank : TypeId → Nat) (h : ∀ t s, u.Inherits t s → rank s < rank t) :
    u.Acyclic := by
  have hdrop : ∀ t s, u.ProperSubtype t s → rank s < rank t := by
    intro t s hts
    induction hts with
    | single hstep => exact h _ _ hstep
    | tail _ hstep ih => exact (h _ _ hstep).trans ih
  intro t ht
  exact Nat.lt_irrefl _ (hdrop t t ht)

/-- A universe whose supertypes stand before their subtypes is acyclic. -/
theorem acyclic_of_lt (h : ∀ t < u.size, ∀ s ∈ (u.get t).directSupertypes, s < t) : u.Acyclic :=
  acyclic_of_rank id fun t s hts => h t (lt_size_of_inherits hts) s hts

/-- Whether every method is declared by its type shows at the places of the universe. -/
theorem linked_of_lt (h : ∀ t < u.size, ∀ m ∈ (u.get t).methods, m.declaring = some t) :
    u.Linked := by
  intro t m hm
  by_cases ht : t < u.size
  · exact h t ht m hm
  · rw [get_of_size_le (Nat.le_of_not_lt ht)] at hm
    exact absurd hm List.not_mem_nil

/-- Whether references stay inside shows at the places of the universe. -/
theorem closed_of_lt (hsupertype : ∀ t < u.size, ∀ s ∈ (u.get t).directSupertypes, s < u.size)
    (hparameter : ∀ t < u.size, ∀ m ∈ (u.get t).methods, ∀ p ∈ m.parameters, p < u.size) :
    u.Closed where
  supertype t s hts := hsupertype t (lt_size_of_inherits hts) s hts
  parameter := forall_get (P := fun d => ∀ m ∈ d.methods, ∀ p ∈ m.parameters, p < u.size)
    hparameter fun _ hm => absurd hm List.not_mem_nil

/-- Acyclic universes have a rank that drops along inheritance: the number of places that a type
reaches, itself included. -/
theorem Acyclic.exists_rank (hu : u.Acyclic) :
    ∃ rank : TypeId → Nat, (∀ t, rank t ≤ u.size) ∧ ∀ t s, u.Inherits t s → rank s < rank t := by
  classical
  let reached (t : TypeId) : Finset TypeId :=
    (Finset.range u.size).filter fun s => Relation.ReflTransGen u.Inherits t s
  refine ⟨fun t => (reached t).card, ?_, ?_⟩
  · intro t
    calc (reached t).card ≤ (Finset.range u.size).card := Finset.card_filter_le _ _
      _ = u.size := Finset.card_range _
  · intro t s hts
    apply Finset.card_lt_card
    have hsub : reached s ⊆ reached t := by
      intro x hx
      obtain ⟨hlt, hsx⟩ := Finset.mem_filter.1 hx
      exact Finset.mem_filter.2 ⟨hlt, Relation.ReflTransGen.head hts hsx⟩
    -- `t` reaches itself, and `s` does not reach back to it
    refine (Finset.ssubset_iff_of_subset hsub).2 ⟨t, ?_, ?_⟩
    · exact Finset.mem_filter.2
        ⟨Finset.mem_range.2 (lt_size_of_inherits hts), Relation.ReflTransGen.refl⟩
    · intro hmem
      exact hu t (Relation.TransGen.head' hts (Finset.mem_filter.1 hmem).2)

/-! ## Ancestors -/

theorem chain_succ (bound : Nat) (t : TypeId) :
    u.chain (bound + 1) t = t :: ((u.get t).superclass.toList.flatMap (u.chain bound)) := by
  cases h : (u.get t).superclass <;> simp [chain, h]

theorem extends_of_mem_chain (bound : Nat) (h : l ∈ u.chain bound t) :
    Relation.ReflTransGen u.Extends t l := by
  induction bound generalizing t with
  | zero => exact absurd h List.not_mem_nil
  | succ bound ih =>
      rw [chain_succ, List.mem_cons, List.mem_flatMap] at h
      rcases h with rfl | ⟨above, habove, hl⟩
      · exact Relation.ReflTransGen.refl
      · exact Relation.ReflTransGen.head (Option.mem_toList.1 habove) (ih hl)

theorem pairwise_chain (bound : Nat) (t : TypeId) :
    (u.chain bound t).Pairwise (Relation.TransGen u.Extends) := by
  induction bound generalizing t with
  | zero => exact List.Pairwise.nil
  | succ bound ih =>
      rw [chain_succ]
      cases h : (u.get t).superclass with
      | none => exact List.pairwise_singleton _ _
      | some above =>
          simp only [Option.toList_some, List.flatMap_singleton]
          refine List.Pairwise.cons ?_ (ih above)
          intro x hx
          exact Relation.TransGen.head' h (extends_of_mem_chain bound hx)

/-- A chain that is longer than a rank can drop is cut off nowhere. -/
theorem mem_chain_of_extends {rank : TypeId → Nat}
    (hrank : ∀ t s, u.Inherits t s → rank s < rank t) (bound : Nat) (hlt : rank t < bound)
    (h : Relation.ReflTransGen u.Extends t l) : l ∈ u.chain bound t := by
  induction bound generalizing t with
  | zero => exact absurd hlt (Nat.not_lt_zero _)
  | succ bound ih =>
      rw [chain_succ, List.mem_cons, List.mem_flatMap]
      rcases Relation.ReflTransGen.cases_head h with rfl | ⟨above, habove, hl⟩
      · exact Or.inl rfl
      · have hdrop := hrank t above habove.inherits
        exact Or.inr ⟨above, Option.mem_toList.2 habove, ih (by omega) hl⟩

/-- The ancestors are the types reached through superclass references. -/
theorem mem_ancestors_iff (hu : u.Acyclic) :
    l ∈ u.ancestors t ↔ Relation.ReflTransGen u.Extends t l := by
  obtain ⟨rank, hle, hdrop⟩ := hu.exists_rank
  exact ⟨extends_of_mem_chain _,
    mem_chain_of_extends hdrop _ (Nat.lt_succ_of_le (hle t))⟩

/-- Of two ancestors the more derived one stands first. -/
theorem pairwise_ancestors (u : Universe) (t : TypeId) :
    (u.ancestors t).Pairwise (Relation.TransGen u.Extends) :=
  pairwise_chain _ t

theorem nodup_ancestors (hu : u.Acyclic) (t : TypeId) : (u.ancestors t).Nodup := by
  refine (pairwise_ancestors u t).imp ?_
  intro a b hab heq
  subst heq
  exact hu _ (properSubtype_of_extends hab)

/-- What stands before an ancestor is what the chain has below it. -/
theorem mem_before_iff_extends (hu : u.Acyclic) {before after : List TypeId}
    (h : u.ancestors t = before ++ l :: after) :
    k ∈ before ↔ k ∈ u.ancestors t ∧ Relation.TransGen u.Extends k l := by
  have hpair := pairwise_ancestors u t
  rw [h, List.pairwise_append] at hpair
  obtain ⟨-, hrest, hacross⟩ := hpair
  constructor
  · intro hk
    exact ⟨h ▸ List.mem_append_left _ hk, hacross k hk l List.mem_cons_self⟩
  · rintro ⟨hk, hkl⟩
    rw [h, List.mem_append, List.mem_cons] at hk
    rcases hk with hk | rfl | hk
    · exact hk
    · exact absurd (properSubtype_of_extends hkl) (hu k)
    · have hlk := List.rel_of_pairwise_cons hrest hk
      exact absurd (properSubtype_of_extends (hkl.trans hlk)) (hu k)

/-! ## Supertypes -/

/-- Types listed from `t` on: the superclass chain, the interfaces that its types list, the
interfaces that those list, and so on, each as often as it is listed. -/
def listing (u : Universe) (t : TypeId) : List TypeId :=
  layers (fun s => (u.get s).interfaces) (u.size + 2) (u.ancestors t)

/-- `a` is listed before `b` is listed for the first time. -/
def MetBefore (u : Universe) (t a b : TypeId) : Prop :=
  (u.listing t).idxOf a < (u.listing t).idxOf b

instance (u : Universe) (t a b : TypeId) : Decidable (u.MetBefore t a b) :=
  inferInstanceAs (Decidable (_ < _))

theorem interfaces_of_not_mem_ids (h : s ∉ u.ids) : (u.get s).interfaces = [] := by
  rw [ids, List.mem_range, Nat.not_lt] at h
  rw [get_of_size_le h]
  rfl

/-- Behind the universe stands a type without supertypes. -/
theorem supertypes_of_size_le (h : u.size ≤ t) : u.supertypes t = [t] := by
  have hget := get_of_size_le h
  have hancestors : u.ancestors t = [t] := by
    rw [ancestors, chain_succ, hget]
    rfl
  have hnone : (u.get t).interfaces = [] := by
    rw [hget]
    rfl
  rw [supertypes, hancestors, List.flatMap_singleton, hnone, breadthFirst, List.append_nil]

/-- The supertypes are the first occurrences in the listing. -/
theorem supertypes_eq_firstMet (hu : u.Acyclic) (t : TypeId) :
    u.supertypes t = firstMet [] (u.listing t) := by
  obtain ⟨rank, hle, hdrop⟩ := hu.exists_rank
  -- the classes count as seen when the walk starts, and their interfaces are all in its queue
  have hwalk : breadthFirst u.ids (fun s => (u.get s).interfaces) (u.ancestors t)
        ((u.ancestors t).flatMap fun s => (u.get s).interfaces) =
      firstMet (u.ancestors t) (layers (fun s => (u.get s).interfaces) (u.size + 1)
        ((u.ancestors t).flatMap fun s => (u.get s).interfaces)) := by
    refine breadthFirst_eq_firstMet (fun s => interfaces_of_not_mem_ids)
      (fun s i hi => hdrop s i (inherits_of_mem_interfaces hi)) (u.size + 1)
      (fun s _ => Nat.lt_succ_of_le (hle s)) fun s hs i hi => ?_
    exact List.mem_append_left _ (List.mem_flatMap.2 ⟨s, hs, hi⟩)
  have hlisting : u.listing t = u.ancestors t ++ layers (fun s => (u.get s).interfaces)
      (u.size + 1) ((u.ancestors t).flatMap fun s => (u.get s).interfaces) := rfl
  rw [supertypes, hwalk, hlisting, firstMet_append,
    firstMet_eq_self (nodup_ancestors hu t) fun _ _ => List.not_mem_nil, List.append_nil]

theorem mem_supertypes_iff (hu : u.Acyclic) : s ∈ u.supertypes t ↔ s ∈ u.listing t := by
  rw [supertypes_eq_firstMet hu, mem_firstMet]
  exact and_iff_left List.not_mem_nil

theorem nodup_supertypes (hu : u.Acyclic) (t : TypeId) : (u.supertypes t).Nodup := by
  rw [supertypes_eq_firstMet hu]
  exact nodup_firstMet _ _

/-- The listing decides the order of the supertypes. -/
theorem metBefore_iff (hu : u.Acyclic) :
    u.MetBefore t s l ↔ (u.supertypes t).idxOf s < (u.supertypes t).idxOf l := by
  rw [supertypes_eq_firstMet hu, idxOf_firstMet_lt_iff List.not_mem_nil List.not_mem_nil]
  rfl

theorem MetBefore.mem_listing (h : u.MetBefore t s l) : s ∈ u.listing t :=
  List.idxOf_lt_length_iff.1 (h.trans_le List.idxOf_le_length)

/-- What stands before a supertype is what is met before it. -/
theorem metBefore_iff_mem_before (hu : u.Acyclic) {before after : List TypeId}
    (h : u.supertypes t = before ++ s :: after) : u.MetBefore t l s ↔ l ∈ before := by
  have hnodup := nodup_supertypes hu t
  rw [h, List.nodup_append] at hnodup
  have hs : s ∉ before := by
    intro hs
    exact hnodup.2.2 s hs s List.mem_cons_self rfl
  rw [metBefore_iff hu, h, List.idxOf_append_of_notMem hs, List.idxOf_cons_self, Nat.add_zero]
  by_cases hl : l ∈ before
  · rw [List.idxOf_append_of_mem hl]
    exact List.idxOf_lt_length_iff
  · rw [List.idxOf_append_of_notMem hl]
    exact iff_of_false (by omega) hl

/-- Of two different types one is met before the other, if one is met at all. -/
theorem metBefore_or_metBefore (hs : s ∈ u.listing t) (hne : s ≠ l) :
    u.MetBefore t s l ∨ u.MetBefore t l s := by
  rcases Nat.lt_trichotomy ((u.listing t).idxOf s) ((u.listing t).idxOf l) with h | h | h
  · exact Or.inl h
  · exact absurd ((List.idxOf_inj hs).1 h) hne
  · exact Or.inr h

theorem self_mem_ancestors (u : Universe) (t : TypeId) : t ∈ u.ancestors t := by
  rw [ancestors, chain_succ]
  exact List.mem_cons_self

/-- A class of the superclass chain is met before all of its proper supertypes. -/
theorem metBefore_of_mem_ancestors (hu : u.Acyclic) (hl : l ∈ u.ancestors t)
    (hls : u.ProperSubtype l s) : u.MetBefore t l s := by
  obtain ⟨before, after, hsplit⟩ := List.append_of_mem hl
  have hls' : l ≠ s := by
    rintro rfl
    exact hu l hls
  have hbefore : s ∉ before := by
    intro h
    obtain ⟨-, hsl⟩ := (mem_before_iff_extends hu hsplit).1 h
    exact hu s ((properSubtype_of_extends hsl).trans hls)
  have hfresh : l ∉ before := by
    intro h
    obtain ⟨-, hll⟩ := (mem_before_iff_extends hu hsplit).1 h
    exact hu l (properSubtype_of_extends hll)
  -- neither type stands in front of `l` in the chain, and `l` is next
  rw [metBefore_iff hu, supertypes, hsplit, List.append_assoc, List.cons_append,
    List.idxOf_append_of_notMem hfresh, List.idxOf_append_of_notMem hbefore,
    List.idxOf_cons_self, List.idxOf_cons_ne _ hls']
  omega

end Universe

/-! ## The standard universe

The standard types refer to standard types alone, and their supertypes stand before them. -/

theorem closed_standard : standard.Closed :=
  Universe.closed_of_lt (by decide +kernel) (by decide +kernel)

theorem lt_of_mem_mentions_standard {t r : TypeId} {m : Member}
    (hm : m ∈ (standard.get t).members) (hr : r ∈ m.mentions) : r < standard.size := by
  have hall : ∀ t, ∀ m ∈ (standard.get t).members, ∀ r ∈ m.mentions, r < standard.size :=
    Universe.forall_get (P := fun d => ∀ m ∈ d.members, ∀ r ∈ m.mentions, r < standard.size)
      (by decide +kernel) fun _ hm => absurd hm List.not_mem_nil
  exact hall t m hm r hr

theorem result_lt_standard {t r : TypeId} {m : Member} (hm : m ∈ (standard.get t).methods)
    (hr : r ∈ m.result) : r < standard.size :=
  lt_of_mem_mentions_standard (List.mem_append_right _ hm)
    (List.mem_append_right _ (Option.mem_toList.2 hr))

theorem kind_standard_ne_array (t : TypeId) : (standard.get t).kind ≠ .array :=
  Universe.forall_get (P := fun d => d.kind ≠ .array) (by decide +kernel) (by decide) t

theorem lt_of_inherits_standard {t s : TypeId} (h : standard.Inherits t s) : s < t := by
  have hall : ∀ t < standard.size, ∀ s ∈ (standard.get t).directSupertypes, s < t := by
    decide +kernel
  exact hall t (Universe.lt_size_of_inherits h) s h

end Skeletal
