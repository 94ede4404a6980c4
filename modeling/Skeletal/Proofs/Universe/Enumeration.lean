import Skeletal.Proofs.Reach.Distance
import Skeletal.Proofs.Universe.Walks

/-!
# Enumeration of supertypes

Where the superclass chain ends, the walk over supertypes ends too, whatever the interfaces have in
common and even if they extend each other in a circle. It lists the chain and then what interface
references lead to from it, each type once and nearer types first (`supertypes_enumerates`). A type
of the chain that is listed as an interface as well keeps its place in the chain.
-/

set_option autoImplicit false

namespace Skeletal.Universe

open Relation (ReflTransGen TransGen)

variable {u : Universe} {t s : TypeId} {classes : List TypeId}

/-- `s` is one of the interfaces that `t` lists. -/
def ListsInterface (u : Universe) (t s : TypeId) : Prop := s ∈ (u.get t).interfaces

/-- Least number of interface references that lead to a type from one of some classes. -/
noncomputable def interfaceDistance (u : Universe) (classes : List TypeId) (s : TypeId) : Nat :=
  distance (fun i => (u.get i).interfaces) classes s

/-- Interfaces are followed from each class of the chain. -/
theorem mem_supertypes_iff_reaches : s ∈ u.supertypes t ↔
    ∃ c ∈ u.ancestors t, Reaches (fun i => (u.get i).interfaces) c s := by
  have hseen : StepsQueued (fun i => (u.get i).interfaces) (u.ancestors t)
      ((u.ancestors t).flatMap fun c => (u.get c).interfaces) :=
    fun c hc i hi => Or.inr (List.mem_flatMap.2 ⟨c, hc, hi⟩)
  rw [supertypes, List.mem_append,
    mem_breadthFirst_iff (fun _ hs => Or.inl (interfaces_of_not_mem_ids hs)) hseen]
  constructor
  · rintro (hs | ⟨-, i, hi, hwalk⟩)
    · exact ⟨s, hs, ReflTransGen.refl⟩
    · obtain ⟨c, hc, hi⟩ := List.mem_flatMap.1 hi
      exact ⟨c, hc, ReflTransGen.head hi hwalk⟩
  · rintro ⟨c, hc, hwalk⟩
    by_cases hs : s ∈ u.ancestors t
    · exact Or.inl hs
    · refine Or.inr ⟨hs, ?_⟩
      rcases hwalk.cases_head with rfl | ⟨i, hi, hwalk⟩
      · exact absurd hc hs
      · exact ⟨i, List.mem_flatMap.2 ⟨c, hc, hi⟩, hwalk⟩

theorem self_mem_supertypes (u : Universe) (t : TypeId) : t ∈ u.supertypes t :=
  mem_supertypes_iff_reaches.2 ⟨t, self_mem_ancestors u t, ReflTransGen.refl⟩

/-- Interfaces that the walk lists behind the chain. -/
def interfacesBehind (u : Universe) (classes : List TypeId) : List TypeId :=
  breadthFirst u.ids (fun i => (u.get i).interfaces) classes
    (classes.flatMap fun c => (u.get c).interfaces)

theorem AncestorsRun.supertypes_eq (h : u.AncestorsRun t classes) :
    u.supertypes t = classes ++ u.interfacesBehind classes := by
  rw [supertypes, h.ancestors_eq, interfacesBehind]

theorem nodup_append_interfacesBehind (h : classes.Nodup) :
    (classes ++ u.interfacesBehind classes).Nodup := by
  refine List.nodup_append.2 ⟨h, nodup_breadthFirst _ _ _ _, ?_⟩
  rintro c hc i hi rfl
  exact not_mem_seen_of_mem_breadthFirst hi hc

theorem AncestorsRun.mem_interfacesBehind_iff (h : u.AncestorsRun t classes) :
    s ∈ u.interfacesBehind classes ↔
      s ∉ classes ∧ ∃ c ∈ classes, TransGen u.ListsInterface c s := by
  have hmem : s ∈ classes ++ u.interfacesBehind classes ↔
      ∃ c ∈ classes, ReflTransGen u.ListsInterface c s := by
    rw [← h.supertypes_eq, mem_supertypes_iff_reaches, h.ancestors_eq]
    rfl
  constructor
  · intro hs
    have hnot : s ∉ classes := not_mem_seen_of_mem_breadthFirst hs
    obtain ⟨c, hc, hwalk⟩ := hmem.1 (List.mem_append_right _ hs)
    rcases Relation.reflTransGen_iff_eq_or_transGen.1 hwalk with rfl | hwalk
    · exact absurd hc hnot
    · exact ⟨hnot, c, hc, hwalk⟩
  · rintro ⟨hnot, c, hc, hwalk⟩
    have hlisted := hmem.2 ⟨c, hc, hwalk.to_reflTransGen⟩
    exact (List.mem_append.1 hlisted).resolve_left hnot

/-- The walk from a type whose superclass chain ends has exactly one result. This is the chain
followed by the types outside it that one or more interface references lead to from it, each once
and in the order of the least number of such references. -/
theorem supertypes_enumerates (h : u.AncestorsRun t classes) :
    (∀ result, u.SupertypesRun t result ↔ result = u.supertypes t) ∧
      ∃ interfaces, u.supertypes t = classes ++ interfaces ∧ (classes ++ interfaces).Nodup ∧
        (∀ s, s ∈ interfaces ↔ s ∉ classes ∧ ∃ c ∈ classes, TransGen u.ListsInterface c s) ∧
        interfaces.Pairwise fun a b =>
          u.interfaceDistance classes a ≤ u.interfaceDistance classes b := by
  refine ⟨fun result => ⟨fun hrun => hrun.unique h.supertypesRun, ?_⟩, ?_⟩
  · rintro rfl
    exact h.supertypesRun
  · refine ⟨u.interfacesBehind classes, h.supertypes_eq, nodup_append_interfacesBehind h.nodup,
      fun s => h.mem_interfacesBehind_iff, ?_⟩
    exact pairwise_distance_breadthFirst (fun _ => interfaces_of_not_mem_ids) classes

/-- A class with a superclass. The superclass and the class list interfaces that extend each other
in a circle, and another interface of the class lists the superclass as well. -/
def circledInterfaces : Universe :=
  ⟨#[{ name := "Base", canonical := "Base", interfaces := [3] },
     { name := "T", canonical := "T", superclass := some 0, interfaces := [2, 4] },
     { name := "I", canonical := "I", kind := .interfaceType, interfaces := [3] },
     { name := "J", canonical := "J", kind := .interfaceType, interfaces := [2] },
     { name := "K", canonical := "K", kind := .interfaceType, interfaces := [0, 5] },
     { name := "L", canonical := "L", kind := .interfaceType }]⟩

/-- The circle is walked once, the superclass stays in the chain, and the only interface that is two
references away comes last. -/
theorem supertypes_enumerates_circledInterfaces :
    circledInterfaces.AncestorsRun 1 [1, 0] ∧
      (∀ result, circledInterfaces.SupertypesRun 1 result ↔
        result = [1, 0] ++ [2, 4, 3, 5]) ∧
      (∀ s, s ∈ [2, 4, 3, 5] ↔
        s ∉ [1, 0] ∧ ∃ c ∈ [1, 0], TransGen circledInterfaces.ListsInterface c s) ∧
      [2, 4, 3, 5].Pairwise fun a b => circledInterfaces.interfaceDistance [1, 0] a ≤
        circledInterfaces.interfaceDistance [1, 0] b := by
  have hchain : circledInterfaces.AncestorsRun 1 [1, 0] := .next rfl (.root rfl)
  have hlisted : circledInterfaces.supertypes 1 = [1, 0] ++ [2, 4, 3, 5] := by cbv
  obtain ⟨hruns, interfaces, hsupertypes, -, hmem, hordered⟩ := supertypes_enumerates hchain
  obtain rfl := List.append_cancel_left (hlisted.symm.trans hsupertypes)
  rw [hlisted] at hruns
  exact ⟨hchain, hruns, hmem, hordered⟩

end Skeletal.Universe
