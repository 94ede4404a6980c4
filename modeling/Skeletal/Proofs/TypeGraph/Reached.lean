import Mathlib.Data.List.Basic
import Skeletal.Proofs.Load.WellFormed
import Skeletal.Proofs.Reach.Closure
import Skeletal.Proofs.TypeGraph.Links

/-!
# Names that a graph reaches

The supertypes of a name in a graph are the names that edges lead to from it, over any number of
steps, each once and in dictionary order (`supertypes?_eq_some_iff`). A name has them if it is that
of a linked type or of a direct supertype of one.
-/

set_option autoImplicit false

namespace Skeletal.TypeGraph

open Relation (TransGen)

variable {u : Universe} {types : List TypeId} {g : TypeGraph} {name other : String}
  {words words' : List String}

/-! ## Sorted names -/

/-- Lists without repetition are sorted alike if they have the same elements. -/
theorem mergeSort_eq_iff (h : words.Nodup) (h' : words'.Nodup) :
    words.mergeSort (· ≤ ·) = words'.mergeSort (· ≤ ·) ↔ ∀ word, word ∈ words ↔ word ∈ words' := by
  constructor
  · intro heq word
    have hsorted : word ∈ words.mergeSort (· ≤ ·) ↔ word ∈ words := List.mem_mergeSort
    rw [← hsorted, heq, List.mem_mergeSort]
  · intro hmem
    have hperm : (words.mergeSort (· ≤ ·)).Perm (words'.mergeSort (· ≤ ·)) :=
      ((List.mergeSort_perm _ _).trans ((List.perm_ext_iff_of_nodup h h').2 hmem)).trans
        (List.mergeSort_perm _ _).symm
    exact hperm.eq_of_pairwise (fun _ _ _ _ => String.le_antisymm)
      (List.pairwise_mergeSort' (· ≤ ·) words) (List.pairwise_mergeSort' (· ≤ ·) words')

/-! ## Nodes -/

theorem mem_names_foldl_link : name ∈ (types.foldl (link u) g).names ↔ name ∈ g.names ∨
    ∃ t ∈ types, name = u.canonical t ∨
      ∃ s ∈ (u.get t).directSupertypes, name = u.canonical s := by
  induction types generalizing g with
  | nil => simp
  | cons t rest ih =>
      rw [List.foldl_cons, ih, mem_names_link, or_assoc, List.exists_mem_cons_iff]

/-- A linked type has a node. -/
theorem canonical_mem_names {t : TypeId} (ht : t ∈ types) :
    u.canonical t ∈ (ofTypes u types).names := by
  rw [ofTypes, mem_names_foldl_link]
  exact Or.inr ⟨t, ht, Or.inl rfl⟩

/-! ## Supertypes -/

theorem Closed.successors_eq_nil (hg : g.Closed) (h : name ∉ g.names) : g.successors name = [] := by
  rw [List.eq_nil_iff_forall_not_mem]
  intro next hnext
  obtain ⟨e, he, rfl, -⟩ := mem_successors.1 hnext
  exact h (hg e he).1

/-- What the walk over a graph lists. -/
theorem mem_breadthFirst_successors_iff (hg : g.Closed) :
    other ∈ breadthFirst g.names g.successors [name] (g.successors name) ↔
      other ≠ name ∧ TransGen g.Leads name other := by
  have hseen : StepsQueued g.successors [name] (g.successors name) := by
    intro a ha b hb
    rw [List.mem_singleton.1 ha] at hb
    exact Or.inr hb
  rw [mem_breadthFirst_iff (fun a ha => Or.inl (hg.successors_eq_nil ha)) hseen, List.mem_singleton,
    TransGen.head'_iff]
  simp only [Reaches, mem_successors]

/-- The supertypes of a node are a list of names if these are the names that it leads to. -/
theorem supertypes?_eq_some_iff (hg : g.Closed) (hname : name ∈ g.names) (hwords : words.Nodup) :
    g.supertypes? name = some (words.mergeSort (· ≤ ·)) ↔
      ∀ other, other ∈ words ↔ other ≠ name ∧ TransGen g.Leads name other := by
  rw [supertypes?, if_pos hname, Option.some_inj, mergeSort_eq_iff (nodup_breadthFirst _ _ _ _)
    hwords]
  simp only [mem_breadthFirst_successors_iff hg]
  exact forall_congr' fun other => Iff.comm

end Skeletal.TypeGraph
