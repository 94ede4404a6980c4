import Mathlib.Order.Lattice.Nat
import Skeletal.Proofs.Reach.Closure

/-!
# The order of a breadth-first walk

The distance of an element is the least number of steps that lead to it from one of the sources.
A walk that begins with the steps out of the sources lists elements in the order of their distance
(`pairwise_distance_breadthFirst`). It does so layer by layer: when the elements nearer than some
number of steps are seen and the queue holds what that number of steps leads to, the front of the
walk is the layer of this distance, and the steps out of it are the queue for the next one.
-/

set_option autoImplicit false

namespace Skeletal

universe u

variable {α : Type u} {next : α → List α} {sources seen queue : List α} {a b : α} {n k : Nat}

/-- A number of steps leads from one element to another. -/
inductive ReachesIn (next : α → List α) (a : α) : Nat → α → Prop
  | none : ReachesIn next a 0 a
  | step {n : Nat} {b c : α} : ReachesIn next a n b → c ∈ next b → ReachesIn next a (n + 1) c

/-- A number of steps leads to the element from one of the sources. -/
def AtStep (next : α → List α) (sources : List α) (n : Nat) (b : α) : Prop :=
  ∃ a ∈ sources, ReachesIn next a n b

/-- Least number of steps that lead to an element from one of the sources. -/
noncomputable def distance (next : α → List α) (sources : List α) (b : α) : Nat :=
  sInf {n | AtStep next sources n b}

theorem AtStep.step (h : AtStep next sources n a) (hb : b ∈ next a) :
    AtStep next sources (n + 1) b := by
  obtain ⟨source, hsource, hsteps⟩ := h
  exact ⟨source, hsource, .step hsteps hb⟩

theorem atStep_zero_iff : AtStep next sources 0 b ↔ b ∈ sources := by
  constructor
  · rintro ⟨source, hsource, hsteps⟩
    cases hsteps
    exact hsource
  · exact fun hb => ⟨b, hb, .none⟩

theorem atStep_succ_iff :
    AtStep next sources (n + 1) b ↔ ∃ a, AtStep next sources n a ∧ b ∈ next a := by
  constructor
  · rintro ⟨source, hsource, hsteps⟩
    cases hsteps with
    | step hsteps hb => exact ⟨_, ⟨source, hsource, hsteps⟩, hb⟩
  · rintro ⟨a, ha, hb⟩
    exact ha.step hb

theorem distance_le (h : AtStep next sources n b) : distance next sources b ≤ n :=
  Nat.sInf_le h

/-- What is reached in some number of steps, and in no fewer than `k`, is not nearer than `k`. -/
theorem le_distance (h : AtStep next sources n b) (hk : ∀ m < k, ¬ AtStep next sources m b) :
    k ≤ distance next sources b := by
  have hreached : {n | AtStep next sources n b}.Nonempty := ⟨n, h⟩
  have hleast : AtStep next sources (distance next sources b) b := Nat.sInf_mem hreached
  by_contra hlt
  exact hk _ (Nat.not_le.1 hlt) hleast

/-- The walk stands before a layer: seen is what fewer steps lead to, and what is queued is what
this number of steps leads to, up to seen elements. -/
structure BeforeLayer (next : α → List α) (sources : List α) (k : Nat) (seen queue : List α) :
    Prop where
  seen_iff : ∀ b, b ∈ seen ↔ ∃ n < k, AtStep next sources n b
  queued : ∀ b ∈ queue, AtStep next sources k b
  complete : ∀ b, AtStep next sources k b → b ∉ seen → b ∈ queue

/-- The walk starts before the layer of one step. -/
theorem beforeLayer_one (next : α → List α) (sources : List α) :
    BeforeLayer next sources 1 sources (sources.flatMap next) where
  seen_iff b := by
    constructor
    · exact fun hb => ⟨0, Nat.one_pos, atStep_zero_iff.2 hb⟩
    · rintro ⟨n, hn, hb⟩
      obtain rfl := Nat.lt_one_iff.1 hn
      exact atStep_zero_iff.1 hb
  queued b hb := by
    obtain ⟨a, ha, hab⟩ := List.mem_flatMap.1 hb
    exact (atStep_zero_iff.2 ha).step hab
  complete b hb _ := by
    obtain ⟨a, ha, hab⟩ := atStep_succ_iff.1 hb
    exact List.mem_flatMap.2 ⟨a, atStep_zero_iff.1 ha, hab⟩

variable [DecidableEq α] {known : List α}

/-- The first occurrences in the queue are the layer. -/
theorem BeforeLayer.distance_eq (h : BeforeLayer next sources k seen queue)
    (hb : b ∈ firstMet seen queue) : distance next sources b = k := by
  obtain ⟨hqueue, hseen⟩ := mem_firstMet.1 hb
  have hk := h.queued b hqueue
  refine Nat.le_antisymm (distance_le hk) (le_distance hk fun m hm hstep => ?_)
  exact hseen ((h.seen_iff b).2 ⟨m, hm, hstep⟩)

/-- Behind the layer the walk stands before the next one. -/
theorem BeforeLayer.behind (h : BeforeLayer next sources k seen queue) :
    BeforeLayer next sources (k + 1) ((firstMet seen queue).reverse ++ seen)
      ((firstMet seen queue).flatMap next) := by
  have hnew : ∀ b, b ∈ (firstMet seen queue).reverse ++ seen ↔ b ∈ firstMet seen queue ∨ b ∈ seen :=
    fun b => by rw [List.mem_append, List.mem_reverse]
  have hseen : ∀ b, b ∈ (firstMet seen queue).reverse ++ seen ↔
      ∃ n < k + 1, AtStep next sources n b := by
    intro b
    rw [hnew]
    constructor
    · rintro (hb | hb)
      · exact ⟨k, Nat.lt_succ_self k, h.queued b (mem_firstMet.1 hb).1⟩
      · obtain ⟨n, hn, hstep⟩ := (h.seen_iff b).1 hb
        exact ⟨n, Nat.lt_succ_of_lt hn, hstep⟩
    · rintro ⟨n, hn, hstep⟩
      by_cases hb : b ∈ seen
      · exact Or.inr hb
      · rcases Nat.lt_succ_iff_lt_or_eq.1 hn with hn | rfl
        · exact absurd ((h.seen_iff b).2 ⟨n, hn, hstep⟩) hb
        · exact Or.inl (mem_firstMet.2 ⟨h.complete b hstep hb, hb⟩)
  refine ⟨hseen, fun b hb => ?_, fun b hstep hb => ?_⟩
  · obtain ⟨a, ha, hab⟩ := List.mem_flatMap.1 hb
    exact (h.queued a (mem_firstMet.1 ha).1).step hab
  · -- the step before leads to the layer, since a seen element leads to seen elements
    obtain ⟨a, ha, hab⟩ := atStep_succ_iff.1 hstep
    have hlayer : a ∈ firstMet seen queue := by
      by_contra hmem
      have haseen : a ∈ seen := by
        by_contra hnot
        exact hmem (mem_firstMet.2 ⟨h.complete a ha hnot, hnot⟩)
      obtain ⟨n, hn, hsteps⟩ := (h.seen_iff a).1 haseen
      exact hb ((hseen b).2 ⟨n + 1, Nat.succ_lt_succ hn, hsteps.step hab⟩)
    exact List.mem_flatMap.2 ⟨a, hlayer, hab⟩

/-- A walk from before a layer lists nothing nearer, and it lists nearer elements first. -/
theorem BeforeLayer.pairwise_distance (hknown : ∀ a, a ∉ known → next a = [])
    (h : BeforeLayer next sources k seen queue) :
    (∀ b ∈ breadthFirst known next seen queue, k ≤ distance next sources b) ∧
      (breadthFirst known next seen queue).Pairwise
        fun a b => distance next sources a ≤ distance next sources b := by
  -- each layer shortens what is left of the walk, unless it is empty and the walk ends
  induction hlength : (breadthFirst known next seen queue).length using Nat.strong_induction_on
    generalizing k seen queue with
  | _ length ih =>
      have hsplit : breadthFirst known next seen queue = firstMet seen queue ++
          breadthFirst known next ((firstMet seen queue).reverse ++ seen)
            ((firstMet seen queue).flatMap next) := by
        simpa only [List.append_nil, List.nil_append] using breadthFirst_append hknown seen queue []
      cases hlayer : firstMet seen queue with
      | nil =>
          have hend : breadthFirst known next seen queue = [] := by
            rw [hsplit, hlayer, List.flatMap_nil, breadthFirst, List.append_nil]
          rw [hend]
          exact ⟨fun b hb => absurd hb List.not_mem_nil, List.Pairwise.nil⟩
      | cons first rest =>
          have hshorter : (breadthFirst known next ((firstMet seen queue).reverse ++ seen)
              ((firstMet seen queue).flatMap next)).length < length := by
            rw [← hlength, hsplit, List.length_append, hlayer, List.length_cons]
            omega
          obtain ⟨hfar, hpairwise⟩ := ih _ hshorter h.behind rfl
          rw [hsplit]
          constructor
          · intro b hb
            rcases List.mem_append.1 hb with hb | hb
            · exact (h.distance_eq hb).ge
            · exact (Nat.le_succ k).trans (hfar b hb)
          · refine List.pairwise_append.2 ⟨?_, hpairwise, ?_⟩
            · refine List.pairwise_of_forall_mem_list fun a ha b hb => ?_
              rw [h.distance_eq ha, h.distance_eq hb]
            · intro a ha b hb
              rw [h.distance_eq ha]
              exact (Nat.le_succ k).trans (hfar b hb)

/-- The walk over the steps out of the sources lists elements in the order of their distance. -/
theorem pairwise_distance_breadthFirst (hknown : ∀ a, a ∉ known → next a = [])
    (sources : List α) : (breadthFirst known next sources (sources.flatMap next)).Pairwise
      fun a b => distance next sources a ≤ distance next sources b :=
  ((beforeLayer_one next sources).pairwise_distance hknown).2

end Skeletal
