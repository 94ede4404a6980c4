import Mathlib.Logic.Relation
import Skeletal.Proofs.Reach.Layers

/-!
# What a breadth-first walk reaches

The walk lists each element once (`nodup_breadthFirst`). It lists what was not seen before and can
be reached by steps from the queue (`mem_breadthFirst_iff`), provided that the steps out of the seen
elements are seen or queued. An element that is met keeps this up, as its steps join the queue.
Outside the known elements the walk takes no steps, so that they must not lead elsewhere there.
-/

set_option autoImplicit false

namespace Skeletal

universe u

variable {α : Type u} {next : α → List α} {seen queue rest : List α} {a b : α}

/-- Steps lead from one element to another. -/
def Reaches (next : α → List α) : α → α → Prop :=
  Relation.ReflTransGen fun a b => b ∈ next a

/-- The steps out of seen elements are seen or queued. -/
def StepsQueued (next : α → List α) (seen queue : List α) : Prop :=
  ∀ a ∈ seen, ∀ b ∈ next a, b ∈ seen ∨ b ∈ queue

/-- Seen elements may be dropped from the queue. -/
theorem StepsQueued.drop (h : StepsQueued next seen queue)
    (hdrop : ∀ b ∈ queue, b ∈ seen ∨ b ∈ rest) : StepsQueued next seen rest := by
  intro c hc b hb
  rcases h c hc b hb with hb | hb
  · exact Or.inl hb
  · exact hdrop b hb

theorem StepsQueued.meet (h : StepsQueued next seen (a :: rest)) :
    StepsQueued next (a :: seen) (rest ++ next a) := by
  intro c hc b hb
  rcases List.mem_cons.1 hc with rfl | hc
  · exact Or.inr (List.mem_append_right _ hb)
  · rcases h c hc b hb with hb | hb
    · exact Or.inl (List.mem_cons_of_mem a hb)
    · rcases List.mem_cons.1 hb with rfl | hb
      · exact Or.inl List.mem_cons_self
      · exact Or.inr (List.mem_append_left _ hb)

/-- A walk from a seen element to one that is not seen goes through the queue. -/
theorem StepsQueued.exists_mem_queue (h : StepsQueued next seen queue) (hwalk : Reaches next a b)
    (ha : a ∈ seen) (hb : b ∉ seen) : ∃ c ∈ queue, Reaches next c b := by
  induction hwalk using Relation.ReflTransGen.head_induction_on with
  | refl => exact absurd ha hb
  | @head a c hstep hwalk ih =>
      rcases h a ha c hstep with hc | hc
      · exact ih hc
      · exact ⟨c, hc, hwalk⟩

/-- A walk from a seen element of the queue goes through the rest of it. -/
theorem StepsQueued.exists_mem_drop_iff (h : StepsQueued next seen rest)
    (hdrop : ∀ c ∈ queue, c ∈ seen ∨ c ∈ rest) (hsub : rest ⊆ queue) (hb : b ∉ seen) :
    (∃ c ∈ rest, Reaches next c b) ↔ ∃ c ∈ queue, Reaches next c b := by
  constructor
  · rintro ⟨c, hc, hwalk⟩
    exact ⟨c, hsub hc, hwalk⟩
  · rintro ⟨c, hc, hwalk⟩
    rcases hdrop c hc with hc | hc
    · exact h.exists_mem_queue hwalk hc hb
    · exact ⟨c, hc, hwalk⟩

/-- What is reached from the queue is its first element, or it is reached when the steps out of
this have joined the queue. -/
theorem reached_meet_iff (ha : a ∉ seen) :
    (b = a ∨ b ∉ a :: seen ∧ ∃ c ∈ rest ++ next a, Reaches next c b) ↔
      b ∉ seen ∧ ∃ c ∈ a :: rest, Reaches next c b := by
  constructor
  · rintro (rfl | ⟨hb, c, hc, hwalk⟩)
    · exact ⟨ha, b, List.mem_cons_self, Relation.ReflTransGen.refl⟩
    · refine ⟨fun h => hb (List.mem_cons_of_mem a h), ?_⟩
      rcases List.mem_append.1 hc with hc | hc
      · exact ⟨c, List.mem_cons_of_mem a hc, hwalk⟩
      · exact ⟨a, List.mem_cons_self, Relation.ReflTransGen.head hc hwalk⟩
  · rintro ⟨hb, c, hc, hwalk⟩
    by_cases hba : b = a
    · exact Or.inl hba
    · refine Or.inr ⟨List.not_mem_cons_of_ne_of_not_mem hba hb, ?_⟩
      rcases List.mem_cons.1 hc with rfl | hc
      · -- the walk from the first element goes on with one of its steps
        rcases hwalk.cases_head with rfl | ⟨d, hd, hwalk⟩
        · exact absurd rfl hba
        · exact ⟨d, List.mem_append_right _ hd, hwalk⟩
      · exact ⟨c, List.mem_append_left _ hc, hwalk⟩

variable [DecidableEq α] {known : List α}

/-- An element is listed if it was not seen before and is reached from the queue. -/
theorem mem_breadthFirst_iff (hknown : ∀ a ∉ known, next a = [] ∨ next a = [a])
    (hseen : StepsQueued next seen queue) : b ∈ breadthFirst known next seen queue ↔
      b ∉ seen ∧ ∃ a ∈ queue, Reaches next a b := by
  fun_induction breadthFirst known next seen queue with
  | case1 => simp
  | case2 seen a rest ha ih =>
      have hdrop : ∀ c ∈ a :: rest, c ∈ seen ∨ c ∈ rest := by
        intro c hc
        rcases List.mem_cons.1 hc with rfl | hc
        · exact Or.inl ha
        · exact Or.inr hc
      have hrest := hseen.drop hdrop
      exact (ih hrest).trans (and_congr_right fun hb =>
        hrest.exists_mem_drop_iff hdrop (List.subset_cons_self a rest) hb)
  | case3 seen a rest ha hk ih =>
      rw [List.mem_cons, ← reached_meet_iff ha]
      exact or_congr_right (ih hseen.meet)
  | case4 seen a rest ha hk ih =>
      -- no steps are taken from an unknown element, which could lead back to itself alone
      have hdrop : ∀ c ∈ rest ++ next a, c ∈ a :: seen ∨ c ∈ rest := by
        intro c hc
        rcases List.mem_append.1 hc with hc | hc
        · exact Or.inr hc
        · rcases hknown a hk with hnone | hself
          · rw [hnone] at hc
            exact absurd hc List.not_mem_nil
          · rw [hself] at hc
            exact Or.inl (List.mem_cons.2 (Or.inl (List.mem_singleton.1 hc)))
      have hrest := hseen.meet.drop hdrop
      rw [List.mem_cons, ← reached_meet_iff ha]
      exact or_congr_right ((ih hrest).trans (and_congr_right fun hb =>
        hrest.exists_mem_drop_iff hdrop (List.subset_append_left rest _) hb))

theorem nodup_breadthFirst (known : List α) (next : α → List α) (seen queue : List α) :
    (breadthFirst known next seen queue).Nodup := by
  fun_induction breadthFirst known next seen queue with
  | case1 => exact List.nodup_nil
  | case2 seen a rest ha ih => exact ih
  | case3 seen a rest ha hk ih =>
      exact List.nodup_cons.2 ⟨fun h =>
        not_mem_seen_of_mem_breadthFirst h List.mem_cons_self, ih⟩
  | case4 seen a rest ha hk ih =>
      exact List.nodup_cons.2 ⟨fun h =>
        not_mem_seen_of_mem_breadthFirst h List.mem_cons_self, ih⟩

end Skeletal
