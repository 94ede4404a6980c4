import Skeletal.Proofs.Reach.Closure

/-!
# Walks over merged elements

Elements may be merged into one if their steps lead to elements that are merged alike. A walk over
the merged elements then lists what the walk over the elements themselves does, each first
occurrence once (`firstMet_map_breadthFirst`). Where the one walk meets a second element that is
merged with an earlier one, its steps are queued again; the other walk has them queued already, and
what stands further in front in the queue makes no difference behind (`breadthFirst_append_queued`).
-/

set_option autoImplicit false

namespace Skeletal

universe u v

variable {α : Type u} {β : Type v} [DecidableEq α] [DecidableEq β] {known : List α}
  {known' : List β} {next : α → List α} {next' : β → List β} {merge : α → β}

/-- Induction along a walk: the queue is empty, its first element was seen, or that element is met
and its steps join the queue. -/
theorem walkInduction {P : List α → List α → Prop} (hknown : ∀ a, a ∉ known → next a = [])
    (done : ∀ seen, P seen [])
    (drop : ∀ seen a rest, a ∈ seen → P seen rest → P seen (a :: rest))
    (meet : ∀ seen a rest, a ∉ seen → P (a :: seen) (rest ++ next a) → P seen (a :: rest))
    (seen queue : List α) : P seen queue := by
  fun_induction breadthFirst known next seen queue with
  | case1 seen => exact done seen
  | case2 seen a rest ha ih => exact drop seen a rest ha ih
  | case3 seen a rest ha hmem ih => exact meet seen a rest ha ih
  | case4 seen a rest ha hmem ih =>
      refine meet seen a rest ha ?_
      rwa [hknown a hmem, List.append_nil]

/-! ## What is queued twice -/

/-- An element may be left out of the queue if it was seen or stands further in front. -/
theorem breadthFirst_leaveOut (hknown : ∀ a, a ∉ known → next a = []) {seen front : List α} {x : α}
    (hx : x ∈ seen ∨ x ∈ front) (back : List α) :
    breadthFirst known next seen (front ++ x :: back) =
      breadthFirst known next seen (front ++ back) := by
  rw [breadthFirst_append hknown seen front (x :: back), breadthFirst_append hknown seen front back,
    List.cons_append, breadthFirst_cons_of_mem]
  rw [List.mem_append, List.mem_reverse, mem_firstMet]
  tauto

/-- Elements that were seen or are queued already add nothing at the end of the queue. -/
theorem breadthFirst_append_queued (hknown : ∀ a, a ∉ known → next a = [])
    {seen queue again : List α} (h : ∀ x ∈ again, x ∈ seen ∨ x ∈ queue) :
    breadthFirst known next seen (queue ++ again) = breadthFirst known next seen queue := by
  induction again with
  | nil => rw [List.append_nil]
  | cons x rest ih =>
      rw [breadthFirst_leaveOut hknown (h x List.mem_cons_self),
        ih fun y hy => h y (List.mem_cons_of_mem x hy)]

/-! ## Merging -/

/-- A walk over merged elements lists the first occurrences of what the walk over the elements
lists, if steps and seen elements are merged alike. -/
theorem firstMet_map_breadthFirst (hknown : ∀ a, a ∉ known → next a = [])
    (hknown' : ∀ b, b ∉ known' → next' b = [])
    (hnext : ∀ a, (next a).map merge = next' (merge a)) {seen queue : List α} {seen' : List β}
    (hseen : ∀ a ∈ seen, merge a ∈ seen')
    (hqueued : StepsQueued next' seen' (queue.map merge)) :
    firstMet seen' ((breadthFirst known next seen queue).map merge) =
      breadthFirst known' next' seen' (queue.map merge) := by
  induction seen, queue using walkInduction hknown generalizing seen' with
  | done seen => simp [breadthFirst]
  | drop seen a rest ha ih =>
      rw [breadthFirst_cons_of_mem ha, List.map_cons, breadthFirst_cons_of_mem (hseen a ha)]
      refine ih hseen (hqueued.drop fun b hb => ?_)
      rcases List.mem_cons.1 hb with rfl | hb
      · exact Or.inl (hseen a ha)
      · exact Or.inr hb
  | meet seen a rest ha ih =>
      rw [breadthFirst_cons_of_not_mem hknown ha, List.map_cons, List.map_cons]
      rw [List.map_append, hnext] at ih
      by_cases hmerged : merge a ∈ seen'
      · -- the steps of the earlier element are seen or queued, and these are merged with them
        have hagain : ∀ b ∈ next' (merge a), b ∈ seen' ∨ b ∈ rest.map merge := by
          intro b hb
          rcases hqueued (merge a) hmerged b hb with hb | hb
          · exact Or.inl hb
          · rcases List.mem_cons.1 hb with rfl | hb
            · exact Or.inl hmerged
            · exact Or.inr hb
        rw [firstMet_cons_of_mem hmerged, breadthFirst_cons_of_mem hmerged,
          ← breadthFirst_append_queued hknown' hagain]
        apply ih
        · intro b hb
          rcases List.mem_cons.1 hb with rfl | hb
          · exact hmerged
          · exact hseen b hb
        · refine hqueued.drop fun b hb => ?_
          rcases List.mem_cons.1 hb with rfl | hb
          · exact Or.inl hmerged
          · exact Or.inr (List.mem_append_left _ hb)
      · rw [firstMet_cons_of_not_mem hmerged, breadthFirst_cons_of_not_mem hknown' hmerged,
          ih _ hqueued.meet]
        intro b hb
        rcases List.mem_cons.1 hb with rfl | hb
        · exact List.mem_cons_self
        · exact List.mem_cons_of_mem _ (hseen b hb)

end Skeletal
