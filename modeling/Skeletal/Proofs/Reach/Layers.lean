import Mathlib.Data.List.Basic
import Skeletal.Reach

/-!
# Breadth-first reach by layers

The breadth-first walk described without its queue. The layers of a list are the list itself, the
steps out of its elements, the steps out of those and so on, every repetition kept. Where steps
cannot be taken for ever, the walk lists the first occurrences in the layers
(`breadthFirst_eq_firstMet`): an element that the walk drops as seen would only have led to
elements that stand in the layers before.

The walk depends on the steps and the seen elements only as far as it gets (`breadthFirst_congr`),
and marking an element that leads nowhere as seen takes that element alone out of the walk
(`breadthFirst_cons_seen`).
-/

set_option autoImplicit false

namespace Skeletal

universe u v

variable {α : Type u} [DecidableEq α]

/-- The first `bound` layers of a list, one after another. -/
def layers (next : α → List α) : Nat → List α → List α
  | 0, _ => []
  | bound + 1, queue => queue ++ layers next bound (queue.flatMap next)

/-- First occurrences in a list, without the elements of `seen`. -/
def firstMet (seen : List α) : List α → List α
  | [] => []
  | a :: rest => if a ∈ seen then firstMet seen rest else a :: firstMet (a :: seen) rest

/-! ## First occurrences -/

@[simp] theorem firstMet_nil (seen : List α) : firstMet seen [] = [] := rfl

theorem firstMet_cons_of_mem {seen : List α} {b : α} (hb : b ∈ seen) (rest : List α) :
    firstMet seen (b :: rest) = firstMet seen rest := by
  rw [firstMet, if_pos hb]

theorem firstMet_cons_of_not_mem {seen : List α} {b : α} (hb : b ∉ seen) (rest : List α) :
    firstMet seen (b :: rest) = b :: firstMet (b :: seen) rest := by
  rw [firstMet, if_neg hb]

theorem mem_firstMet {a : α} {seen l : List α} : a ∈ firstMet seen l ↔ a ∈ l ∧ a ∉ seen := by
  induction l generalizing seen with
  | nil => simp
  | cons b rest ih =>
      by_cases hb : b ∈ seen
      · rw [firstMet_cons_of_mem hb, ih, List.mem_cons]
        constructor
        · rintro ⟨h, hs⟩
          exact ⟨Or.inr h, hs⟩
        · rintro ⟨rfl | h, hs⟩
          · exact absurd hb hs
          · exact ⟨h, hs⟩
      · rw [firstMet_cons_of_not_mem hb, List.mem_cons, ih]
        by_cases hab : a = b
        · subst hab
          simp [hb]
        · simp [hab]

/-- First occurrences depend on the seen elements as a set. -/
theorem firstMet_congr {seen seen' : List α} (l : List α) (h : ∀ a, a ∈ seen ↔ a ∈ seen') :
    firstMet seen l = firstMet seen' l := by
  induction l generalizing seen seen' with
  | nil => rfl
  | cons b rest ih =>
      have hrest : firstMet (b :: seen) rest = firstMet (b :: seen') rest := by
        apply ih
        intro a
        simp [h a]
      simp only [firstMet, h b, hrest, ih h]

theorem firstMet_append (seen l₁ l₂ : List α) :
    firstMet seen (l₁ ++ l₂) = firstMet seen l₁ ++ firstMet (l₁ ++ seen) l₂ := by
  induction l₁ generalizing seen with
  | nil => rfl
  | cons b rest ih =>
      rw [List.cons_append]
      by_cases hb : b ∈ seen
      · rw [firstMet_cons_of_mem hb, firstMet_cons_of_mem hb, ih]
        -- `b` is seen already, so it adds nothing to what is seen before `l₂`
        have hset : firstMet (rest ++ seen) l₂ = firstMet (b :: rest ++ seen) l₂ := by
          apply firstMet_congr
          intro a
          simp only [List.mem_append, List.mem_cons, List.cons_append]
          constructor
          · exact Or.inr
          · rintro (rfl | h)
            · exact Or.inr hb
            · exact h
        rw [hset]
      · rw [firstMet_cons_of_not_mem hb, firstMet_cons_of_not_mem hb, ih, List.cons_append]
        have hset : firstMet (rest ++ b :: seen) l₂ = firstMet (b :: rest ++ seen) l₂ := by
          apply firstMet_congr
          intro a
          simp only [List.mem_append, List.mem_cons, List.cons_append]
          exact or_left_comm
        rw [hset]

/-- An element that counts as seen is taken out of the first occurrences. -/
theorem firstMet_cons_seen (a : α) (seen l : List α) :
    firstMet (a :: seen) l = (firstMet seen l).filter (· ≠ a) := by
  induction l generalizing seen with
  | nil => rfl
  | cons b rest ih =>
      by_cases hb : b ∈ seen
      · rw [firstMet_cons_of_mem (List.mem_cons_of_mem a hb), firstMet_cons_of_mem hb, ih]
      · rw [firstMet_cons_of_not_mem hb]
        by_cases hba : b = a
        · subst hba
          rw [firstMet_cons_of_mem List.mem_cons_self, List.filter_cons_of_neg (by simp),
            List.filter_eq_self.2]
          intro c hc
          apply decide_eq_true
          rintro rfl
          exact (mem_firstMet.1 hc).2 List.mem_cons_self
        · have hnew : b ∉ a :: seen := List.not_mem_cons_of_ne_of_not_mem hba hb
          have hset : firstMet (b :: a :: seen) rest = firstMet (a :: b :: seen) rest :=
            firstMet_congr rest fun c => by simp only [List.mem_cons, or_left_comm]
          rw [firstMet_cons_of_not_mem hnew, List.filter_cons_of_pos (by simpa using hba), hset, ih]

theorem firstMet_eq_nil {seen l : List α} (h : ∀ a ∈ l, a ∈ seen) : firstMet seen l = [] := by
  rw [List.eq_nil_iff_forall_not_mem]
  intro a ha
  obtain ⟨hl, hs⟩ := mem_firstMet.1 ha
  exact hs (h a hl)

theorem firstMet_eq_self {seen l : List α} (hl : l.Nodup) (hs : ∀ a ∈ l, a ∉ seen) :
    firstMet seen l = l := by
  induction l generalizing seen with
  | nil => rfl
  | cons b rest ih =>
      obtain ⟨hb, hrest⟩ := List.nodup_cons.1 hl
      have hfresh : ∀ a ∈ rest, a ∉ b :: seen := by
        intro a ha hmem
        rcases List.mem_cons.1 hmem with rfl | hmem
        · exact hb ha
        · exact hs a (List.mem_cons_of_mem b ha) hmem
      rw [firstMet_cons_of_not_mem (hs b List.mem_cons_self), ih hrest hfresh]

theorem nodup_firstMet (seen l : List α) : (firstMet seen l).Nodup := by
  induction l generalizing seen with
  | nil => exact List.nodup_nil
  | cons b rest ih =>
      by_cases hb : b ∈ seen
      · rw [firstMet_cons_of_mem hb]
        exact ih seen
      · rw [firstMet_cons_of_not_mem hb, List.nodup_cons]
        constructor
        · intro h
          exact (mem_firstMet.1 h).2 List.mem_cons_self
        · exact ih (b :: seen)

omit [DecidableEq α] in
theorem findSome?_congr {β : Type v} {f g : α → Option β} {l : List α}
    (h : ∀ a ∈ l, f a = g a) : l.findSome? f = l.findSome? g := by
  induction l with
  | nil => rfl
  | cons b rest ih =>
      rw [List.findSome?_cons, List.findSome?_cons, h b List.mem_cons_self,
        ih fun a ha => h a (List.mem_cons_of_mem b ha)]

omit [DecidableEq α] in
theorem findSome?_filter {β : Type v} {f : α → Option β} {p : α → Bool} {l : List α}
    (h : ∀ a ∈ l, p a = false → f a = none) : (l.filter p).findSome? f = l.findSome? f := by
  induction l with
  | nil => rfl
  | cons b rest ih =>
      have ih' := ih fun a ha => h a (List.mem_cons_of_mem b ha)
      cases hb : p b with
      | true =>
          rw [List.filter_cons_of_pos hb, List.findSome?_cons, List.findSome?_cons, ih']
      | false =>
          rw [List.filter_cons_of_neg (Bool.eq_false_iff.1 hb), List.findSome?_cons,
            h b List.mem_cons_self hb, ih']

/-- A search along a list stops at a first occurrence. -/
theorem findSome?_firstMet {β : Type v} {f : α → Option β} {seen l : List α}
    (hseen : ∀ a ∈ seen, f a = none) : (firstMet seen l).findSome? f = l.findSome? f := by
  induction l generalizing seen with
  | nil => rfl
  | cons b rest ih =>
      rw [List.findSome?_cons]
      by_cases hb : b ∈ seen
      · rw [firstMet_cons_of_mem hb, hseen b hb, ih hseen]
      · rw [firstMet_cons_of_not_mem hb, List.findSome?_cons]
        cases hfb : f b with
        | some _ => rfl
        | none =>
            -- the search goes on, so nothing is found at any seen element, `b` included
            apply ih
            intro a ha
            rcases List.mem_cons.1 ha with rfl | ha
            · exact hfb
            · exact hseen a ha

/-- Taking first occurrences keeps which of two elements is met first. -/
theorem idxOf_firstMet_lt_iff {a b : α} {seen l : List α} (ha : a ∉ seen) (hb : b ∉ seen) :
    (firstMet seen l).idxOf a < (firstMet seen l).idxOf b ↔ l.idxOf a < l.idxOf b := by
  induction l generalizing seen with
  | nil => rfl
  | cons c rest ih =>
      by_cases hc : c ∈ seen
      · have hca : c ≠ a := fun h => ha (h ▸ hc)
        have hcb : c ≠ b := fun h => hb (h ▸ hc)
        rw [firstMet_cons_of_mem hc, List.idxOf_cons_ne _ hca, List.idxOf_cons_ne _ hcb,
          Nat.succ_lt_succ_iff, ih ha hb]
      · rw [firstMet_cons_of_not_mem hc]
        by_cases hcb : c = b
        · subst hcb
          simp
        · by_cases hca : c = a
          · subst hca
            simp [List.idxOf_cons_ne _ hcb]
          · simp only [List.idxOf_cons_ne _ hca, List.idxOf_cons_ne _ hcb, Nat.succ_lt_succ_iff]
            apply ih
            · simp [ha, Ne.symm hca]
            · simp [hb, Ne.symm hcb]

/-! ## The walk -/

section Walk

variable {known : List α} {next : α → List α}

theorem breadthFirst_cons_of_mem {seen : List α} {a : α} (ha : a ∈ seen) (rest : List α) :
    breadthFirst known next seen (a :: rest) = breadthFirst known next seen rest := by
  rw [breadthFirst, if_pos ha]

/-- A new element is listed and its steps are queued. From an unknown element none are taken. -/
theorem breadthFirst_cons_of_not_mem (hknown : ∀ a, a ∉ known → next a = []) {seen : List α}
    {a : α} (ha : a ∉ seen) (rest : List α) :
    breadthFirst known next seen (a :: rest) =
      a :: breadthFirst known next (a :: seen) (rest ++ next a) := by
  rw [breadthFirst, if_neg ha]
  by_cases hk : a ∈ known
  · rw [if_pos hk]
  · rw [if_neg hk, hknown a hk, List.append_nil]

/-- The walk consumes the front of its queue and appends the steps out of what is new there. -/
theorem breadthFirst_append (hknown : ∀ a, a ∉ known → next a = []) (seen front back : List α) :
    breadthFirst known next seen (front ++ back) =
      firstMet seen front ++ breadthFirst known next ((firstMet seen front).reverse ++ seen)
        (back ++ (firstMet seen front).flatMap next) := by
  induction front generalizing seen back with
  | nil => simp
  | cons a rest ih =>
      rw [List.cons_append]
      by_cases ha : a ∈ seen
      · rw [breadthFirst_cons_of_mem ha, firstMet_cons_of_mem ha, ih]
      · -- the steps out of `a` wait behind `back`, in front of those of `rest`
        rw [breadthFirst_cons_of_not_mem hknown ha, firstMet_cons_of_not_mem ha,
          List.append_assoc, ih]
        simp only [List.reverse_cons, List.flatMap_cons, List.append_assoc, List.cons_append,
          List.nil_append]

/-- Elements dropped from a list as seen add nothing new to the steps out of it, where the steps
out of the seen elements are seen. -/
theorem firstMet_flatMap_firstMet {β : Type v} [DecidableEq β] {next : α → List β} {seen : List α}
    {steps : List β} (l : List α) (hsteps : ∀ a ∈ seen, ∀ b ∈ next a, b ∈ steps) :
    firstMet steps ((firstMet seen l).flatMap next) = firstMet steps (l.flatMap next) := by
  induction l generalizing seen steps with
  | nil => rfl
  | cons a rest ih =>
      rw [List.flatMap_cons, firstMet_append]
      by_cases ha : a ∈ seen
      · -- the steps out of a seen element are among `steps` already
        have hset : firstMet (next a ++ steps) (rest.flatMap next) =
            firstMet steps (rest.flatMap next) := by
          apply firstMet_congr
          intro b
          simp only [List.mem_append, or_iff_right_iff_imp]
          exact hsteps a ha b
        rw [firstMet_cons_of_mem ha, firstMet_eq_nil (hsteps a ha), List.nil_append, hset,
          ih hsteps]
      · have hsteps' : ∀ c ∈ a :: seen, ∀ b ∈ next c, b ∈ next a ++ steps := by
          intro c hc b hb
          rcases List.mem_cons.1 hc with rfl | hc
          · exact List.mem_append_left _ hb
          · exact List.mem_append_right _ (hsteps c hc b hb)
        rw [firstMet_cons_of_not_mem ha, List.flatMap_cons, firstMet_append, ih hsteps']

/-- Layers whose lists agree up to seen elements agree up to seen elements. The invariant is that
the steps out of seen elements are seen or stand in the list. -/
theorem firstMet_layers_congr (bound : Nat) {seen l l' : List α}
    (heq : firstMet seen l = firstMet seen l') (hseen : ∀ a ∈ seen, ∀ b ∈ next a, b ∈ l ++ seen) :
    firstMet seen (layers next bound l) = firstMet seen (layers next bound l') := by
  induction bound generalizing seen l l' with
  | zero => rfl
  | succ bound ih =>
      -- after the first layer the same elements are seen on both sides
      have hset : ∀ a, a ∈ l ++ seen ↔ a ∈ l' ++ seen := by
        intro a
        have hmem : a ∈ firstMet seen l ↔ a ∈ firstMet seen l' := by rw [heq]
        simp only [mem_firstMet] at hmem
        simp only [List.mem_append]
        by_cases ha : a ∈ seen
        · simp [ha]
        · simpa [ha] using hmem
      have hsteps : firstMet (l ++ seen) (l.flatMap next) =
          firstMet (l ++ seen) (l'.flatMap next) := by
        rw [← firstMet_flatMap_firstMet l hseen, heq, firstMet_flatMap_firstMet l' hseen]
      have hclosed : ∀ a ∈ l ++ seen, ∀ b ∈ next a, b ∈ l.flatMap next ++ (l ++ seen) := by
        intro a ha b hb
        rcases List.mem_append.1 ha with ha | ha
        · exact List.mem_append_left _ (List.mem_flatMap.2 ⟨a, ha, hb⟩)
        · exact List.mem_append_right _ (hseen a ha b hb)
      rw [layers, layers, firstMet_append, firstMet_append, heq, ih hsteps hclosed,
        firstMet_congr _ hset]

/-- The walk lists the first occurrences in the layers. A rank that drops along steps bounds the
layers, and the seen elements lead to seen elements or into the queue. -/
theorem breadthFirst_eq_firstMet (hknown : ∀ a, a ∉ known → next a = []) {rank : α → Nat}
    (hrank : ∀ a, ∀ b ∈ next a, rank b < rank a) (bound : Nat) {seen queue : List α}
    (hbound : ∀ a ∈ queue, rank a < bound) (hseen : ∀ a ∈ seen, ∀ b ∈ next a, b ∈ queue ++ seen) :
    breadthFirst known next seen queue = firstMet seen (layers next bound queue) := by
  induction bound generalizing seen queue with
  | zero =>
      have hnil : queue = [] := by
        rw [List.eq_nil_iff_forall_not_mem]
        intro a ha
        exact Nat.not_lt_zero _ (hbound a ha)
      rw [hnil, breadthFirst]
      rfl
  | succ bound ih =>
      -- once the queue is consumed, exactly its elements are seen besides those seen before
      have hnew : ∀ a, a ∈ (firstMet seen queue).reverse ++ seen ↔ a ∈ queue ++ seen := by
        intro a
        simp only [List.mem_append, List.mem_reverse, mem_firstMet]
        by_cases ha : a ∈ seen <;> simp [ha]
      have hbound' : ∀ b ∈ (firstMet seen queue).flatMap next, rank b < bound := by
        intro b hb
        obtain ⟨a, ha, hab⟩ := List.mem_flatMap.1 hb
        have hlt := hrank a b hab
        have hle := hbound a (mem_firstMet.1 ha).1
        omega
      have hclosed : ∀ a ∈ (firstMet seen queue).reverse ++ seen, ∀ b ∈ next a,
          b ∈ (firstMet seen queue).flatMap next ++ ((firstMet seen queue).reverse ++ seen) := by
        intro a ha b hb
        rcases List.mem_append.1 ha with ha | ha
        · exact List.mem_append_left _ (List.mem_flatMap.2 ⟨a, List.mem_reverse.1 ha, hb⟩)
        · exact List.mem_append_right _ ((hnew b).2 (hseen a ha b hb))
      have hfront : breadthFirst known next seen queue = firstMet seen queue ++
          breadthFirst known next ((firstMet seen queue).reverse ++ seen)
            ((firstMet seen queue).flatMap next) := by
        simpa only [List.append_nil, List.nil_append] using breadthFirst_append hknown seen queue []
      -- dropping repetitions from the queue changes no first occurrence further on
      have hsteps : firstMet ((firstMet seen queue).reverse ++ seen)
            ((firstMet seen queue).flatMap next) =
          firstMet ((firstMet seen queue).reverse ++ seen) (queue.flatMap next) := by
        apply firstMet_flatMap_firstMet
        intro a ha b hb
        exact (hnew b).2 (hseen a ha b hb)
      rw [hfront, ih hbound' hclosed, firstMet_layers_congr bound hsteps hclosed, layers,
        firstMet_append, firstMet_congr _ hnew]

/-- Walks agree that take the same steps from the elements they get to. -/
theorem breadthFirst_congr {known' : List α} {next' : α → List α} (inside : α → Prop)
    (hnext : ∀ a, inside a → next a = next' a) (hclosed : ∀ a, inside a → ∀ b ∈ next a, inside b)
    (hknown : ∀ a, inside a → (a ∈ known ↔ a ∈ known')) {seen seen' queue : List α}
    (hseen : ∀ a, inside a → (a ∈ seen ↔ a ∈ seen')) (hqueue : ∀ a ∈ queue, inside a) :
    breadthFirst known next seen queue = breadthFirst known' next' seen' queue := by
  fun_induction breadthFirst known next seen queue generalizing seen' with
  | case1 => rw [breadthFirst]
  | case2 seen a rest ha ih =>
      have hin := hqueue a List.mem_cons_self
      rw [breadthFirst, if_pos ((hseen a hin).1 ha)]
      exact ih hseen fun b hb => hqueue b (List.mem_cons_of_mem a hb)
  | case3 seen a rest ha hk ih =>
      -- the queue grows by steps from inside, which stay inside
      have hin := hqueue a List.mem_cons_self
      rw [breadthFirst, if_neg (mt (hseen a hin).2 ha), if_pos ((hknown a hin).1 hk),
        ← hnext a hin]
      refine congrArg _ (ih (fun b hb => by simp [hseen b hb]) fun b hb => ?_)
      rcases List.mem_append.1 hb with hb | hb
      · exact hqueue b (List.mem_cons_of_mem a hb)
      · exact hclosed a hin b hb
  | case4 seen a rest ha hk ih =>
      have hin := hqueue a List.mem_cons_self
      rw [breadthFirst, if_neg (mt (hseen a hin).2 ha), if_neg (mt (hknown a hin).2 hk)]
      exact congrArg _ (ih (fun b hb => by simp [hseen b hb]) fun b hb =>
        hqueue b (List.mem_cons_of_mem a hb))

theorem not_mem_seen_of_mem_breadthFirst {seen queue : List α} {b : α}
    (hb : b ∈ breadthFirst known next seen queue) : b ∉ seen := by
  fun_induction breadthFirst known next seen queue with
  | case1 => exact absurd hb List.not_mem_nil
  | case2 seen a rest ha ih => exact ih hb
  | case3 seen a rest ha hk ih =>
      rcases List.mem_cons.1 hb with rfl | hb
      · exact ha
      · intro h
        exact ih hb (List.mem_cons_of_mem a h)
  | case4 seen a rest ha hk ih =>
      rcases List.mem_cons.1 hb with rfl | hb
      · exact ha
      · intro h
        exact ih hb (List.mem_cons_of_mem a h)

theorem mem_breadthFirst {seen queue : List α} {b : α}
    (hb : b ∈ breadthFirst known next seen queue) : b ∈ queue ∨ ∃ a, b ∈ next a := by
  fun_induction breadthFirst known next seen queue with
  | case1 => exact absurd hb List.not_mem_nil
  | case2 seen a rest ha ih => exact (ih hb).imp_left (List.mem_cons_of_mem a)
  | case3 seen a rest ha hk ih =>
      rcases List.mem_cons.1 hb with rfl | hb
      · exact Or.inl List.mem_cons_self
      · rcases ih hb with hq | hq
        · rcases List.mem_append.1 hq with hq | hq
          · exact Or.inl (List.mem_cons_of_mem a hq)
          · exact Or.inr ⟨a, hq⟩
        · exact Or.inr hq
  | case4 seen a rest ha hk ih =>
      rcases List.mem_cons.1 hb with rfl | hb
      · exact Or.inl List.mem_cons_self
      · exact (ih hb).imp_left (List.mem_cons_of_mem a)

theorem breadthFirst_seen_congr {seen seen' : List α} (queue : List α)
    (h : ∀ a, a ∈ seen ↔ a ∈ seen') :
    breadthFirst known next seen queue = breadthFirst known next seen' queue :=
  breadthFirst_congr (fun _ => True) (fun _ _ => rfl) (fun _ _ _ _ => trivial)
    (fun _ _ => Iff.rfl) (fun a _ => h a) fun _ _ => trivial

/-- Marking an element that leads nowhere as seen takes that element alone out of the walk. -/
theorem breadthFirst_cons_seen {x : α} (hx : next x = []) (seen queue : List α) :
    breadthFirst known next (x :: seen) queue =
      (breadthFirst known next seen queue).filter (· ≠ x) := by
  have hswap : ∀ (a : α) (seen queue : List α), breadthFirst known next (a :: x :: seen) queue =
      breadthFirst known next (x :: a :: seen) queue := fun a seen queue =>
    breadthFirst_seen_congr queue fun b => by simp only [List.mem_cons, or_left_comm]
  have hself : ∀ (seen queue : List α), (breadthFirst known next (x :: seen) queue).filter (· ≠ x) =
      breadthFirst known next (x :: seen) queue := fun seen queue =>
    List.filter_eq_self.2 fun b hb => decide_eq_true fun h =>
      not_mem_seen_of_mem_breadthFirst hb (h ▸ List.mem_cons_self)
  fun_induction breadthFirst known next seen queue with
  | case1 => rw [breadthFirst, List.filter_nil]
  | case2 seen a rest ha ih => rw [breadthFirst, if_pos (List.mem_cons_of_mem x ha), ih]
  | case3 seen a rest ha hk ih =>
      -- `x` itself is dropped by both sides, and it queues nothing
      by_cases hax : a = x
      · subst hax
        rw [breadthFirst, if_pos List.mem_cons_self, List.filter_cons_of_neg (by simp), hx,
          List.append_nil, hself]
      · rw [breadthFirst, if_neg (by simp [hax, ha]), if_pos hk,
          List.filter_cons_of_pos (by simp [hax]), hswap, ih]
  | case4 seen a rest ha hk ih =>
      by_cases hax : a = x
      · subst hax
        rw [breadthFirst, if_pos List.mem_cons_self, List.filter_cons_of_neg (by simp), hself]
      · rw [breadthFirst, if_neg (by simp [hax, ha]), if_neg hk,
          List.filter_cons_of_pos (by simp [hax]), hswap, ih]

end Walk

end Skeletal
