/-!
# Breadth-first reach

Elements met by following steps breadth first, each once and in the order of meeting. Only known
elements are stepped from, so the walk ends: every expansion takes a known element out of the
unseen ones, and all else shortens the queue.
-/

set_option autoImplicit false

namespace Skeletal

universe u

variable {α : Type u} [DecidableEq α]

/-- Elements met from `queue` on that are not among `seen`. Steps lead from an element to those
in `next`, and are taken from the elements of `known`. -/
def breadthFirst (known : List α) (next : α → List α) (seen queue : List α) : List α :=
  match queue with
  | [] => []
  | a :: rest =>
    if a ∈ seen then breadthFirst known next seen rest
    else if a ∈ known then a :: breadthFirst known next (a :: seen) (rest ++ next a)
    else a :: breadthFirst known next (a :: seen) rest
termination_by ((known.filter (· ∉ seen)).length, queue.length)
decreasing_by
  · exact Prod.Lex.right _ (by simp)
  · rename_i h₁ h₂
    refine Prod.Lex.left _ _ ?_
    have hsub : known.filter (· ∉ a :: seen) =
        (known.filter (· ∉ seen)).filter (fun b => decide (b ≠ a)) := by
      rw [List.filter_filter]
      refine List.filter_congr fun b _ => ?_
      simp
    rw [hsub]
    exact List.length_filter_lt_length_iff_exists.2 ⟨a, by simp [h₁, h₂], by simp⟩
  · rename_i h₁ h₂
    have hsame : known.filter (· ∉ a :: seen) = known.filter (· ∉ seen) := by
      refine List.filter_congr fun b hb => ?_
      have hne : b ≠ a := fun h => h₂ (h ▸ hb)
      simp [hne]
    rw [hsame]
    exact Prod.Lex.right _ (by simp)

end Skeletal
