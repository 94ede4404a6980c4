import Mathlib.Data.List.Nodup

/-!
# Look-ups by key

A look-up in a list of keys and values finds the first value of a key. Where no key comes twice it
finds the value of every key (`lookup_eq_some_of_mem`).
-/

set_option autoImplicit false

namespace Skeletal

variable {α β : Type} [BEq α] [LawfulBEq α] {l : List (α × β)} {a : α} {b : β}

/-- A look among the keys that are kept. -/
theorem lookup_filter (keep : α → Bool) (l : List (α × β)) (a : α) :
    (l.filter fun e => keep e.1).lookup a = if keep a then l.lookup a else none := by
  induction l with
  | nil => simp
  | cons e rest ih =>
      obtain ⟨key, value⟩ := e
      by_cases hkey : a = key
      · subst hkey
        cases hkeep : keep a with
        | true => simp [hkeep]
        | false => simpa [hkeep] using ih
      · have hbeq : (a == key) = false := beq_eq_false_iff_ne.2 hkey
        cases hkeep : keep key with
        | true => simpa [List.filter_cons, hkeep, List.lookup_cons, hbeq] using ih
        | false => simpa [List.filter_cons, hkeep, List.lookup_cons, hbeq] using ih

theorem mem_of_lookup_eq_some (h : l.lookup a = some b) : (a, b) ∈ l := by
  obtain ⟨before, after, rfl, -⟩ := List.lookup_eq_some_iff.1 h
  exact List.mem_append_right _ List.mem_cons_self

/-- If the keys are distinct, each is looked up to its value. -/
theorem lookup_eq_some_of_mem (hkeys : (l.map Prod.fst).Nodup) (h : (a, b) ∈ l) :
    l.lookup a = some b := by
  obtain ⟨before, after, rfl⟩ := List.append_of_mem h
  rw [List.map_append, List.map_cons] at hkeys
  refine List.lookup_eq_some_iff.2 ⟨before, after, rfl, fun p hp => ?_⟩
  -- the key stands behind `p`, which has another
  have hne : a ≠ p.1 := by
    rintro rfl
    exact List.disjoint_of_nodup_append hkeys (List.mem_map_of_mem hp) List.mem_cons_self
  simpa using hne

end Skeletal
