import Mathlib.Data.String.Basic
import Skeletal.FileTree.Discovery

/-!
# Order of relative paths

The order in which discovery lists its paths, told by the place at which two paths part
(`ListedBefore`): a file of the directory where they part comes before what is below a subdirectory
of it, and names of one kind go by code points. It is the strict part of the order that discovery
sorts by (`walkOrder_iff`), which is total and transitive.
-/

set_option autoImplicit false

namespace Skeletal

/-- One relative path is listed before another. -/
inductive ListedBefore : List String → List String → Prop
  | files {a b : String} (h : a < b) : ListedBefore [a] [b]
  | fileFirst {a d : String} {rest : List String} (hrest : rest ≠ []) :
      ListedBefore [a] (d :: rest)
  | directories {d e : String} {rest rest' : List String} (h : d < e) (hrest : rest ≠ [])
      (hrest' : rest' ≠ []) : ListedBefore (d :: rest) (e :: rest')
  | inside {d : String} {rest rest' : List String} (h : ListedBefore rest rest') :
      ListedBefore (d :: rest) (d :: rest')

variable {a b c : List String}

namespace ListedBefore

theorem ne_nil_left (h : ListedBefore a b) : a ≠ [] := by
  cases h <;> exact List.cons_ne_nil _ _

theorem ne_nil_right (h : ListedBefore a b) : b ≠ [] := by
  cases h <;> exact List.cons_ne_nil _ _

theorem trans (hab : ListedBefore a b) (hbc : ListedBefore b c) : ListedBefore a c := by
  -- on where the first two part; the third parts from the second there, above or below
  induction hab generalizing c with
  | files h =>
      cases hbc with
      | files h' => exact .files (h.trans h')
      | fileFirst hrest => exact .fileFirst hrest
      | directories _ hrest _ => exact absurd rfl hrest
      | inside h' => exact absurd rfl h'.ne_nil_left
  | fileFirst hrest =>
      cases hbc with
      | files _ => exact absurd rfl hrest
      | fileFirst _ => exact absurd rfl hrest
      | directories _ _ hrest' => exact .fileFirst hrest'
      | inside h' => exact .fileFirst h'.ne_nil_right
  | directories h hrest hrest' =>
      cases hbc with
      | files _ => exact absurd rfl hrest'
      | fileFirst _ => exact absurd rfl hrest'
      | directories h' _ hrest'' => exact .directories (h.trans h') hrest hrest''
      | inside h' => exact .directories h hrest h'.ne_nil_right
  | inside h ih =>
      cases hbc with
      | files _ => exact absurd rfl h.ne_nil_right
      | fileFirst _ => exact absurd rfl h.ne_nil_right
      | directories h' _ hrest'' => exact .directories h' h.ne_nil_left hrest''
      | inside h' => exact .inside (ih h')

theorem irrefl (a : List String) : ¬ ListedBefore a a := by
  intro h
  induction a with
  | nil => exact h.ne_nil_left rfl
  | cons d rest ih =>
      cases h with
      | files h => exact lt_irrefl d h
      | fileFirst hrest => exact hrest rfl
      | directories h _ _ => exact lt_irrefl d h
      | inside h => exact ih h

theorem asymm (hab : ListedBefore a b) : ¬ ListedBefore b a :=
  fun hba => irrefl a (hab.trans hba)

theorem nodup {paths : List (List String)} (h : paths.Pairwise ListedBefore) : paths.Nodup := by
  refine h.imp fun hab heq => ?_
  subst heq
  exact irrefl _ hab

/-- The same paths, each listed before those behind it, are the same list. -/
theorem eq_of_mem_iff {paths others : List (List String)} (h : paths.Pairwise ListedBefore)
    (h' : others.Pairwise ListedBefore) (hmem : ∀ path, path ∈ paths ↔ path ∈ others) :
    paths = others := by
  have hperm : paths.Perm others := (List.perm_ext_iff_of_nodup (nodup h) (nodup h')).2 hmem
  exact List.Perm.eq_of_pairwise (fun _ _ _ _ hab hba => absurd hba hab.asymm) h h' hperm

theorem singleton_iff {x y : String} : ListedBefore [x] [y] ↔ x < y := by
  constructor
  · intro h
    cases h with
    | files h => exact h
    | fileFirst hrest => exact absurd rfl hrest
    | directories _ hrest _ => exact absurd rfl hrest
    | inside h => exact absurd rfl h.ne_nil_left
  · exact .files

/-- Of what is below subdirectories their names decide, and inside of one what follows. -/
theorem cons_iff {d e : String} (ha : a ≠ []) (hb : b ≠ []) :
    ListedBefore (d :: a) (e :: b) ↔ d < e ∨ d = e ∧ ListedBefore a b := by
  constructor
  · intro h
    cases h with
    | files _ => exact absurd rfl ha
    | fileFirst _ => exact absurd rfl ha
    | directories h _ _ => exact Or.inl h
    | inside h => exact Or.inr ⟨rfl, h⟩
  · rintro (h | ⟨rfl, h⟩)
    · exact .directories h ha hb
    · exact .inside h

/-- What is below a subdirectory is not listed before a file. -/
theorem not_cons_singleton {d x : String} (ha : a ≠ []) : ¬ ListedBefore (d :: a) [x] := by
  intro h
  cases h with
  | files _ => exact ha rfl
  | fileFirst hrest => exact hrest rfl
  | directories _ _ hrest => exact hrest rfl
  | inside h => exact h.ne_nil_right rfl

end ListedBefore

/-! ## The order that discovery sorts by -/

/-- Discovery sorts by the strict order and equality. -/
theorem walkOrder_iff (ha : a ≠ []) (hb : b ≠ []) :
    walkOrder a b = true ↔ a = b ∨ ListedBefore a b := by
  fun_induction walkOrder a b with
  | case1 => exact absurd rfl ha
  | case2 => exact absurd rfl hb
  | case3 x y =>
      rw [decide_eq_true_eq, le_iff_eq_or_lt, List.singleton_inj, ListedBefore.singleton_iff]
  | case4 x e f rest => exact iff_of_true rfl (Or.inr (.fileFirst (List.cons_ne_nil f rest)))
  | case5 d e rest y =>
      refine iff_of_false Bool.false_ne_true ?_
      rintro (h | h)
      · cases h
      · exact ListedBefore.not_cons_singleton (List.cons_ne_nil e rest) h
  | case6 x rest d y rest' ih =>
      rw [ih (List.cons_ne_nil x rest) (List.cons_ne_nil y rest'), List.cons.injEq,
        ListedBefore.cons_iff (List.cons_ne_nil x rest) (List.cons_ne_nil y rest')]
      simp
  | case7 d x rest e y rest' hne =>
      rw [decide_eq_true_eq, le_iff_eq_or_lt, List.cons.injEq,
        ListedBefore.cons_iff (List.cons_ne_nil x rest) (List.cons_ne_nil y rest')]
      simp [hne]

theorem walkOrder_total (a b : List String) : (walkOrder a b || walkOrder b a) = true := by
  rw [Bool.or_eq_true]
  fun_induction walkOrder a b with
  | case1 => exact Or.inl rfl
  | case2 => exact Or.inr rfl
  | case3 x y =>
      rw [walkOrder, decide_eq_true_eq, decide_eq_true_eq]
      exact le_total x y
  | case4 => exact Or.inl rfl
  | case5 => exact Or.inr rfl
  | case6 x rest d y rest' ih =>
      rw [walkOrder, if_pos rfl]
      exact ih
  | case7 d x rest e y rest' hne =>
      rw [walkOrder, if_neg (Ne.symm hne), decide_eq_true_eq, decide_eq_true_eq]
      exact le_total d e

/-- Only the empty path is not behind the empty path. -/
theorem ne_nil_of_walkOrder (hab : walkOrder a b = true) (ha : a ≠ []) : b ≠ [] := by
  rintro rfl
  cases a with
  | nil => exact ha rfl
  | cons x rest => cases hab

theorem walkOrder_trans (hab : walkOrder a b = true) (hbc : walkOrder b c = true) :
    walkOrder a c = true := by
  by_cases ha : a = []
  · rw [ha, walkOrder]
  · have hb := ne_nil_of_walkOrder hab ha
    have hc := ne_nil_of_walkOrder hbc hb
    rw [walkOrder_iff ha hc]
    rcases (walkOrder_iff ha hb).1 hab with rfl | hab
    · exact (walkOrder_iff hb hc).1 hbc
    · rcases (walkOrder_iff hb hc).1 hbc with rfl | hbc
      · exact Or.inr hab
      · exact Or.inr (hab.trans hbc)

theorem pairwise_mergeSort_walkOrder (paths : List (List String)) :
    (paths.mergeSort walkOrder).Pairwise fun a b => walkOrder a b = true := by
  refine List.pairwise_mergeSort ?_ walkOrder_total paths
  exact fun a b c hab hbc => walkOrder_trans hab hbc

/-- Distinct paths are sorted so that each is listed before those behind it. -/
theorem pairwise_listedBefore_mergeSort {paths : List (List String)} (hnodup : paths.Nodup)
    (hne : ∀ path ∈ paths, path ≠ []) : (paths.mergeSort walkOrder).Pairwise ListedBefore := by
  have hmem : ∀ path ∈ paths.mergeSort walkOrder, path ≠ [] :=
    fun path h => hne path (List.mem_mergeSort.1 h)
  have hdistinct : (paths.mergeSort walkOrder).Nodup :=
    (List.mergeSort_perm paths walkOrder).nodup_iff.2 hnodup
  refine ((pairwise_mergeSort_walkOrder paths).and hdistinct).imp_of_mem ?_
  rintro a b ha hb ⟨hab, hdifferent⟩
  exact ((walkOrder_iff (hmem a ha) (hmem b hb)).1 hab).resolve_left hdifferent

end Skeletal
