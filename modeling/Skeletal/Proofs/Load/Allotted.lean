import Skeletal.Proofs.Load.Loaded

/-!
# Places of direct supertypes

A direct supertype of a loaded type stands at the place that the layout has for it, or it is an
array or a view and then was added for this reference alone (`Allots`). What is added comes behind
all that was there, so that no two references share an added type: neither two of one loaded type
(`allots_loadedPlace`) nor two of different ones (`eq_of_added`).
-/

set_option autoImplicit false

namespace Skeletal.Load

open Layout (firstLoaded)

variable {layout : Layout} {u : Universe} {r : SupertypeReference}
  {rs rs' : List SupertypeReference} {ts ts' : List TypeId} {low middle high t : Nat}
  {l : Linked} {linked : List Linked} {known : List Declared} {d e : Declared}

/-- A reference that adds no type: it is to a type as it is, which is not seen with arguments. -/
def SupertypeReference.IsPlain (r : SupertypeReference) : Prop :=
  r.base.dimensions = 0 ∧ ∀ place, r.base.target = .standard place →
    (standard.get place).typeParameters = [] ∨
      r.arguments.length ≠ (standard.get place).typeParameters.length

/-- References to the direct supertypes: the superclass, then the interfaces. -/
def Linked.supertypes (l : Linked) : List SupertypeReference := l.superclass.toList ++ l.interfaces

/-- The types of references: a plain one has the place of its target, and for any other one a type
is added. Added types ascend from `low` on and end before `high`. -/
inductive Allots (layout : Layout) : Nat → List SupertypeReference → List TypeId → Nat → Prop
  | nil {low high : Nat} (le : low ≤ high) : Allots layout low [] [] high
  | plain {low high : Nat} {r : SupertypeReference} {rs : List SupertypeReference}
      {ts : List TypeId} (plain : r.IsPlain) (covers : layout.Covers r.base.target)
      (rest : Allots layout low rs ts high) :
      Allots layout low (r :: rs) (layout.place r.base.target :: ts) high
  | added {low middle high : Nat} {r : SupertypeReference} {rs : List SupertypeReference}
      {t : TypeId} {ts : List TypeId} (added : ¬ r.IsPlain) (le : low ≤ t) (lt : t < middle)
      (rest : Allots layout middle rs ts high) : Allots layout low (r :: rs) (t :: ts) high

namespace Allots

theorem le (h : Allots layout low rs ts high) : low ≤ high := by
  induction h with
  | nil le => exact le
  | plain _ _ _ ih => exact ih
  | added _ le lt _ ih => exact (le.trans lt.le).trans ih

theorem of_le (h : Allots layout middle rs ts high) (hle : low ≤ middle) :
    Allots layout low rs ts high := by
  induction h with
  | nil le => exact .nil (hle.trans le)
  | plain plain covers _ ih => exact .plain plain covers (ih hle)
  | added added le lt rest _ => exact .added added (hle.trans le) lt rest

theorem mono (h : Allots layout low rs ts middle) (hle : middle ≤ high) :
    Allots layout low rs ts high := by
  induction h with
  | nil le => exact .nil (le.trans hle)
  | plain plain covers _ ih => exact .plain plain covers (ih hle)
  | added added le lt _ ih => exact .added added le lt (ih hle)

theorem append (h : Allots layout low rs ts middle) (h' : Allots layout middle rs' ts' high) :
    Allots layout low (rs ++ rs') (ts ++ ts') high := by
  induction h with
  | nil le => exact h'.of_le le
  | plain plain covers _ ih => exact .plain plain covers (ih h')
  | added added le lt _ ih => exact .added added le lt (ih h')

/-- What stands at an index is the place of a target or was added. -/
theorem getElem? (h : Allots layout low rs ts high) {i : Nat} (ht : ts[i]? = some t) :
    ∃ r, rs[i]? = some r ∧
      (r.IsPlain ∧ layout.Covers r.base.target ∧ t = layout.place r.base.target ∨
        ¬ r.IsPlain ∧ low ≤ t ∧ t < high) := by
  induction h generalizing i with
  | nil _ => simp at ht
  | @plain low high r rs ts plain covers _ ih =>
      cases i with
      | zero => exact ⟨r, rfl, Or.inl ⟨plain, covers, (Option.some.inj ht).symm⟩⟩
      | succ i => exact ih ht
  | @added low middle high r rs t' ts added le lt rest ih =>
      cases i with
      | zero =>
          obtain rfl := Option.some.inj ht
          exact ⟨r, rfl, Or.inr ⟨added, le, lt.trans_le rest.le⟩⟩
      | succ i =>
          obtain ⟨r', hr', hcase⟩ := ih ht
          refine ⟨r', hr', hcase.imp_right fun ⟨hadded, hle, hlt⟩ => ?_⟩
          exact ⟨hadded, (le.trans lt.le).trans hle, hlt⟩

theorem of_mem (h : Allots layout low rs ts high) (ht : t ∈ ts) (hsize : layout.size ≤ t) :
    low ≤ t ∧ t < high := by
  obtain ⟨i, hi⟩ := List.mem_iff_getElem?.1 ht
  obtain ⟨r, -, ⟨-, hcovers, rfl⟩ | ⟨-, hbetween⟩⟩ := h.getElem? hi
  · exact absurd (Layout.place_lt_size hcovers) (Nat.not_lt.2 hsize)
  · exact hbetween

/-- Added types ascend. -/
theorem pairwise (h : Allots layout low rs ts high) :
    ts.Pairwise fun s t => layout.size ≤ s → layout.size ≤ t → s < t := by
  induction h with
  | nil _ => exact List.Pairwise.nil
  | plain _ covers _ ih =>
      refine List.Pairwise.cons (fun t _ hs => ?_) ih
      exact absurd (Layout.place_lt_size covers) (Nat.not_lt.2 hs)
  | added _ _ lt rest ih =>
      refine List.Pairwise.cons (fun t ht _ hsize => ?_) ih
      exact lt.trans_le (rest.of_mem ht hsize).1

/-- An added type stands at one index alone. -/
theorem index_eq (h : Allots layout low rs ts high) (hsize : layout.size ≤ t) {i j : Nat}
    (hi : ts[i]? = some t) (hj : ts[j]? = some t) : i = j := by
  obtain ⟨hi', rfl⟩ := List.getElem?_eq_some_iff.1 hi
  obtain ⟨hj', heq⟩ := List.getElem?_eq_some_iff.1 hj
  have hpairwise := List.pairwise_iff_getElem.1 h.pairwise
  rcases Nat.lt_trichotomy i j with hlt | heq' | hlt
  · exact absurd (hpairwise i j hi' hj' hlt hsize (heq ▸ hsize)) (heq ▸ Nat.lt_irrefl _)
  · exact heq'
  · exact absurd (hpairwise j i hj' hi' hlt (heq ▸ hsize) hsize) (heq ▸ Nat.lt_irrefl _)

end Allots

/-! ## What realizing adds -/

/-- An array type is added behind all that was there. -/
theorem between_arrayOf (root component : TypeId) (dimensions : Nat) (u : Universe) :
    u.size ≤ (arrayOf root component (dimensions + 1) u).1 ∧
      (arrayOf root component (dimensions + 1) u).1 <
        (arrayOf root component (dimensions + 1) u).2.size := by
  have hsize : ∀ dimensions, u.size ≤ (arrayOf root component dimensions u).2.size := by
    intro dimensions
    induction dimensions with
    | zero => exact le_rfl
    | succ dimensions ih =>
        refine Nat.le_succ_of_le ih |>.trans (le_of_eq ?_)
        exact (Universe.size_push _ _).symm
  refine ⟨hsize dimensions, ?_⟩
  have hlast : (arrayOf root component (dimensions + 1) u).2.size =
      (arrayOf root component dimensions u).2.size + 1 := Universe.size_push _ _
  rw [hlast]
  exact Nat.lt_succ_self _

theorem takesArguments_iff {place : TypeId} {arguments : List TypeId} :
    standard.takesArguments place arguments = true ↔
      (standard.get place).typeParameters ≠ [] ∧
        arguments.length = (standard.get place).typeParameters.length := by
  simp [Universe.takesArguments]

/-- A type of the layout is seen with arguments exactly where the reference to it is not plain. -/
theorem isPlain_iff (layout : Layout) (hdimensions : r.base.dimensions = 0)
    {arguments : List TypeId} (hlength : arguments.length = r.arguments.length) : r.IsPlain ↔
      standard.takesArguments (layout.place r.base.target) arguments = false := by
  rw [SupertypeReference.IsPlain, ← Bool.not_eq_true, takesArguments_iff, hlength]
  cases htarget : r.base.target with
  | standard place =>
      rw [not_and_or, not_not]
      simp [hdimensions, Layout.place]
  | declared c =>
      have hle : standard.size ≤ layout.place (.declared c) := Nat.le_add_right _ _
      simp [hdimensions, Universe.get_of_size_le hle, Descriptor.blank]
  | outside c =>
      have hle : standard.size ≤ layout.place (.outside c) :=
        (Nat.le_add_right _ _).trans (Nat.le_add_right _ _)
      simp [hdimensions, Universe.get_of_size_le hle, Descriptor.blank]

/-- The type of a reference is its target, or it was added. -/
theorem cases_realizeSupertype (hu : Founded layout u)
    (h : ∀ target ∈ r.targets, layout.Covers target) :
    r.IsPlain ∧ (realizeSupertype layout r u).1 = layout.place r.base.target ∨
      ¬ r.IsPlain ∧ u.size ≤ (realizeSupertype layout r u).1 ∧
        (realizeSupertype layout r u).1 < (realizeSupertype layout r u).2.size := by
  have hcovers : ∀ a ∈ r.base :: r.arguments, layout.Covers a.target :=
    fun a ha => h _ (List.mem_map_of_mem ha)
  rw [List.forall_mem_cons] at hcovers
  have hbase := growth_realizeReference hu hcovers.1
  have harguments := growth_references hbase.founded hcovers.2
  have hlength := (harguments.value _ (Continues.refl _ _)).length_eq
  have hrun : realizeSupertype layout r u =
      parameterize Standard.object (realizeReference layout r.base u).1
        (r.arguments.mapM (realizeReference layout) (realizeReference layout r.base u).2).1
        (r.arguments.mapM (realizeReference layout) (realizeReference layout r.base u).2).2 := rfl
  -- whether the type is seen with arguments is decided among the standard types
  rw [hrun, parameterize, takesArguments_eq harguments.founded]
  generalize r.arguments.mapM (realizeReference layout) (realizeReference layout r.base u).2 =
    seen at harguments hlength
  have hsize : u.size ≤ seen.2.size := hbase.continues.size_le.trans harguments.continues.size_le
  cases hdimensions : r.base.dimensions with
  | zero =>
      have hplace : (realizeReference layout r.base u).1 = layout.place r.base.target := by
        rw [realizeReference, hdimensions]
        rfl
      rw [isPlain_iff layout hdimensions hlength.symm, hplace]
      split_ifs with htakes
      · refine Or.inr ⟨by simp [htakes], hsize, ?_⟩
        exact (Nat.lt_succ_self _).trans_eq (Universe.size_push _ _).symm
      · exact Or.inl ⟨Bool.eq_false_iff.2 htakes, rfl⟩
  | succ dimensions =>
      have hadded := between_arrayOf Standard.object (layout.place r.base.target) dimensions u
      rw [← hdimensions] at hadded
      have hle : firstLoaded ≤ (realizeReference layout r.base u).1 :=
        ((Nat.le_add_right _ _).trans (firstLoaded_le_size hu)).trans hadded.1
      rw [if_neg fun htakes => Nat.not_lt.2 hle (lt_of_takesArguments htakes)]
      refine Or.inr ⟨fun hplain => ?_, hadded.1, ?_⟩
      · exact absurd (hplain.1.symm.trans hdimensions) (Nat.succ_ne_zero _).symm
      · exact hadded.2.trans_le harguments.continues.size_le

theorem allots_cons (hu : Founded layout u) (h : ∀ target ∈ r.targets, layout.Covers target)
    (hrest : Allots layout (realizeSupertype layout r u).2.size rs ts high) :
    Allots layout u.size (r :: rs) ((realizeSupertype layout r u).1 :: ts) high := by
  have hsize := (growth_realizeSupertype hu h).continues.size_le
  rcases cases_realizeSupertype hu h with ⟨hplain, hplace⟩ | ⟨hadded, hle, hlt⟩
  · rw [hplace]
    exact .plain hplain (h _ (List.mem_map_of_mem List.mem_cons_self)) (hrest.of_le hsize)
  · exact .added hadded hle hlt hrest

theorem allots_mapM (hu : Founded layout u)
    (h : ∀ r ∈ rs, ∀ target ∈ r.targets, layout.Covers target) :
    Allots layout u.size rs (rs.mapM (realizeSupertype layout) u).1
      (rs.mapM (realizeSupertype layout) u).2.size := by
  induction rs generalizing u with
  | nil =>
      rw [List.mapM_nil]
      exact .nil le_rfl
  | cons r rest ih =>
      rw [List.mapM_cons]
      have hr := h r List.mem_cons_self
      have hrest := ih (growth_realizeSupertype hu hr).founded
        fun r' hr' => h r' (List.mem_cons_of_mem r hr')
      exact allots_cons hu hr hrest

theorem allots_option_mapM {o : Option SupertypeReference} (hu : Founded layout u)
    (h : ∀ r ∈ o, ∀ target ∈ r.targets, layout.Covers target) :
    Allots layout u.size o.toList (o.mapM (realizeSupertype layout) u).1.toList
      (o.mapM (realizeSupertype layout) u).2.size := by
  cases o with
  | none => exact .nil le_rfl
  | some r => exact allots_cons hu (h r rfl) (.nil le_rfl)

/-- The direct supertypes of one type. -/
theorem allots_realize (hu : Founded layout u) (hl : l.Placed layout) :
    Allots layout u.size l.supertypes (realize layout l u).1.directSupertypes
      (realize layout l u).2.size := by
  have htargets := hl.targets
  simp only [Linked.targets, List.mem_append, List.mem_flatMap, Option.mem_toList] at htargets
  have hsuperclass : ∀ r ∈ l.superclass, ∀ target ∈ r.targets, layout.Covers target :=
    fun r hr target h => htargets target (Or.inl ⟨r, Or.inl hr, h⟩)
  have hinterfaces : ∀ r ∈ l.interfaces, ∀ target ∈ r.targets, layout.Covers target :=
    fun r hr target h => htargets target (Or.inl ⟨r, Or.inr hr, h⟩)
  have hmembers : ∀ m ∈ l.constructors ++ l.methods, ∀ target ∈ m.targets, layout.Covers target :=
    fun m hm target h => htargets target (Or.inr ⟨m, List.mem_append.1 hm, h⟩)
  have h₁ := Growth.option_mapM hu fun r hr v hv => growth_realizeSupertype hv (hsuperclass r hr)
  have h₂ := Growth.mapM h₁.founded fun r hr v hv => growth_realizeSupertype hv (hinterfaces r hr)
  have h₃ := Growth.mapM h₂.founded fun m hm v hv => growth_realizeMember hv
    (layout.loadedPlace l.declared.canonical) (hmembers m (List.mem_append_right _ hm))
  have h₄ := Growth.mapM h₃.founded fun m hm v hv => growth_realizeMember hv
    (layout.loadedPlace l.declared.canonical) (hmembers m (List.mem_append_left _ hm))
  -- members are realized after the supertypes, and what they add comes behind
  exact ((allots_option_mapM hu hsuperclass).append (allots_mapM h₁.founded hinterfaces)).mono
    (h₃.continues.size_le.trans h₄.continues.size_le)

/-- The direct supertypes of some types, one after another. -/
theorem allots_mapM_realize (hu : Founded layout u) (hlinked : ∀ l ∈ linked, l.Placed layout) :
    List.Forall₂ (fun l d => ∃ low high, u.size ≤ low ∧
        high ≤ (linked.mapM (realize layout) u).2.size ∧
        Allots layout low l.supertypes d.directSupertypes high)
      linked (linked.mapM (realize layout) u).1 ∧
    (linked.mapM (realize layout) u).1.Pairwise fun d e => ∀ s ∈ d.directSupertypes,
      ∀ t ∈ e.directSupertypes, layout.size ≤ s → layout.size ≤ t → s < t := by
  induction linked generalizing u with
  | nil =>
      rw [List.mapM_nil]
      exact ⟨List.Forall₂.nil, List.Pairwise.nil⟩
  | cons l rest ih =>
      rw [List.mapM_cons]
      have hl := hlinked l List.mem_cons_self
      have hfirst := allots_realize hu hl
      have hgrowth := growth_realize hu hl
      have hrest := fun l' hl' => hlinked l' (List.mem_cons_of_mem l hl')
      have hsize := (Growth.mapM hgrowth.founded fun l' hl' v hv =>
        growth_realize hv (hrest l' hl')).continues.size_le
      obtain ⟨hall, hpairwise⟩ := ih hgrowth.founded hrest
      -- what the first type adds comes before what the others add
      refine ⟨List.Forall₂.cons ⟨_, _, le_rfl, hsize, hfirst⟩ (hall.imp ?_),
        List.Pairwise.cons ?_ hpairwise⟩
      · rintro l' d ⟨low, high, hle, hhigh, hallots⟩
        exact ⟨low, high, hgrowth.continues.size_le.trans hle, hhigh, hallots⟩
      · intro e he s hs t ht hsize_s hsize_t
        obtain ⟨l', -, low, high, hle, -, hallots⟩ := exists_mem_of_forall₂ hall he
        exact ((hfirst.of_mem hs hsize_s).2.trans_le hle).trans_le (hallots.of_mem ht hsize_t).1

/-! ## Loaded types -/

section

variable (h : WellDeclared known)

include h

/-- What a loaded type is realized to stands in its place. -/
theorem exists_realized (hd : d ∈ known) : ∃ i, ∃ hi : i < (realized (linkAll known)).1.length,
    ∃ hi' : i < (linkAll known).length, known[i]? = some d ∧
      (linkAll known)[i] = link (isTaken known) d ∧
      (realizeAll (linkAll known)).get ((layoutOf known).loadedPlace d.canonical) =
        (realized (linkAll known)).1[i] := by
  obtain ⟨i, hi, rfl⟩ := List.mem_iff_getElem.1 hd
  have hlength := length_realized (placed_linkAll h)
  have hi' : i < (linkAll known).length := by simpa [linkAll] using hi
  have hi'' : i < (realized (linkAll known)).1.length := by rwa [hlength, length_loaded]
  refine ⟨i, hi'', hi', List.getElem?_eq_getElem hi, by simp [linkAll], ?_⟩
  rw [loadedPlace_getElem h hi, get_realizeAll_loaded (placed_linkAll h)]

/-- The direct supertypes of a loaded type. -/
theorem allots_loadedPlace (hd : d ∈ known) : ∃ low high, (layoutOf known).size ≤ low ∧
    high ≤ (realizeAll (linkAll known)).size ∧
    Allots (layoutOf known) low (link (isTaken known) d).supertypes
      ((realizeAll (linkAll known)).get
        ((layoutOf known).loadedPlace d.canonical)).directSupertypes high := by
  obtain ⟨i, hi, hi', -, hlink, hget⟩ := exists_realized h hd
  have hfounded := founded_shells (linkAll known)
  obtain ⟨hall, -⟩ := allots_mapM_realize hfounded (placed_linkAll h)
  obtain ⟨low, high, hlow, hhigh, hallots⟩ := hall.get hi' hi
  rw [List.get_eq_getElem, List.get_eq_getElem, hlink] at hallots
  rw [hget]
  exact ⟨low, high, hfounded.size_le.trans hlow,
    hhigh.trans (continues_realizeAll (placed_linkAll h)).size_le, hallots⟩

/-- An added type is a direct supertype of one loaded type alone. -/
theorem eq_of_added (hd : d ∈ known) (he : e ∈ known) (hsize : (layoutOf known).size ≤ t)
    (htd : t ∈ ((realizeAll (linkAll known)).get
      ((layoutOf known).loadedPlace d.canonical)).directSupertypes)
    (hte : t ∈ ((realizeAll (linkAll known)).get
      ((layoutOf known).loadedPlace e.canonical)).directSupertypes) : d = e := by
  obtain ⟨i, hi, -, hknown, -, hget⟩ := exists_realized h hd
  obtain ⟨j, hj, -, hknown', -, hget'⟩ := exists_realized h he
  obtain ⟨-, hpairwise⟩ :=
    allots_mapM_realize (founded_shells (linkAll known)) (placed_linkAll h)
  rw [hget] at htd
  rw [hget'] at hte
  rcases Nat.lt_trichotomy i j with hlt | rfl | hlt
  · have hless := List.pairwise_iff_getElem.1 hpairwise i j hi hj hlt t htd t hte hsize hsize
    exact absurd hless (Nat.lt_irrefl t)
  · exact Option.some.inj (hknown.symm.trans hknown')
  · have hless := List.pairwise_iff_getElem.1 hpairwise j i hj hi hlt t hte t htd hsize hsize
    exact absurd hless (Nat.lt_irrefl t)

end

end Skeletal.Load
