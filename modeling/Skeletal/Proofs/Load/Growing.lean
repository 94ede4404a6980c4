import Mathlib.Data.List.Forall2
import Skeletal.Load.Realized
import Skeletal.Proofs.Universe.Hierarchy

/-!
# Growing universes

While types are realized, arrays and views are added behind the places that the layout gives out.
`Founded` is what holds of the universe all along, and `Continues` relates it to what it becomes: no
type is lost or renamed, and only loaded types change, once they are filled in. `Growth` speaks of
one computation. The value it gives is described in every universe that continues the one it leaves
behind, so that a description is still good when everything is in place.
-/

set_option autoImplicit false

namespace Skeletal

theorem Universe.get_push (u : Universe) (d : Descriptor) (t : TypeId) :
    (u.push d).get t = if t = u.size then d else u.get t := by
  split_ifs with h
  · rw [h, Universe.get_push_size]
  · rcases Nat.lt_or_gt_of_ne h with h | h
    · exact Universe.get_push_of_lt u d h
    · rw [Universe.get_of_size_le h.le, Universe.get_of_size_le]
      rw [Universe.size_push]
      omega

namespace Load

namespace Layout

/-- Number of places that are given out before arrays and views are added. -/
def size (layout : Layout) : Nat := firstLoaded + layout.loaded.length + layout.outside.length

/-- The target has a place of its own. -/
def Covers (layout : Layout) : Target → Prop
  | .standard place => place < firstLoaded
  | .declared canonical => canonical ∈ layout.loaded
  | .outside canonical => canonical ∈ layout.outside

variable {layout : Layout} {target : Target}

theorem place_lt_size (h : layout.Covers target) : layout.place target < layout.size := by
  cases target with
  | standard place => exact Nat.lt_add_right _ (Nat.lt_add_right _ h)
  | declared canonical =>
      exact Nat.lt_add_right _ (Nat.add_lt_add_left (List.idxOf_lt_length_iff.2 h) _)
  | outside canonical => exact Nat.add_lt_add_left (List.idxOf_lt_length_iff.2 h) _

end Layout

open Layout (firstLoaded)

variable {layout : Layout} {u v w : Universe} {t : TypeId} {d : Descriptor} {α β : Type}

/-! ## Founded universes -/

/-- Universe in which the places of a layout are given out. Type parameters are left to standard
types, and what stands behind the loaded types inherits from standard types alone. -/
structure Founded (layout : Layout) (u : Universe) : Prop where
  size_le : layout.size ≤ u.size
  standard : ∀ t < firstLoaded, u.get t = Skeletal.standard.get t
  loaded : ∀ c ∈ layout.loaded, u.canonical (layout.loadedPlace c) = c
  outside : ∀ c ∈ layout.outside, u.get (layout.place (.outside c)) = placeholder c
  plain : ∀ t, firstLoaded ≤ t → (u.get t).typeParameters = []
  supertype : ∀ t s, firstLoaded + layout.loaded.length ≤ t → u.Inherits t s → s < firstLoaded

theorem Founded.place_lt (hu : Founded layout u) {target : Target} (h : layout.Covers target) :
    layout.place target < u.size :=
  (Layout.place_lt_size h).trans_le hu.size_le

theorem Founded.loadedPlace_lt (hu : Founded layout u) {c : String} (hc : c ∈ layout.loaded) :
    layout.loadedPlace c < u.size :=
  hu.place_lt (show layout.Covers (.declared c) from hc)

theorem Founded.canonical_place (hu : Founded layout u) {target : Target}
    (h : layout.Covers target) : u.canonical (layout.place target) = target.canonical := by
  cases target with
  | standard place =>
      rw [Layout.place, Target.canonical, Universe.canonical, hu.standard place h]
      rfl
  | declared canonical => exact hu.loaded canonical h
  | outside canonical =>
      rw [Universe.canonical, hu.outside canonical h]
      rfl

theorem firstLoaded_le_size (hu : Founded layout u) : firstLoaded + layout.loaded.length ≤ u.size :=
  (Nat.le_add_right _ _).trans hu.size_le

theorem Founded.lt_size (hu : Founded layout u) (ht : t < firstLoaded) : t < u.size :=
  (Nat.lt_add_right _ ht).trans_le (firstLoaded_le_size hu)

theorem Founded.push (hu : Founded layout u) (hplain : d.typeParameters = [])
    (hsupertype : ∀ s ∈ d.directSupertypes, s < firstLoaded) : Founded layout (u.push d) where
  size_le := by
    rw [Universe.size_push]
    exact Nat.le_succ_of_le hu.size_le
  standard t ht := by
    rw [Universe.get_push_of_lt u d (hu.lt_size ht), hu.standard t ht]
  loaded c hc := by
    have hlt := hu.loadedPlace_lt hc
    rw [Universe.canonical, Universe.get_push_of_lt u d hlt]
    exact hu.loaded c hc
  outside c hc := by
    have hlt : layout.place (.outside c) < u.size := hu.place_lt (show layout.Covers _ from hc)
    rw [Universe.get_push_of_lt u d hlt]
    exact hu.outside c hc
  plain t ht := by
    rw [Universe.get_push]
    split_ifs
    · exact hplain
    · exact hu.plain t ht
  supertype t s ht hts := by
    rw [Universe.Inherits, Universe.get_push] at hts
    split_ifs at hts
    · exact hsupertype s hts
    · exact hu.supertype t s ht hts

/-! ## Continuation -/

/-- `v` has the types of `u`, of which only loaded ones may be changed, and those not in name. -/
structure Continues (layout : Layout) (u v : Universe) : Prop where
  size_le : u.size ≤ v.size
  canonical_eq : ∀ t < u.size, v.canonical t = u.canonical t
  get_eq : ∀ t < u.size, t < firstLoaded ∨ firstLoaded + layout.loaded.length ≤ t →
    v.get t = u.get t

theorem Continues.refl (layout : Layout) (u : Universe) : Continues layout u u :=
  ⟨le_rfl, fun _ _ => rfl, fun _ _ _ => rfl⟩

theorem Continues.trans (huv : Continues layout u v) (hvw : Continues layout v w) :
    Continues layout u w where
  size_le := huv.size_le.trans hvw.size_le
  canonical_eq t ht := by
    rw [hvw.canonical_eq t (ht.trans_le huv.size_le), huv.canonical_eq t ht]
  get_eq t ht h := by
    rw [hvw.get_eq t (ht.trans_le huv.size_le) h, huv.get_eq t ht h]

theorem continues_push (layout : Layout) (u : Universe) (d : Descriptor) :
    Continues layout u (u.push d) where
  size_le := by
    rw [Universe.size_push]
    exact Nat.le_succ _
  canonical_eq t ht := by
    rw [Universe.canonical, Universe.get_push_of_lt u d ht, Universe.canonical]
  get_eq t ht _ := Universe.get_push_of_lt u d ht

/-- Standard types stay what they are. -/
theorem Continues.get_standard (hv : Continues layout u v) (hu : Founded layout u)
    (ht : t < firstLoaded) : v.get t = Skeletal.standard.get t := by
  rw [hv.get_eq t (hu.lt_size ht) (Or.inl ht), hu.standard t ht]

/-- Loaded types keep their names. -/
theorem Continues.canonical_loadedPlace (hv : Continues layout u v) (hu : Founded layout u)
    {c : String} (hc : c ∈ layout.loaded) : v.canonical (layout.loadedPlace c) = c := by
  rw [hv.canonical_eq _ (hu.loadedPlace_lt hc), hu.loaded c hc]

/-! ## Growth -/

/-- Outcome of a computation begun in `u`: it leaves a founded universe that continues `u`, and its
value is as described from there on. -/
structure Growth (layout : Layout) (u : Universe) (Q : α → Universe → Prop)
    (result : α × Universe) : Prop where
  continues : Continues layout u result.2
  founded : Founded layout result.2
  value : ∀ v, Continues layout result.2 v → Q result.1 v

variable {Q R : α → Universe → Prop} {S : β → Universe → Prop} {x : Growing α}
  {f : α → Growing β}

theorem Growth.imp {result : α × Universe} (h : Growth layout u Q result)
    (himp : ∀ a v, Continues layout u v → Q a v → R a v) : Growth layout u R result where
  continues := h.continues
  founded := h.founded
  value v hv := himp _ v (h.continues.trans hv) (h.value v hv)

theorem Growth.pure {a : α} (hu : Founded layout u) (ha : ∀ v, Continues layout u v → Q a v) :
    Growth layout u Q ((Pure.pure a : Growing α) u) :=
  ⟨Continues.refl layout u, hu, ha⟩

/-- What follows a computation starts where it ends, with its value described from there on. -/
theorem Growth.bind (hx : Growth layout u Q (x u))
    (hf : ∀ a v, Continues layout u v → Founded layout v →
      (∀ w, Continues layout v w → Q a w) → Growth layout v S (f a v)) :
    Growth layout u S ((x >>= f) u) := by
  have h := hf (x u).1 (x u).2 hx.continues hx.founded hx.value
  exact ⟨hx.continues.trans h.continues, h.founded, h.value⟩

theorem Growth.mapM {f : α → Growing β} {Q : α → β → Universe → Prop} {l : List α}
    (hu : Founded layout u)
    (h : ∀ a ∈ l, ∀ v, Founded layout v → Growth layout v (Q a) (f a v)) :
    Growth layout u (fun bs v => List.Forall₂ (fun a b => Q a b v) l bs) (l.mapM f u) := by
  induction l generalizing u with
  | nil =>
      rw [List.mapM_nil]
      exact Growth.pure hu fun _ _ => List.Forall₂.nil
  | cons a rest ih =>
      rw [List.mapM_cons]
      refine Growth.bind (h a List.mem_cons_self u hu) fun b v _ hv hb => ?_
      refine Growth.bind (ih hv fun a' ha' => h a' (List.mem_cons_of_mem a ha')) ?_
      intro bs w hvw hw hbs
      refine Growth.pure hw fun w' hw' => ?_
      exact List.Forall₂.cons (hb w' (hvw.trans hw')) (hbs w' hw')

theorem Growth.option_mapM {f : α → Growing β} {Q : α → β → Universe → Prop} {o : Option α}
    (hu : Founded layout u)
    (h : ∀ a ∈ o, ∀ v, Founded layout v → Growth layout v (Q a) (f a v)) :
    Growth layout u (fun b v => Option.Rel (fun a b => Q a b v) o b) (o.mapM f u) := by
  cases o with
  | none => exact Growth.pure hu fun _ _ => Option.Rel.none
  | some a =>
      refine Growth.bind (f := fun b => Pure.pure (some b)) (h a rfl u hu) fun b v _ hv hb => ?_
      exact Growth.pure hv fun w hw => Option.Rel.some (hb w hw)

/-! ## Derived types -/

/-- An added type stays as it was added. -/
theorem growth_addType (hu : Founded layout u) (hplain : d.typeParameters = [])
    (hsupertype : ∀ s ∈ d.directSupertypes, s < firstLoaded) :
    Growth layout u (fun t v => t = u.size ∧ t < v.size ∧ v.get t = d) (addType d u) where
  continues := continues_push layout u d
  founded := hu.push hplain hsupertype
  value v hv := by
    have hlt : u.size < (u.push d).size := by simp
    refine ⟨rfl, hlt.trans_le hv.size_le, ?_⟩
    calc v.get u.size = (u.push d).get u.size :=
          hv.get_eq u.size hlt (Or.inr (firstLoaded_le_size hu))
      _ = d := Universe.get_push_size u d

theorem object_lt_firstLoaded : Standard.object < firstLoaded := by decide +kernel

/-- Pairs of brackets after the name of an array type. -/
def brackets : Nat → String
  | 0 => ""
  | dimensions + 1 => brackets dimensions ++ "[]"

/-- The type is an array of some dimensions over a component: it has a name with brackets, and no
methods. -/
inductive ArrayOver (v : Universe) (component : TypeId) : Nat → TypeId → Prop
  | component : ArrayOver v component 0 component
  | array {dimensions : Nat} {inner t : TypeId} (below : ArrayOver v component dimensions inner)
      (kind : (v.get t).kind = .array) (component_eq : (v.get t).component = some inner)
      (canonical : v.canonical t = v.canonical inner ++ "[]") (methods : (v.get t).methods = []) :
      ArrayOver v component (dimensions + 1) t

theorem ArrayOver.canonical_eq {component : TypeId} {dimensions : Nat}
    (h : ArrayOver v component dimensions t) :
    v.canonical t = v.canonical component ++ brackets dimensions := by
  induction h with
  | component => exact (String.append_empty).symm
  | array below kind component_eq canonical methods ih =>
      rw [canonical, ih, brackets, String.append_assoc]

/-- Arrays are added over a component that is there. -/
theorem growth_arrayOf (hu : Founded layout u) (component : TypeId) (dimensions : Nat) :
    Growth layout u
      (fun t v => component < u.size → t < v.size ∧ ArrayOver v component dimensions t)
      (arrayOf Standard.object component dimensions u) := by
  induction dimensions with
  | zero => exact Growth.pure hu fun v hv h => ⟨h.trans_le hv.size_le, .component⟩
  | succ dimensions ih =>
      -- one more array is added over the array of one dimension less
      refine Growth.bind (f := fun inner v => addType (v.arrayOver Standard.object inner) v) ih ?_
      intro inner v huv hv hinner
      refine (growth_addType hv rfl ?_).imp ?_
      · intro s hs
        obtain rfl : s = Standard.object := by
          simpa [Universe.arrayOver, Descriptor.directSupertypes] using hs
        exact object_lt_firstLoaded
      · rintro t w hvw ⟨-, ht, hget⟩ hcomponent
        obtain ⟨hlt, -⟩ := hinner v (Continues.refl layout v) hcomponent
        obtain ⟨-, hover⟩ := hinner w hvw hcomponent
        refine ⟨ht, .array hover (by rw [hget]; rfl) (by rw [hget]; rfl) ?_ (by rw [hget]; rfl)⟩
        calc w.canonical t = v.canonical inner ++ "[]" := by rw [Universe.canonical, hget]; rfl
          _ = w.canonical inner ++ "[]" := by rw [hvw.canonical_eq inner hlt]

end Load

end Skeletal
