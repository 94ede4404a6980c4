import Skeletal.Proofs.Load.Loaded

/-!
# Properties of all types

A property of descriptors holds of all types of a universe of loaded types if it holds of the
standard types, of shells and placeholders, of what is derived from types that have it, and of what
linked types are realized to (`all_realizeAll`). On the way every computation retains it
(`Retains`).
-/

set_option autoImplicit false

namespace Skeletal

variable {P : Descriptor → Prop} {u : Universe} {d : Descriptor}

/-- All types have the property. -/
def Universe.All (P : Descriptor → Prop) (u : Universe) : Prop := ∀ t, P (u.get t)

theorem Universe.All.push (hu : u.All P) (hd : P d) : (u.push d).All P := by
  intro t
  rw [Universe.get_push]
  split_ifs
  · exact hd
  · exact hu t

theorem Universe.All.set (hu : u.All P) (hd : P d) (place : TypeId) : (u.set place d).All P := by
  intro t
  by_cases hplace : place < u.size
  · rw [Universe.get_set u d hplace]
    split_ifs
    · exact hd
    · exact hu t
  · rw [Universe.set, Array.setIfInBounds_eq_of_size_le (Nat.not_lt.1 hplace)]
    exact hu t

namespace Load

open Layout (firstLoaded)

variable {α β : Type} {x : Growing α} {layout : Layout} {linked : List Linked}

/-! ## Properties that are retained -/

/-- The universe that the computation leaves has a property if the one it starts in has it. -/
def Retains (Q : Universe → Prop) (x : Growing α) : Prop := ∀ u, Q u → Q (x u).2

variable {Q : Universe → Prop}

theorem retains_pure (a : α) : Retains Q (pure a : Growing α) := fun _ h => h

theorem Retains.bind {f : α → Growing β} (hx : Retains Q x) (hf : ∀ a, Retains Q (f a)) :
    Retains Q (x >>= f) :=
  fun u h => hf _ _ (hx u h)

theorem retains_mapM {f : α → Growing β} (hf : ∀ a, Retains Q (f a)) (l : List α) :
    Retains Q (l.mapM f) := by
  induction l with
  | nil =>
      rw [List.mapM_nil]
      exact retains_pure []
  | cons a rest ih =>
      rw [List.mapM_cons]
      exact (hf a).bind fun b => ih.bind fun bs => retains_pure _

theorem retains_option_mapM {f : α → Growing β} (hf : ∀ a, Retains Q (f a)) (o : Option α) :
    Retains Q (o.mapM f) := by
  cases o with
  | none => exact retains_pure none
  | some a => exact (hf a).bind fun b => retains_pure (some b)

/-! ## Realizing -/

/-- Derived types have the property: arrays, and views of types that have it. -/
structure Derives (P : Descriptor → Prop) : Prop where
  array : ∀ (u : Universe) (component : TypeId), P (u.arrayOver Standard.object component)
  view : ∀ (u : Universe) (place generic : TypeId) (arguments : List TypeId),
    P (u.get generic) → P (u.viewOf Standard.object place generic arguments)

section

variable (hP : Derives P)

include hP

theorem retains_arrayOf (component : TypeId) (dimensions : Nat) :
    Retains (Universe.All P) (arrayOf Standard.object component dimensions) := by
  induction dimensions with
  | zero => exact retains_pure component
  | succ dimensions ih => exact fun u hu => (ih u hu).push (hP.array _ _)

theorem retains_parameterize (generic : TypeId) (arguments : List TypeId) :
    Retains (Universe.All P) (parameterize Standard.object generic arguments) := by
  intro u hu
  rw [parameterize]
  split_ifs
  · exact hu.push (hP.view u u.size generic arguments (hu generic))
  · exact hu

theorem retains_realizeReference (layout : Layout) (r : Reference) :
    Retains (Universe.All P) (realizeReference layout r) :=
  retains_arrayOf hP _ _

theorem retains_realizeSupertype (layout : Layout) (r : SupertypeReference) :
    Retains (Universe.All P) (realizeSupertype layout r) :=
  (retains_realizeReference hP layout r.base).bind fun _ =>
    (retains_mapM (retains_realizeReference hP layout) r.arguments).bind fun _ =>
      retains_parameterize hP _ _

theorem retains_realizeMember (layout : Layout) (owner : TypeId) (m : LinkedMember) :
    Retains (Universe.All P) (realizeMember layout owner m) :=
  (retains_mapM (retains_realizeReference hP layout) m.parameters).bind fun _ =>
    (retains_mapM (retains_realizeReference hP layout) m.exceptions).bind fun _ =>
      (retains_option_mapM (retains_realizeReference hP layout) m.result).bind fun _ =>
        retains_pure _

theorem retains_realize (layout : Layout) (l : Linked) :
    Retains (Universe.All P) (realize layout l) :=
  (retains_option_mapM (retains_realizeSupertype hP layout) l.superclass).bind fun _ =>
    (retains_mapM (retains_realizeSupertype hP layout) l.interfaces).bind fun _ =>
      (retains_mapM (retains_realizeMember hP layout _) l.methods).bind fun _ =>
        (retains_mapM (retains_realizeMember hP layout _) l.constructors).bind fun _ =>
          retains_pure _

end

theorem all_shells (hstandard : standard.All P) (hshell : ∀ l ∈ linked, P (shell layout l.declared))
    (hplaceholder : ∀ name, P (placeholder name)) : (shells layout linked).All P := by
  -- standard types, then shells and placeholders, and behind them none
  intro t
  by_cases ht : t < firstLoaded
  · rw [get_shells_standard layout linked ht]
    exact hstandard t
  · obtain ⟨i, rfl⟩ := Nat.exists_eq_add_of_le (Nat.not_lt.1 ht)
    rw [get_shells_add]
    cases hd : (linked.map (fun l => shell layout l.declared) ++
        layout.outside.map placeholder)[i]? with
    | none =>
        have hblank := hstandard standard.size
        rwa [Universe.get_of_size_le le_rfl] at hblank
    | some d =>
        have hmem := List.mem_of_getElem? hd
        rw [List.mem_append, List.mem_map, List.mem_map] at hmem
        rcases hmem with ⟨l, hl, rfl⟩ | ⟨name, -, rfl⟩
        · exact hshell l hl
        · exact hplaceholder name

theorem all_setFrom {ds : List Descriptor} (hu : u.All P) (hds : ∀ d ∈ ds, P d) (place : TypeId) :
    (setFrom u place ds).All P := by
  induction ds generalizing u place with
  | nil => exact hu
  | cons d rest ih =>
      exact ih (hu.set (hds d List.mem_cons_self) place)
        (fun d' hd' => hds d' (List.mem_cons_of_mem d hd')) _

/-- What holds of all parts holds of all types. -/
theorem all_realizeAll {known : List Declared} (h : WellDeclared known) (hP : Derives P)
    (hstandard : standard.All P) (hshell : ∀ d ∈ known, ∀ layout, P (shell layout d))
    (hplaceholder : ∀ name, P (placeholder name))
    (hrealized : ∀ d ∈ known, ∀ descriptor v,
      Realizes (layoutOf known) (link (isTaken known) d) descriptor v → P descriptor) :
    (realizeAll (linkAll known)).All P := by
  have hplaced := placed_linkAll h
  rw [realizeAll_eq]
  refine all_setFrom ?_ ?_ _
  · refine retains_mapM (retains_realize hP _) _ _ (all_shells hstandard ?_ hplaceholder)
    intro l hl
    obtain ⟨d, hd, rfl⟩ := List.mem_map.1 hl
    exact hshell d hd _
  · intro descriptor hdescriptor
    obtain ⟨l, hl, hrealizes⟩ :=
      exists_mem_of_forall₂ ((growth_realized hplaced).value _ (Continues.refl _ _)) hdescriptor
    obtain ⟨d, hd, rfl⟩ := List.mem_map.1 hl
    exact hrealized d hd descriptor _ hrealizes

end Load

end Skeletal
