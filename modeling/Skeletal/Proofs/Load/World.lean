import Skeletal.Proofs.Load.Declared
import Skeletal.Proofs.Load.Realized
import Skeletal.Proofs.Load.Targets

/-!
# Universes of loaded types

The universe of linked types, put together: the shells found it, realizing the types one after
another keeps it founded, and filling them in continues it. So loaded types stand in their places
and are summarized as their linked forms say (`summary_realizeAll`).
-/

set_option autoImplicit false

namespace Skeletal.Load

open Layout (firstLoaded)

variable {linked : List Linked} {l : Linked} {layout : Layout} {u v : Universe}

/-! ## Shells -/

theorem get_shells (layout : Layout) (linked : List Linked) (t : Nat) :
    (shells layout linked).get t =
      (Standard.entries ++ linked.map (fun l => shell layout l.declared) ++
        layout.outside.map placeholder)[t]?.getD Descriptor.blank := by
  rw [Universe.get, shells, Array.getD_eq_getD_getElem?, List.getElem?_toArray]

theorem get_shells_standard (layout : Layout) (linked : List Linked) {t : Nat}
    (h : t < firstLoaded) : (shells layout linked).get t = standard.get t := by
  have hlt : t < Standard.entries.length := h
  rw [get_shells, List.append_assoc, List.getElem?_append_left hlt, Universe.get, standard,
    Array.getD_eq_getD_getElem?, List.getElem?_toArray]

/-- Behind the standard types stand the shells and then the placeholders. -/
theorem get_shells_add (layout : Layout) (linked : List Linked) (i : Nat) :
    (shells layout linked).get (firstLoaded + i) =
      (linked.map (fun l => shell layout l.declared) ++
        layout.outside.map placeholder)[i]?.getD Descriptor.blank := by
  have hle : Standard.entries.length ≤ firstLoaded + i := Nat.le_add_right _ _
  have hsub : firstLoaded + i - Standard.entries.length = i := Nat.add_sub_cancel_left _ _
  rw [get_shells, List.append_assoc, List.getElem?_append_right hle, hsub]

theorem get_shells_loaded (layout : Layout) {i : Nat} (h : i < linked.length) :
    (shells layout linked).get (firstLoaded + i) = shell layout linked[i].declared := by
  rw [get_shells_add, List.getElem?_append_left (by simpa using h), List.getElem?_map,
    List.getElem?_eq_getElem h]
  rfl

/-- Neither shells nor placeholders are generic or inherit. -/
theorem plain_shells (layout : Layout) (linked : List Linked) {t : Nat} (h : firstLoaded ≤ t) :
    ((shells layout linked).get t).typeParameters = [] ∧
      ((shells layout linked).get t).directSupertypes = [] := by
  obtain ⟨i, rfl⟩ := Nat.exists_eq_add_of_le h
  rw [get_shells_add]
  cases hd : (linked.map (fun l => shell layout l.declared) ++
      layout.outside.map placeholder)[i]? with
  | none => exact ⟨rfl, rfl⟩
  | some d =>
      have hmem := List.mem_of_getElem? hd
      rw [List.mem_append, List.mem_map, List.mem_map] at hmem
      rcases hmem with ⟨l, -, rfl⟩ | ⟨name, -, rfl⟩
      · exact ⟨rfl, rfl⟩
      · exact ⟨rfl, rfl⟩

theorem length_loaded (linked : List Linked) :
    (Layout.ofLinked linked).loaded.length = linked.length :=
  List.length_map _

theorem lt_length_of_not_le {i : Nat}
    (h : ¬ firstLoaded + (Layout.ofLinked linked).loaded.length ≤ firstLoaded + i) :
    i < linked.length := by
  rw [← length_loaded]
  exact Nat.lt_of_add_lt_add_left (Nat.not_le.1 h)

/-- A loaded type is the first one of its name. -/
theorem exists_place {c : String} (hc : c ∈ (Layout.ofLinked linked).loaded) :
    ∃ i, ∃ h : i < linked.length, (Layout.ofLinked linked).loadedPlace c = firstLoaded + i ∧
      linked[i].declared.canonical = c ∧ findLinked? linked c = some linked[i] := by
  have hindex := List.idxOf_lt_length_iff.2 hc
  have hname : (Layout.ofLinked linked).loaded[(Layout.ofLinked linked).loaded.idxOf c] = c :=
    List.getElem_idxOf hindex
  have hfirst : (Layout.ofLinked linked).loaded.idxOf c =
      linked.findIdx fun l => l.declared.canonical == c := by
    rw [List.idxOf, Layout.ofLinked, List.findIdx_map]
    rfl
  have hlt : (Layout.ofLinked linked).loaded.idxOf c < linked.length := by
    rwa [length_loaded] at hindex
  refine ⟨_, hlt, rfl, ?_, ?_⟩
  · exact (List.getElem_map fun l : Linked => l.declared.canonical).symm.trans hname
  · rw [findLinked?, List.find?_eq_getElem?_findIdx, ← hfirst, List.getElem?_eq_getElem hlt]

theorem founded_shells (linked : List Linked) :
    Founded (Layout.ofLinked linked) (shells (Layout.ofLinked linked) linked) where
  size_le := by
    simp only [Layout.size, length_loaded, Universe.size, shells, List.size_toArray,
      List.length_append, List.length_map]
    exact le_rfl
  standard t ht := get_shells_standard _ linked ht
  loaded c hc := by
    obtain ⟨i, hi, hplace, hname, -⟩ := exists_place hc
    rw [Universe.canonical, hplace, get_shells_loaded _ hi, shell, hname]
  outside c hc := by
    have hindex := List.idxOf_lt_length_iff.2 hc
    -- the placeholders stand behind the shells, of which there are as many as loaded types
    have hsub : (Layout.ofLinked linked).loaded.length + (Layout.ofLinked linked).outside.idxOf c -
        (linked.map fun l => shell (Layout.ofLinked linked) l.declared).length =
          (Layout.ofLinked linked).outside.idxOf c := by
      rw [length_loaded, List.length_map, Nat.add_sub_cancel_left]
    have hle : (linked.map fun l => shell (Layout.ofLinked linked) l.declared).length ≤
        (Layout.ofLinked linked).loaded.length + (Layout.ofLinked linked).outside.idxOf c := by
      rw [length_loaded, List.length_map]
      exact Nat.le_add_right _ _
    rw [Layout.place, Nat.add_assoc, get_shells_add, List.getElem?_append_right hle, hsub,
      List.getElem?_map, List.getElem?_eq_getElem hindex, List.getElem_idxOf hindex]
    rfl
  plain t ht := (plain_shells _ linked ht).1
  supertype t s ht hts := by
    have hplain := (plain_shells (Layout.ofLinked linked) linked
      ((Nat.le_add_right _ _).trans ht)).2
    rw [Universe.Inherits, hplain] at hts
    exact absurd hts List.not_mem_nil

/-! ## Filling in -/

theorem size_setFrom (u : Universe) (place : Nat) (ds : List Descriptor) :
    (setFrom u place ds).size = u.size := by
  induction ds generalizing u place with
  | nil => rfl
  | cons d rest ih =>
      rw [setFrom, ih, Universe.size, Universe.set, Array.size_setIfInBounds, Universe.size]

theorem get_setFrom (u : Universe) (place : Nat) (ds : List Descriptor)
    (h : place + ds.length ≤ u.size) (t : Nat) :
    (setFrom u place ds).get t =
      if place ≤ t then ds[t - place]?.getD (u.get t) else u.get t := by
  induction ds generalizing u place with
  | nil => simp [setFrom]
  | cons d rest ih =>
      rw [List.length_cons] at h
      have hsize : (u.set place d).size = u.size := size_setFrom u place [d]
      have hplace : place < u.size := by omega
      rw [setFrom, ih _ _ (by omega), Universe.get_set u d hplace]
      -- in front of the place, at the place, and behind it
      rcases Nat.lt_trichotomy t place with hlt | rfl | hlt
      · rw [if_neg (by omega), if_neg (Nat.ne_of_lt hlt), if_neg (by omega)]
      · simp
      · have hne := Nat.ne_of_gt hlt
        obtain ⟨i, rfl⟩ := Nat.exists_eq_add_of_lt hlt
        have h₁ : place + i + 1 - (place + 1) = i := by omega
        have h₂ : place + i + 1 - place = i + 1 := by omega
        rw [if_pos (by omega), if_neg hne, if_pos (by omega), h₁, h₂, List.getElem?_cons_succ]

/-! ## The whole universe -/

/-- Universe with all linked types realized, but not yet filled in, and their descriptors. -/
def realized (linked : List Linked) : List Descriptor × Universe :=
  linked.mapM (realize (Layout.ofLinked linked)) (shells (Layout.ofLinked linked) linked)

theorem realizeAll_eq (linked : List Linked) :
    realizeAll linked = setFrom (realized linked).2 firstLoaded (realized linked).1 := rfl

section

variable (hplaced : ∀ l ∈ linked, l.Placed (Layout.ofLinked linked))

include hplaced

theorem growth_realized :
    Growth (Layout.ofLinked linked) (shells (Layout.ofLinked linked) linked)
      (fun ds v => List.Forall₂ (fun l d => Realizes (Layout.ofLinked linked) l d v) linked ds)
      (realized linked) :=
  Growth.mapM (founded_shells linked) fun l hl _ hv => growth_realize hv (hplaced l hl)

/-- The linked types are realized in their order. -/
theorem realizes_getElem (hv : Continues (Layout.ofLinked linked) (realized linked).2 v) {i : Nat}
    (hi : i < linked.length) : ∃ h : i < (realized linked).1.length,
      Realizes (Layout.ofLinked linked) linked[i] (realized linked).1[i] v := by
  have hall := (growth_realized hplaced).value v hv
  have hi' : i < (realized linked).1.length := hall.length_eq ▸ hi
  exact ⟨hi', hall.get hi hi'⟩

theorem length_realized :
    (realized linked).1.length = (Layout.ofLinked linked).loaded.length := by
  have hall := (growth_realized hplaced).value _ (Continues.refl _ _)
  rw [length_loaded, hall.length_eq]

theorem get_realizeAll (t : Nat) : (realizeAll linked).get t =
    if firstLoaded ≤ t then (realized linked).1[t - firstLoaded]?.getD ((realized linked).2.get t)
    else (realized linked).2.get t := by
  rw [realizeAll_eq, get_setFrom]
  rw [length_realized hplaced]
  exact firstLoaded_le_size (growth_realized hplaced).founded

theorem get_realizeAll_loaded {i : Nat} (hi : i < (realized linked).1.length) :
    (realizeAll linked).get (firstLoaded + i) = (realized linked).1[i] := by
  rw [get_realizeAll hplaced, if_pos (Nat.le_add_right _ _), Nat.add_sub_cancel_left,
    List.getElem?_eq_getElem hi]
  rfl

theorem get_realizeAll_of_not_loaded {t : Nat}
    (ht : t < firstLoaded ∨ firstLoaded + (Layout.ofLinked linked).loaded.length ≤ t) :
    (realizeAll linked).get t = (realized linked).2.get t := by
  rw [get_realizeAll hplaced]
  split_ifs with hge
  · have hle : (realized linked).1.length ≤ t - firstLoaded := by
      rw [length_realized hplaced]
      exact Nat.le_sub_of_add_le' (ht.resolve_left (Nat.not_lt.2 hge))
    rw [List.getElem?_eq_none hle]
    rfl
  · rfl

/-- Filling in the loaded types changes no name. -/
theorem continues_realizeAll :
    Continues (Layout.ofLinked linked) (realized linked).2 (realizeAll linked) where
  size_le := by rw [realizeAll_eq, size_setFrom]
  canonical_eq t ht := by
    -- a loaded place had the name of its shell when the types were realized
    by_cases hloaded : t < firstLoaded ∨ firstLoaded + (Layout.ofLinked linked).loaded.length ≤ t
    · rw [Universe.canonical, get_realizeAll_of_not_loaded hplaced hloaded, Universe.canonical]
    · obtain ⟨hge, hlt⟩ := not_or.1 hloaded
      obtain ⟨i, rfl⟩ := Nat.exists_eq_add_of_le (Nat.not_lt.1 hge)
      have hi := lt_length_of_not_le hlt
      have hsize : firstLoaded + i < (shells (Layout.ofLinked linked) linked).size :=
        (Nat.not_le.1 hlt).trans_le (firstLoaded_le_size (founded_shells linked))
      have hgrowth := growth_realized hplaced
      obtain ⟨hi', hd⟩ := realizes_getElem hplaced (Continues.refl _ _) hi
      rw [Universe.canonical, get_realizeAll_loaded hplaced hi', hd.canonical_eq,
        hgrowth.continues.canonical_eq _ hsize, Universe.canonical, get_shells_loaded _ hi]
      rfl
  get_eq t _ ht := get_realizeAll_of_not_loaded hplaced ht

/-- What a linked type is realized to stands in its place. -/
theorem realizes_get {i : Nat} (hi : i < linked.length) :
    Realizes (Layout.ofLinked linked) linked[i] ((realizeAll linked).get (firstLoaded + i))
      (realizeAll linked) := by
  obtain ⟨hi', hd⟩ := realizes_getElem hplaced (continues_realizeAll hplaced) hi
  rwa [get_realizeAll_loaded hplaced hi']

theorem founded_realizeAll : Founded (Layout.ofLinked linked) (realizeAll linked) := by
  have hfounded := (growth_realized hplaced).founded
  have hcontinues := continues_realizeAll hplaced
  constructor
  · exact hfounded.size_le.trans hcontinues.size_le
  · intro t ht
    exact hcontinues.get_standard hfounded ht
  · intro c hc
    exact hcontinues.canonical_loadedPlace hfounded hc
  · intro c hc
    have hge : firstLoaded + (Layout.ofLinked linked).loaded.length ≤
        (Layout.ofLinked linked).place (.outside c) := Nat.le_add_right _ _
    rw [get_realizeAll_of_not_loaded hplaced (Or.inr hge), hfounded.outside c hc]
  · intro t ht
    by_cases hge : firstLoaded + (Layout.ofLinked linked).loaded.length ≤ t
    · rw [get_realizeAll_of_not_loaded hplaced (Or.inr hge), hfounded.plain t ht]
    · obtain ⟨i, rfl⟩ := Nat.exists_eq_add_of_le ht
      exact (realizes_get hplaced (lt_length_of_not_le hge)).typeParameters_eq
  · intro t s ht hts
    rw [Universe.Inherits, get_realizeAll_of_not_loaded hplaced (Or.inr ht)] at hts
    exact hfounded.supertype t s ht hts

theorem signed_realizeAll :
    Signed (Layout.ofLinked linked) (signaturesOf linked) (realizeAll linked) := by
  intro c hc
  obtain ⟨i, hi, hplace, -, hfind⟩ := exists_place hc
  rw [hplace, (realizes_get hplaced hi).signatures_eq (founded_realizeAll hplaced)
    (hplaced _ (List.getElem_mem hi)), signaturesOf, hfind]
  rfl

/-- A loaded type is summarized as its linked form says. -/
theorem summary_realizeAll {i : Nat} (hi : i < linked.length) :
    (realizeAll linked).summary (firstLoaded + i) =
      linked[i].summary (signaturesOf linked) :=
  (realizes_get hplaced hi).summary_eq (founded_realizeAll hplaced)
    (hplaced _ (List.getElem_mem hi)) (signed_realizeAll hplaced)

end

/-! ## Linked types have places -/

theorem placed_linkAll {known : List Declared} (h : WellDeclared known) :
    ∀ l ∈ linkAll known, l.Placed (Layout.ofLinked (linkAll known)) := by
  intro l hl
  have hloaded : (Layout.ofLinked (linkAll known)).loaded = known.map Declared.canonical := by
    rw [Layout.ofLinked, linkAll, List.map_map]
    rfl
  obtain ⟨d, hd, rfl⟩ := List.mem_map.1 hl
  constructor
  · exact fun target ht => covers_linkAll hl ht
  · rw [hloaded]
    exact List.mem_map_of_mem hd
  · rw [hloaded]
    exact h.enclosing hd

end Skeletal.Load
