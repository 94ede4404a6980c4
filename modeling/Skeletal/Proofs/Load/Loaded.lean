import Skeletal.Proofs.Load.Units
import Skeletal.Proofs.Load.World

/-!
# Loaded types

The types of a registry stand in the places of their canonical names, and each is what its linked
form is realized to (`realizes_loadedPlace`). So a loaded type is known by its canonical name
(`eq_of_canonical_eq`).
-/

set_option autoImplicit false

namespace Skeletal

open Load
open Load.Layout (firstLoaded)

namespace Load

/-- Layout of the types that are declared. -/
def layoutOf (known : List Declared) : Layout := Layout.ofLinked (linkAll known)

variable {known : List Declared} {d : Declared}

theorem loaded_layoutOf (known : List Declared) :
    (layoutOf known).loaded = known.map Declared.canonical := by
  rw [layoutOf, Layout.ofLinked, linkAll, List.map_map]
  rfl

theorem mem_loaded_layoutOf (hd : d ∈ known) : d.canonical ∈ (layoutOf known).loaded := by
  rw [loaded_layoutOf]
  exact List.mem_map_of_mem hd

/-- The places of the loaded types, in the order of their declaration, are those of their names. -/
theorem loadedPlaces_linkAll (h : WellDeclared known) :
    loadedPlaces (linkAll known) =
      known.map fun d => (layoutOf known).loadedPlace d.canonical := by
  refine List.ext_getElem (by simp [loadedPlaces, linkAll]) fun i hi hi' => ?_
  have hlt : i < known.length := by simpa using hi'
  have hnodup : (layoutOf known).loaded.Nodup := by
    rw [loaded_layoutOf]
    exact h.nodup
  have hindex : i < (layoutOf known).loaded.length := by
    rw [loaded_layoutOf, List.length_map]
    exact hlt
  have hname : (layoutOf known).loaded[i] = known[i].canonical := by
    simp only [loaded_layoutOf, List.getElem_map]
  simp only [loadedPlaces, List.getElem_map, List.getElem_range]
  rw [Layout.loadedPlace, ← hname, hnodup.idxOf_getElem]

theorem loadedPlace_getElem (h : WellDeclared known) {i : Nat} (hi : i < known.length) :
    (layoutOf known).loadedPlace known[i].canonical = firstLoaded + i := by
  have hplaces := List.getElem_of_eq (loadedPlaces_linkAll h)
    (show i < (loadedPlaces (linkAll known)).length by simpa [loadedPlaces, linkAll] using hi)
  simp only [loadedPlaces, List.getElem_map, List.getElem_range] at hplaces
  exact hplaces.symm

/-- The types that are realized stand where the layout has them. -/
theorem WellDeclared.founded (h : WellDeclared known) :
    Founded (layoutOf known) (realizeAll (linkAll known)) :=
  founded_realizeAll (placed_linkAll h)

/-- A loaded type is what its linked form is realized to. -/
theorem realizes_loadedPlace (h : WellDeclared known) (hd : d ∈ known) :
    Realizes (layoutOf known) (link (isTaken known) d)
      ((realizeAll (linkAll known)).get ((layoutOf known).loadedPlace d.canonical))
      (realizeAll (linkAll known)) := by
  obtain ⟨i, hi, rfl⟩ := List.mem_iff_getElem.1 hd
  have hi' : i < (linkAll known).length := by simpa [linkAll] using hi
  have hrealizes := realizes_get (placed_linkAll h) hi'
  rw [loadedPlace_getElem h hi]
  simpa [linkAll, layoutOf] using hrealizes

end Load

namespace Registry

variable {strict : Bool} {units : List SourceUnit} {known : List Declared}
  {skipped : List SkippedSource} {t s : TypeId} {d : Declared}

/-- Units that all parse are read. -/
theorem read_of_parses (h : ∀ unit ∈ units, unit.parses = true) :
    read strict units = .ok (ofDeclared (units.foldl SourceUnit.addTo []) []) := by
  rw [read, readUnits_of_parses h]

theorem types_ofDeclared (h : WellDeclared known) (skipped : List SkippedSource) :
    (ofDeclared known skipped).types =
      known.map fun d => (layoutOf known).loadedPlace d.canonical :=
  loadedPlaces_linkAll h

theorem founded_ofDeclared (h : WellDeclared known) (skipped : List SkippedSource) :
    Founded (layoutOf known) (ofDeclared known skipped).world :=
  h.founded

theorem canonical_loadedPlace (h : WellDeclared known) (hd : d ∈ known) :
    (ofDeclared known skipped).world.canonical ((layoutOf known).loadedPlace d.canonical) =
      d.canonical :=
  (founded_ofDeclared h skipped).loaded _ (mem_loaded_layoutOf hd)

/-- What a descriptor has of a declared type from the start, whatever it inherits and declares. -/
structure HasShell (layout : Layout) (d : Declared) (descriptor : Descriptor) : Prop where
  name : descriptor.name = d.header.name
  kind : descriptor.kind = d.kind
  package : descriptor.package = d.file.package
  modifiers : descriptor.modifiers = d.modifiers
  binary : descriptor.binary = some d.binary
  enclosing : descriptor.enclosing = d.enclosing.map layout.loadedPlace
  origin : descriptor.origin = d.origin
  membersUnknown : descriptor.membersUnknown = false

theorem hasShell_of_realizes {layout : Layout} {l : Linked} {descriptor : Descriptor}
    {v : Universe} (h : Realizes layout l descriptor v) :
    HasShell layout l.declared descriptor where
  name := congrArg Descriptor.name h.shell
  kind := congrArg Descriptor.kind h.shell
  package := congrArg Descriptor.package h.shell
  modifiers := congrArg Descriptor.modifiers h.shell
  binary := congrArg Descriptor.binary h.shell
  enclosing := congrArg Descriptor.enclosing h.shell
  origin := congrArg Descriptor.origin h.shell
  membersUnknown := congrArg Descriptor.membersUnknown h.shell

theorem hasShell_loadedPlace (h : WellDeclared known) (hd : d ∈ known)
    (skipped : List SkippedSource) : HasShell (layoutOf known) d
      ((ofDeclared known skipped).world.get ((layoutOf known).loadedPlace d.canonical)) :=
  hasShell_of_realizes (realizes_loadedPlace h hd)

/-- A loaded type is known by its canonical name. -/
theorem eq_of_canonical_eq (h : WellDeclared known) (ht : t ∈ (ofDeclared known skipped).types)
    (hs : s ∈ (ofDeclared known skipped).types)
    (hname : (ofDeclared known skipped).world.canonical t =
      (ofDeclared known skipped).world.canonical s) : t = s := by
  rw [types_ofDeclared h, List.mem_map] at ht hs
  obtain ⟨d, hd, rfl⟩ := ht
  obtain ⟨e, he, rfl⟩ := hs
  rw [canonical_loadedPlace h hd, canonical_loadedPlace h he] at hname
  rw [hname]

theorem map_canonical_types (h : WellDeclared known) (skipped : List SkippedSource) :
    (ofDeclared known skipped).types.map (ofDeclared known skipped).world.canonical =
      known.map Declared.canonical := by
  rw [types_ofDeclared h, List.map_map]
  exact List.map_congr_left fun d hd => canonical_loadedPlace h hd

theorem nodup_types (h : WellDeclared known) (skipped : List SkippedSource) :
    (ofDeclared known skipped).types.Nodup := by
  refine List.Nodup.of_map (ofDeclared known skipped).world.canonical ?_
  rw [map_canonical_types h]
  exact h.nodup

/-- The loaded types are entered under their canonical names. -/
theorem ofCanonical?_ofDeclared (h : WellDeclared known) (name : String) :
    (ofDeclared known skipped).ofCanonical? name = some t ↔
      t ∈ (ofDeclared known skipped).types ∧ (ofDeclared known skipped).world.canonical t = name := by
  have hfound : ∀ s, (ofDeclared known skipped).ofCanonical? name = some s →
      s ∈ (ofDeclared known skipped).types ∧
        (ofDeclared known skipped).world.canonical s = name := by
    intro s hfind
    rw [ofCanonical?] at hfind
    have hname := List.find?_some hfind
    exact ⟨List.mem_of_find?_eq_some hfind, beq_iff_eq.1 hname⟩
  constructor
  · exact hfound t
  · rintro ⟨ht, hname⟩
    cases hfind : (ofDeclared known skipped).ofCanonical? name with
    | none => exact absurd (beq_iff_eq.2 hname) (List.find?_eq_none.1 hfind t ht)
    | some s =>
        obtain ⟨hs, hname'⟩ := hfound s hfind
        rw [eq_of_canonical_eq h hs ht (hname'.trans hname.symm)]

end Registry

end Skeletal
