import Skeletal.Proofs.Load.Correspondence
import Skeletal.Proofs.Load.Offered
import Skeletal.Proofs.Synthesis.Correspondence

/-!
# Names in registries of the same types

Registries of types that are declared in another order, and with other origins, differ in their
places, but not in what they say of a name. Where the one has no cycle, neither has the other
(`findCycle?_eq_none_of_sameTypes`). A name has the same summary in both, the origin apart
(`loadedAlike_of_sameTypes`). It is unknown to both, or it is resolved to types that pass and fail
synthesis alike (`Registry.resolvedAlike`), unless two of the types share a binary name: of these
the last declared one is found.
-/

set_option autoImplicit false

namespace Skeletal

open Load
open Load.Layout (firstLoaded)

variable {known known' : List Declared} {skipped skipped' : List SkippedSource} {d : Declared}
  {t : TypeId} {name : String}

/-! ## Cycles -/

namespace Load

/-- Graph of the types that are declared. -/
def graphOf (known : List Declared) : TypeGraph :=
  TypeGraph.ofTypes (realizeAll (linkAll known)) (loadedPlaces (linkAll known))

section

variable (h : WellDeclared known) (h' : WellDeclared known') (hsame : SameTypes known known')

include h hsame in
/-- A loaded type has its role in both universes. -/
theorem exists_sharesRole_of_mem (h' : WellDeclared known')
    (ht : t ∈ loadedPlaces (linkAll known)) :
    ∃ t' ∈ loadedPlaces (linkAll known'), SharesRole known known' t t' := by
  rw [loadedPlaces_linkAll h, List.mem_map] at ht
  obtain ⟨d, hd, rfl⟩ := ht
  obtain ⟨d', hd', heq⟩ := hsame.exists_mem hd
  refine ⟨_, (loadedPlaces_linkAll h').symm ▸ List.mem_map_of_mem hd', ?_⟩
  obtain ⟨origin, rfl⟩ := exists_origin heq
  exact hsame.sharesRole (show (layoutOf known).Covers (.declared d.canonical) from
    mem_loaded_layoutOf hd)

include h h' hsame

/-- The graphs of the same types have the same edges. -/
theorem leads_of_sameTypes {a b : String} (hleads : (graphOf known).Leads a b) :
    (graphOf known').Leads a b := by
  have hcorresponds := corresponds_realizeAll h h' hsame
  obtain ⟨t, ht, s, hs, rfl, rfl⟩ := TypeGraph.leads_ofTypes_iff.1 hleads
  obtain ⟨t', ht', hshares⟩ := exists_sharesRole_of_mem h hsame h' ht
  have halike := hcorresponds.alike _ _ hshares
  have hsupertypes : List.Forall₂ (SharesRole known known')
      ((realizeAll (linkAll known)).get t).directSupertypes
      ((realizeAll (linkAll known')).get t').directSupertypes :=
    (forall₂_toList_append (isSome_eq_of_rel halike.superclass).symm).2
      ⟨halike.superclass, halike.interfaces⟩
  obtain ⟨s', hs', hshares'⟩ := exists_mem_of_forall₂ hsupertypes.flip hs
  rw [hcorresponds.canonical hshares, hcorresponds.canonical hshares']
  exact TypeGraph.leads_ofTypes_iff.2 ⟨t', ht', s', hs', rfl, rfl⟩

/-- Where the one graph has no cycle, neither has the other. -/
theorem findCycle?_eq_none_of_sameTypes (hnone : (graphOf known).findCycle? = none) :
    (graphOf known').findCycle? = none := by
  rw [Option.eq_none_iff_forall_ne_some]
  intro cycle hcycle
  -- a cycle that is found is one of the edges, which both graphs have
  obtain ⟨name, hname⟩ := TypeGraph.exists_cycle_of_findCycle? hcycle
  refine TypeGraph.no_cycle_of_findCycle? (TypeGraph.closed_ofTypes _ _) hnone name ?_
  exact Relation.TransGen.mono (fun _ _ => leads_of_sameTypes h' h hsame.symm) _ _ hname

end

end Load

/-! ## Summaries -/

/-- The summary without its origin. -/
def Summary.withoutOrigin (s : Summary) : Summary := { s with origin := none }

namespace Load

/-- The linked type without its origin. -/
def Linked.withoutOrigin (l : Linked) : Linked := { l with declared := l.declared.withoutOrigin }

theorem isTaken_map_withoutOrigin (known : List Declared) :
    isTaken (known.map Declared.withoutOrigin) = isTaken known := by
  funext name
  rw [isTaken, isTaken, List.any_map]
  rfl

theorem linkAll_map_withoutOrigin (known : List Declared) :
    linkAll (known.map Declared.withoutOrigin) = (linkAll known).map Linked.withoutOrigin := by
  rw [linkAll, linkAll, isTaken_map_withoutOrigin, List.map_map, List.map_map]
  rfl

theorem findLinked?_map_withoutOrigin (linked : List Linked) (name : String) :
    findLinked? (linked.map Linked.withoutOrigin) name =
      (findLinked? linked name).map Linked.withoutOrigin := by
  rw [findLinked?, findLinked?, List.find?_map]
  rfl

theorem signaturesOf_map_withoutOrigin (linked : List Linked) :
    signaturesOf (linked.map Linked.withoutOrigin) = signaturesOf linked := by
  funext name
  rw [signaturesOf, signaturesOf, findLinked?_map_withoutOrigin]
  cases findLinked? linked name with
  | none => rfl
  | some l => rfl

end Load

namespace Registry

/-- Two registries say the same of each name, the origin apart: the same types are loaded. -/
def LoadedAlike (r r' : Registry) : Prop :=
  ∀ name, (r.summary? name).map Summary.withoutOrigin =
    (r'.summary? name).map Summary.withoutOrigin

/-- What a registry says of a name, the origin apart, is what the types say without their origins.
-/
theorem summary?_withoutOrigin (h : WellDeclared known) (skipped : List SkippedSource)
    (name : String) : ((ofDeclared known skipped).summary? name).map Summary.withoutOrigin =
      (findLinked? (linkAll (known.map Declared.withoutOrigin)) name).map
        (Linked.summary (signaturesOf (linkAll (known.map Declared.withoutOrigin)))) := by
  rw [summary?_ofDeclared h, linkAll_map_withoutOrigin, findLinked?_map_withoutOrigin,
    signaturesOf_map_withoutOrigin, Option.map_map, Option.map_map]
  rfl

/-- Registries of the same types say the same of a name, the origin apart. -/
theorem loadedAlike_of_sameTypes (h : WellDeclared known) (h' : WellDeclared known')
    (hsame : SameTypes known known') :
    (ofDeclared known skipped).LoadedAlike (ofDeclared known' skipped') := by
  intro name
  -- without origins, the linked types are a permutation of each other
  have hlinked := linkAll_perm hsame
  have hnodup : ((linkAll (known.map Declared.withoutOrigin)).map
      fun l => l.declared.canonical).Nodup := by
    rw [linkAll, List.map_map, List.map_map]
    exact h.nodup
  rw [summary?_withoutOrigin h, summary?_withoutOrigin h', findLinked?, findLinked?,
    find?_eq_of_perm hlinked hnodup, signaturesOf_eq_of_perm hlinked hnodup]

end Registry

/-! ## Targets of names -/

/-- The only element of a list. -/
def theOnly? {α : Type} : List α → Option α
  | [a] => some a
  | _ => none

theorem theOnly?_map {α β : Type} (f : α → β) (l : List α) :
    theOnly? (l.map f) = (theOnly? l).map f := by
  rcases l with _ | ⟨a, _ | ⟨b, rest⟩⟩
  · rfl
  · rfl
  · rfl

theorem theOnly?_eq_of_perm {α : Type} {l l' : List α} (h : l.Perm l') :
    theOnly? l = theOnly? l' := by
  rcases l with _ | ⟨a, _ | ⟨b, rest⟩⟩
  · rw [h.nil_eq]
  · rw [List.singleton_perm.1 h]
  · rcases l' with _ | ⟨a', _ | ⟨b', rest'⟩⟩
    · rfl
    · exact absurd h.length_eq (by simp)
    · rfl

theorem mem_of_theOnly? {α : Type} {l : List α} {a : α} (h : theOnly? l = some a) : a ∈ l := by
  rcases l with _ | ⟨b, _ | ⟨c, rest⟩⟩
  · cases h
  · exact List.mem_singleton.2 (Option.some.inj h).symm
  · cases h

namespace Load

/-- What a name without brackets refers to: a declared type by canonical or binary name, a standard
type, or a declared type by a simple name that is unique. -/
def named? (known : List Declared) (name : String) : Option Target :=
  let target (d : Declared) : Target := .declared d.canonical
  ((known.find? fun d => d.canonical == name).map target).or <|
  ((known.reverse.find? fun d => d.binary == name).map target).or <|
  ((Standard.lookup? name).map .standard).or <|
    if name.toList.contains '.' then none
    else (theOnly? (known.filter fun d => d.header.name == name)).map target

/-- Origins do not matter to names. -/
theorem named?_map_withoutOrigin (known : List Declared) (name : String) :
    named? (known.map Declared.withoutOrigin) name = named? known name := by
  rw [named?, named?, List.filter_map, theOnly?_map, ← List.map_reverse, List.find?_map,
    List.find?_map, Option.map_map, Option.map_map, Option.map_map]
  rfl

/-- Nor does the order, if binary names are different. -/
theorem named?_eq_of_perm (h : known.Perm known')
    (hcanonical : (known.map Declared.canonical).Nodup)
    (hbinary : (known.map Declared.binary).Nodup) (name : String) :
    named? known name = named? known' name := by
  have hreversed : (known.reverse.map Declared.binary).Nodup := by
    rwa [List.map_reverse, List.nodup_reverse]
  have hperm : known.reverse.Perm known'.reverse :=
    ((List.reverse_perm known).trans h).trans (List.reverse_perm known').symm
  rw [named?, named?, find?_eq_of_perm h hcanonical, find?_eq_of_perm hperm hreversed,
    theOnly?_eq_of_perm (h.filter _)]

theorem SameTypes.named?_eq (h : SameTypes known known')
    (hcanonical : (known.map Declared.canonical).Nodup)
    (hbinary : (known.map Declared.binary).Nodup) (name : String) :
    named? known name = named? known' name := by
  rw [← named?_map_withoutOrigin known, ← named?_map_withoutOrigin known']
  refine named?_eq_of_perm h ?_ ?_ name
  · rwa [List.map_map]
  · rwa [List.map_map]

/-- What a name refers to has a place. -/
theorem covers_of_named? {target : Target} (h : named? known name = some target) :
    (layoutOf known).Covers target := by
  have hdeclared : ∀ d ∈ known, (layoutOf known).Covers (.declared d.canonical) :=
    fun d hd => mem_loaded_layoutOf hd
  simp only [named?, Option.or_eq_some_iff, Option.map_eq_some_iff] at h
  rcases h with ⟨d, hd, rfl⟩ | ⟨-, ⟨d, hd, rfl⟩ | ⟨-, ⟨place, hplace, rfl⟩ | ⟨-, h⟩⟩⟩
  · exact hdeclared d (List.mem_of_find?_eq_some hd)
  · exact hdeclared d (List.mem_reverse.1 (List.mem_of_find?_eq_some hd))
  · exact Registry.lt_firstLoaded_of_lookup? hplace
  · split_ifs at h
    obtain ⟨d, hd, rfl⟩ := Option.map_eq_some_iff.1 h
    exact hdeclared d (List.mem_of_mem_filter (mem_of_theOnly? hd))

end Load

namespace Registry

theorem ofSimple?_eq (r : Registry) (name : String) :
    r.ofSimple? name = theOnly? (r.types.filter fun t => (r.world.get t).name == name) := by
  rw [ofSimple?]
  generalize r.types.filter (fun t => (r.world.get t).name == name) = found
  rcases found with _ | ⟨t, _ | ⟨s, rest⟩⟩
  · rfl
  · rfl
  · rfl

/-- A registry finds the place of what a name refers to. -/
theorem bare?_ofDeclared (h : WellDeclared known) (skipped : List SkippedSource) (name : String) :
    (ofDeclared known skipped).bare? name = (named? known name).map (layoutOf known).place := by
  have hplaces := types_ofDeclared h skipped
  have hshell := fun d hd => hasShell_loadedPlace (d := d) h hd skipped
  have hcanonical : (ofDeclared known skipped).ofCanonical? name =
      (known.find? fun d => d.canonical == name).map fun d =>
        (layoutOf known).loadedPlace d.canonical := by
    rw [ofCanonical?, hplaces, List.find?_map]
    refine congrArg _ (List.find?_congr fun d hd => ?_)
    rw [Function.comp_apply, canonical_loadedPlace h hd]
  have hbinary : (ofDeclared known skipped).ofBinary? name =
      (known.reverse.find? fun d => d.binary == name).map fun d =>
        (layoutOf known).loadedPlace d.canonical := by
    rw [ofBinary?, hplaces, ← List.map_reverse, List.find?_map]
    refine congrArg _ (List.find?_congr fun d hd => ?_)
    rw [Function.comp_apply, (hshell d (List.mem_reverse.1 hd)).binary]
    rfl
  have hsimple : (ofDeclared known skipped).ofSimple? name =
      (theOnly? (known.filter fun d => d.header.name == name)).map fun d =>
        (layoutOf known).loadedPlace d.canonical := by
    rw [ofSimple?_eq, hplaces, List.filter_map, theOnly?_map]
    refine congrArg (fun l => (theOnly? l).map _) (List.filter_congr fun d hd => ?_)
    rw [Function.comp_apply, (hshell d hd).name]
  have hstandard : (Standard.lookup? name).map ((layoutOf known).place ∘ Target.standard) =
      Standard.lookup? name := Option.map_id'
  simp only [bare?, hcanonical, hbinary, hsimple, named?, Option.map_or, Option.map_map, hstandard]
  split_ifs
  · rfl
  · rw [Option.map_map]
    rfl

/-- How a registry resolves a name. -/
theorem resolve_ofDeclared (h : WellDeclared known) (skipped : List SkippedSource) (name : String) :
    (ofDeclared known skipped).resolve name =
      match named? known (splitPairs name).2 with
      | some target => .ok (arrayOf Standard.object ((layoutOf known).place target)
          (splitPairs name).1 (realizeAll (linkAll known)))
      | none => .error ⟨(splitPairs name).2⟩ := by
  simp only [resolve, bare?_ofDeclared h]
  cases named? known (splitPairs name).2 with
  | none => rfl
  | some target => rfl

end Registry

/-! ## Resolved types -/

/-- Two resolutions of a name end alike: the name is unknown to both, or they give types that pass
and fail synthesis alike, and that have the same names if they pass the gate. -/
inductive ResolvedAlike : Except Registry.UnknownType (TypeId × Universe) →
    Except Registry.UnknownType (TypeId × Universe) → Prop
  | unknown (e : Registry.UnknownType) : ResolvedAlike (.error e) (.error e)
  | known {t t' : TypeId} {u u' : Universe}
      (gate : u.checkImplementable t = u'.checkImplementable t')
      (source : ∀ s : Settings, s.generateSource u t = s.generateSource u' t')
      (names : u.checkImplementable t = .ok () →
        (u.get t).name = (u'.get t').name ∧ (u.get t).package = (u'.get t').package) :
      ResolvedAlike (.ok (t, u)) (.ok (t', u'))

/-- What the gate refuses alike fails synthesis alike. -/
theorem ResolvedAlike.of_refused {t t' : TypeId} {u u' : Universe} {e : SynthesisError}
    (h : u.checkImplementable t = .error e) (h' : u'.checkImplementable t' = .error e) :
    ResolvedAlike (.ok (t, u)) (.ok (t', u')) :=
  .known (h.trans h'.symm)
    (fun _ =>
      (Settings.generateSource_of_refused h).trans (Settings.generateSource_of_refused h').symm)
    fun hpass => nomatch h.symm.trans hpass

/-- The gate refuses arrays. -/
theorem Universe.checkImplementable_of_array {u : Universe} {t : TypeId}
    (h : (u.get t).kind = .array) :
    u.checkImplementable t = .error (.unsupported (u.canonical t) .array) := by
  have hreason : (u.get t).unsupportedReason? = some .array := by
    simp [Descriptor.unsupportedReason?, Descriptor.refusals, Descriptor.isPrimitive,
      Descriptor.isArray, h]
  rw [checkImplementable, hreason]

namespace Load

section

variable (h : WellDeclared known) (h' : WellDeclared known') (hsame : SameTypes known known')

include h

/-- Name of an array of a target. -/
theorem canonical_arrayOf {target : Target} (hcovers : (layoutOf known).Covers target)
    (dimensions : Nat) {u : Universe}
    (harray : arrayOf Standard.object ((layoutOf known).place target) dimensions
      (realizeAll (linkAll known)) = (t, u)) :
    u.canonical t = target.canonical ++ brackets dimensions := by
  have hgrowth := growth_arrayOf h.founded ((layoutOf known).place target) dimensions
  rw [harray] at hgrowth
  obtain ⟨-, hover⟩ := hgrowth.value u (Continues.refl _ _) (h.founded.place_lt hcovers)
  exact hover.canonical_eq.trans
    (congrArg (· ++ brackets dimensions) (hgrowth.founded.canonical_place hcovers))

include h' hsame

/-- A target has the same simple name and package wherever the same types are declared. -/
theorem name_package_eq {target : Target} (hcovers : (layoutOf known).Covers target) :
    ((realizeAll (linkAll known)).get ((layoutOf known).place target)).name =
        ((realizeAll (linkAll known')).get ((layoutOf known').place target)).name ∧
      ((realizeAll (linkAll known)).get ((layoutOf known).place target)).package =
        ((realizeAll (linkAll known')).get ((layoutOf known').place target)).package := by
  cases target with
  | standard place =>
      simp only [Layout.place]
      rw [h.founded.standard place hcovers, h'.founded.standard place hcovers]
      exact ⟨rfl, rfl⟩
  | declared c =>
      have hc : c ∈ (layoutOf known).loaded := hcovers
      rw [loaded_layoutOf, List.mem_map] at hc
      obtain ⟨d, hd, rfl⟩ := hc
      obtain ⟨d', hd', heq⟩ := hsame.exists_mem hd
      have hshell := Registry.hasShell_loadedPlace h hd []
      have hshell' := Registry.hasShell_loadedPlace h' hd' []
      obtain ⟨origin, rfl⟩ := exists_origin heq
      exact ⟨hshell.name.trans hshell'.name.symm, hshell.package.trans hshell'.package.symm⟩
  | outside c =>
      rw [h.founded.outside c hcovers, h'.founded.outside c (hsame.covers hcovers)]
      exact ⟨rfl, rfl⟩

/-- A target passes and fails synthesis alike wherever the same types are declared. -/
theorem resolvedAlike_target (hnone : (graphOf known).findCycle? = none) {target : Target}
    (hcovers : (layoutOf known).Covers target) :
    ResolvedAlike (.ok ((layoutOf known).place target, realizeAll (linkAll known)))
      (.ok ((layoutOf known').place target, realizeAll (linkAll known'))) := by
  have hcorresponds := corresponds_realizeAll h h' hsame
  have hshares := hsame.sharesRole hcovers
  have hacyclic := Registry.acyclic_of_findCycle? (placed_linkAll h) hnone h.founded
    fun _ _ => rfl
  have hacyclic' := Registry.acyclic_of_findCycle? (placed_linkAll h')
    (findCycle?_eq_none_of_sameTypes h h' hsame hnone) h'.founded fun _ _ => rfl
  have hnames := name_package_eq h h' hsame hcovers
  exact .known (hcorresponds.checkImplementable hshares)
    (fun s => hcorresponds.generateSource hacyclic hacyclic' s hshares hnames.1 hnames.2)
    fun _ => hnames

/-- So do arrays of it, which are refused by their names. -/
theorem resolvedAlike_arrayOf (hnone : (graphOf known).findCycle? = none) {target : Target}
    (hcovers : (layoutOf known).Covers target) (dimensions : Nat) :
    ResolvedAlike
      (.ok (arrayOf Standard.object ((layoutOf known).place target) dimensions
        (realizeAll (linkAll known))))
      (.ok (arrayOf Standard.object ((layoutOf known').place target) dimensions
        (realizeAll (linkAll known')))) := by
  cases dimensions with
  | zero => exact resolvedAlike_target h h' hsame hnone hcovers
  | succ dimensions =>
      rcases harray : arrayOf Standard.object ((layoutOf known).place target) (dimensions + 1)
        (realizeAll (linkAll known)) with ⟨t, u⟩
      rcases harray' : arrayOf Standard.object ((layoutOf known').place target) (dimensions + 1)
        (realizeAll (linkAll known')) with ⟨t', u'⟩
      have hrefused := Universe.checkImplementable_of_array (kind_arrayOf harray)
      have hrefused' := Universe.checkImplementable_of_array (kind_arrayOf harray')
      rw [canonical_arrayOf h hcovers _ harray] at hrefused
      rw [canonical_arrayOf h' (hsame.covers hcovers) _ harray'] at hrefused'
      exact .of_refused hrefused hrefused'

end

end Load

namespace Registry

/-- A name is resolved alike in registries of the same types. -/
theorem resolvedAlike (h : WellDeclared known) (h' : WellDeclared known')
    (hsame : SameTypes known known') (hbinary : (known.map Declared.binary).Nodup)
    (hnone : (graphOf known).findCycle? = none) (name : String) :
    ResolvedAlike ((ofDeclared known skipped).resolve name)
      ((ofDeclared known' skipped').resolve name) := by
  rw [resolve_ofDeclared h, resolve_ofDeclared h', ← hsame.named?_eq h.nodup hbinary]
  cases hnamed : named? known (splitPairs name).2 with
  | none => exact .unknown _
  | some target => exact resolvedAlike_arrayOf h h' hsame hnone (covers_of_named? hnamed) _

end Registry

end Skeletal
