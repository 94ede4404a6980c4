import Skeletal.Proofs.Load.Resolution

/-!
# Units read again

What a unit declares does not depend on its origin, the origin of the types apart
(`declareUnit_withoutOrigin`). So units that are read again in another order, under other origins
and leniently, give a registry of the same types, if no two of them declare a name in common
(`Registry.load_again`).
-/

set_option autoImplicit false

namespace Skeletal

open Load
open Source (CompilationUnit TypeDeclaration TypeHeader)

variable {known : List Declared} {outer : Option Declared} {file : FileScope}
  {origin : Option String} {unit : SourceUnit} {units units' : List SourceUnit} {r : Registry}

/-! ## Origins -/

namespace Load

theorem ofHeader_withoutOrigin (file : FileScope) (origin : Option String)
    (outer : Option Declared) (header : TypeHeader) :
    (Declared.ofHeader file origin outer header).withoutOrigin =
      Declared.ofHeader file none (outer.map Declared.withoutOrigin) header := by
  cases outer with
  | none => rfl
  | some o => rfl

mutual

theorem declare_withoutOrigin (outer : Option Declared) (known : List Declared)
    (declaration : TypeDeclaration) :
    (declare file origin outer known declaration).map Declared.withoutOrigin =
      declare file none (outer.map Declared.withoutOrigin) (known.map Declared.withoutOrigin)
        declaration := by
  match declaration with
  | .mk header nested =>
      rw [declare, declare, isTaken_map_withoutOrigin, ← ofHeader_withoutOrigin file origin]
      split_ifs with htaken htaken' htaken'
      · rfl
      · exact absurd htaken htaken'
      · exact absurd htaken' htaken
      · rw [declareAll_withoutOrigin, List.map_append, List.map_singleton, Option.map_some]

theorem declareAll_withoutOrigin (outer : Option Declared) (known : List Declared)
    (declarations : List TypeDeclaration) :
    (declareAll file origin outer known declarations).map Declared.withoutOrigin =
      declareAll file none (outer.map Declared.withoutOrigin) (known.map Declared.withoutOrigin)
        declarations := by
  match declarations with
  | [] => rfl
  | declaration :: rest =>
      rw [declareAll, declareAll, declareAll_withoutOrigin, declare_withoutOrigin]

end

/-- What a unit declares differs from one origin to another in the origin alone. -/
theorem declareUnit_withoutOrigin (known : List Declared) (origin : Option String)
    (content : CompilationUnit) :
    (declareUnit known origin content).map Declared.withoutOrigin =
      declareUnit (known.map Declared.withoutOrigin) none content :=
  declareAll_withoutOrigin none known content.types

/-- Types that a parsed text declares on its own, without an origin. -/
def declaredIn (content : Except Source.SourceError CompilationUnit) : List Declared :=
  match content with
  | .ok content => declareUnit [] none content
  | .error _ => []

end Load

namespace SourceUnit

/-- What the text is parsed to. -/
def content (unit : SourceUnit) : Except Source.SourceError CompilationUnit :=
  Source.parse unit.code

theorem addTo_withoutOrigin (unit : SourceUnit) :
    (unit.addTo []).map Declared.withoutOrigin = declaredIn unit.content := by
  rw [addTo, content]
  cases Source.parse unit.code with
  | ok content => exact declareUnit_withoutOrigin [] unit.origin content
  | error e => rfl

theorem declaredNames_eq (unit : SourceUnit) :
    unit.declaredNames = (declaredIn unit.content).map Declared.canonical := by
  rw [← addTo_withoutOrigin, List.map_map]
  rfl

/-- Binary names of the types that the unit declares on its own. -/
def declaredBinaryNames (unit : SourceUnit) : List String := (unit.addTo []).map Declared.binary

end SourceUnit

/-! ## Readings -/

/-- The units of a strict reading that succeeds parse. -/
theorem parses_of_readUnits {skipped : List SkippedSource}
    (h : readUnits true units = .ok (known, skipped)) : ∀ unit ∈ units, unit.parses = true := by
  -- unit by unit, whatever was known and skipped before
  rw [readUnits_eq] at h
  generalize (([], []) : List Declared × List SkippedSource) = state at h
  induction units generalizing state with
  | nil => exact fun unit hunit => absurd hunit List.not_mem_nil
  | cons unit rest ih =>
      rw [List.foldlM_cons, bind_eq_ok_iff] at h
      obtain ⟨state', hfirst, hrest⟩ := h
      refine List.forall_mem_cons.2 ⟨?_, ih _ hrest⟩
      rw [readUnit] at hfirst
      rw [SourceUnit.parses]
      cases hparse : Source.parse unit.code with
      | ok content => rfl
      | error e =>
          rw [hparse] at hfirst
          cases hfirst

/-- What is known after a reading of units that parse, without origins. -/
theorem foldl_addTo_withoutOrigin (hparse : ∀ unit ∈ units, unit.parses = true)
    (hapart : units.Pairwise fun a b => a.declaredNames.Disjoint b.declaredNames) :
    (units.foldl SourceUnit.addTo []).map Declared.withoutOrigin =
      (units.map SourceUnit.content).flatMap declaredIn := by
  have hall : units.filter SourceUnit.parses = units := List.filter_eq_self.2 hparse
  rw [foldl_addTo_eq_flatMap (by rwa [hall]), hall, List.map_flatMap, List.flatMap_map]
  exact List.flatMap_congr fun unit _ => unit.addTo_withoutOrigin

/-- A unit without types adds nothing. -/
theorem addTo_of_declaredNames (h : unit.declaredNames = []) : unit.addTo known = known := by
  have hnothing : unit.addTo [] = [] := List.map_eq_nil_iff.1 h
  rw [SourceUnit.addTo_eq_append (h ▸ List.disjoint_nil_right _), hnothing, List.append_nil]

/-- Units without types can be left out. -/
theorem foldl_addTo_filter_of_declaredNames {α : Type} {f : α → SourceUnit} {p : α → Bool}
    {l : List α} (h : ∀ a ∈ l, (f a).declaredNames ≠ [] → p a = true) (known : List Declared) :
    ((l.filter p).map f).foldl SourceUnit.addTo known = (l.map f).foldl SourceUnit.addTo known := by
  induction l generalizing known with
  | nil => rfl
  | cons a rest ih =>
      have hrest := ih fun b hb => h b (List.mem_cons_of_mem _ hb)
      rw [List.map_cons, List.foldl_cons]
      by_cases ha : p a = true
      · rw [List.filter_cons_of_pos ha, List.map_cons, List.foldl_cons, hrest]
      · have hnames : (f a).declaredNames = [] := by
          by_contra hne
          exact ha (h a List.mem_cons_self hne)
        rw [List.filter_cons_of_neg ha, hrest, addTo_of_declaredNames hnames]

/-- Units of the same contents declare the same names. -/
theorem perm_declaredNames
    (h : (units.map SourceUnit.content).Perm (units'.map SourceUnit.content)) :
    (units.map SourceUnit.declaredNames).Perm (units'.map SourceUnit.declaredNames) := by
  have hnames : ∀ units : List SourceUnit, units.map SourceUnit.declaredNames =
      (units.map SourceUnit.content).map fun content =>
        (declaredIn content).map Declared.canonical := by
    intro units
    rw [List.map_map]
    exact List.map_congr_left fun unit _ => unit.declaredNames_eq
  rw [hnames, hnames]
  exact h.map _

/-- Units of the same contents are apart as well. -/
theorem pairwise_disjoint_of_perm
    (h : (units.map SourceUnit.content).Perm (units'.map SourceUnit.content))
    (hapart : units.Pairwise fun a b => a.declaredNames.Disjoint b.declaredNames) :
    units'.Pairwise fun a b => a.declaredNames.Disjoint b.declaredNames :=
  List.pairwise_map.1 (((perm_declaredNames h).pairwise_iff List.Disjoint.symm).1
    (List.pairwise_map.2 hapart))

namespace Registry

/-- What is loaded strictly is loaded as well without some of the units that have no types. -/
theorem load_filter {α : Type} {f : α → SourceUnit} {p : α → Bool} {l : List α}
    (h : load true (l.map f) = .ok r) (hp : ∀ a ∈ l, (f a).declaredNames ≠ [] → p a = true) :
    load true ((l.filter p).map f) = .ok r := by
  obtain ⟨known, skipped, hunits, rfl⟩ := exists_of_read (read_of_load h)
  have hparse := parses_of_readUnits hunits
  rw [readUnits_of_parses hparse, ← foldl_addTo_filter_of_declaredNames hp] at hunits
  obtain ⟨rfl, rfl⟩ := Prod.mk.inj (Except.ok.inj hunits)
  have hparse' : ∀ unit ∈ (l.filter p).map f, unit.parses = true := fun unit hunit =>
    hparse unit (List.map_subset f (List.filter_subset_self l) hunit)
  exact load_eq_ok_iff.2 ⟨read_of_parses hparse', (load_eq_ok_iff.1 h).2⟩

/-- What was loaded from units that are apart are the types that they declare. -/
theorem isSome_summary?_of_load {strict : Bool} (h : load strict units = .ok r)
    (hapart : units.Pairwise fun a b => a.declaredNames.Disjoint b.declaredNames) (name : String) :
    (r.summary? name).isSome = true ↔ ∃ unit ∈ units, name ∈ unit.declaredNames := by
  obtain ⟨known, skipped, hunits, rfl⟩ := exists_of_read (read_of_load h)
  have hlenient := readUnits_lenient_of_ok hunits
  rw [readUnits_lenient] at hlenient
  obtain ⟨rfl, rfl⟩ := Prod.mk.inj (Except.ok.inj hlenient)
  have hknown : units.foldl SourceUnit.addTo [] = [] ++ _ :=
    foldl_addTo_eq_append (fun _ _ => List.disjoint_nil_left _) hapart
  rw [isSome_summary?_ofDeclared (wellDeclared_foldl_addTo units wellDeclared_nil), hknown,
    List.nil_append, List.map_flatMap, List.mem_flatMap]
  rfl

/-- Units that were loaded strictly are loaded again, in another order and under other origins, to
a registry of the same types, which resolves names alike. -/
theorem load_again (h : load true units = .ok r)
    (hcontent : (units.map SourceUnit.content).Perm (units'.map SourceUnit.content))
    (hapart : units.Pairwise fun a b => a.declaredNames.Disjoint b.declaredNames)
    (hbinary : (units.flatMap SourceUnit.declaredBinaryNames).Nodup) :
    ∃ r', load false units' = .ok r' ∧ r'.skipped = [] ∧ r.LoadedAlike r' ∧
      ∀ name, ResolvedAlike (r.resolve name) (r'.resolve name) := by
  obtain ⟨known, skipped, hunits, rfl⟩ := exists_of_read (read_of_load h)
  have hparse := parses_of_readUnits hunits
  rw [readUnits_of_parses hparse] at hunits
  obtain ⟨rfl, rfl⟩ := Prod.mk.inj (Except.ok.inj hunits)
  -- the units parse again, and declare the same
  have hparse' : ∀ unit ∈ units', unit.parses = true := by
    intro unit' hunit'
    obtain ⟨unit, hunit, hsame⟩ := List.mem_map.1 (hcontent.mem_iff.2 (List.mem_map_of_mem hunit'))
    exact (congrArg Except.isOk hsame).symm.trans (hparse unit hunit)
  have hapart' := pairwise_disjoint_of_perm hcontent hapart
  have hsame : SameTypes (units.foldl SourceUnit.addTo []) (units'.foldl SourceUnit.addTo []) := by
    rw [SameTypes, foldl_addTo_withoutOrigin hparse hapart,
      foldl_addTo_withoutOrigin hparse' hapart']
    exact hcontent.flatMap_right _
  have hdeclared := wellDeclared_foldl_addTo units wellDeclared_nil
  have hdeclared' := wellDeclared_foldl_addTo units' wellDeclared_nil
  have hnone := (load_eq_ok_iff.1 h).2
  have hdifferent : ((units.foldl SourceUnit.addTo []).map Declared.binary).Nodup := by
    have hall : units.filter SourceUnit.parses = units := List.filter_eq_self.2 hparse
    rw [foldl_addTo_eq_flatMap (by rwa [hall]), hall, List.map_flatMap]
    exact hbinary
  refine ⟨_, load_eq_ok_iff.2 ⟨read_of_parses hparse', ?_⟩, rfl, ?_, fun name => ?_⟩
  · exact findCycle?_eq_none_of_sameTypes hdeclared hdeclared' hsame hnone
  · exact loadedAlike_of_sameTypes hdeclared hdeclared' hsame
  · exact resolvedAlike hdeclared hdeclared' hsame hdifferent hnone name

end Registry

end Skeletal
