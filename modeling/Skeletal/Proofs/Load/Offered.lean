import Skeletal.Proofs.Load.Acyclic
import Skeletal.Proofs.Load.Loaded
import Skeletal.Proofs.Output.Place
import Skeletal.Proofs.Synthesis.Outcome

/-!
# Types that a registry offers

A registry offers its loaded types and whatever a name is resolved to. The names of these types are
made of identifiers, so that they are names of files: arrays apart, which cannot be implemented, the
files of a class stand in the directories of its package (`namesFiles_of_offers`).
-/

set_option autoImplicit false

namespace Skeletal

open Load
open Load.Layout (firstLoaded)

variable {word package : String} {strict : Bool} {units : List SourceUnit} {r : Registry}
  {t : TypeId} {u : Universe} {known : List Declared} {skipped : List SkippedSource}

/-! ## Identifiers as file names -/

theorem isIdentifierPart_of_isIdentifier (h : Source.isIdentifier word = true) {c : Char}
    (hc : c ∈ word.toList) : Text.isIdentifierPart c = true := by
  rw [Source.isIdentifier] at h
  cases hlist : word.toList with
  | nil =>
      rw [hlist] at hc
      exact absurd hc List.not_mem_nil
  | cons first rest =>
      rw [hlist] at h hc
      simp only [Bool.and_eq_true, List.all_eq_true] at h
      obtain ⟨⟨hfirst, hrest⟩, -⟩ := h
      rcases List.mem_cons.1 hc with rfl | hc
      · rw [Text.isIdentifierPart, hfirst, Bool.true_or]
      · exact hrest c hc

theorem isFileName_of_isIdentifier (h : Source.isIdentifier word = true) : IsFileName word := by
  constructor
  · intro hslash
    have hpart := isIdentifierPart_of_isIdentifier h hslash
    exact absurd hpart (by decide +kernel)
  · intro hmem
    have hnone : ∀ word ∈ ["", ".", ".."], Source.isIdentifier word = false := by decide +kernel
    rw [hnone word hmem] at h
    exact absurd h Bool.false_ne_true

/-- The segments of a package are the identifiers that it is made of. -/
theorem isIdentifier_of_mem_packageSegments (h : Source.IsPackageName package) {segment : String}
    (hsegment : segment ∈ packageSegments package) : Source.isIdentifier segment = true := by
  obtain ⟨names, rfl⟩ := h
  rw [packageSegments] at hsegment
  split_ifs at hsegment with hempty
  · exact absurd hsegment List.not_mem_nil
  · have hnames : names.map Subtype.val ≠ [] := by
      intro hnil
      rw [hnil] at hempty
      exact hempty rfl
    have hpoints : ∀ word ∈ names.map Subtype.val, '.' ∉ word.toList := by
      intro word hword hpoint
      obtain ⟨name, -, rfl⟩ := List.mem_map.1 hword
      have hpart := isIdentifierPart_of_isIdentifier name.property hpoint
      exact absurd hpart (by decide +kernel)
    have hsplit : splitDots (".".intercalate (names.map Subtype.val)) = names.map Subtype.val :=
      Text.partsAt_intercalate hnames hpoints
    rw [hsplit] at hsegment
    obtain ⟨name, -, rfl⟩ := List.mem_map.1 hsegment
    exact name.property

theorem isFileName_of_mem_packageSegments (h : Source.IsPackageName package) {segment : String}
    (hsegment : segment ∈ packageSegments package) : IsFileName segment :=
  isFileName_of_isIdentifier (isIdentifier_of_mem_packageSegments h hsegment)

theorem mem_entries_of_lt (h : t < firstLoaded) : standard.get t ∈ Standard.entries := by
  have hlt : t < Standard.entries.length := h
  have hget : standard.get t = Standard.entries[t] := by
    rw [Universe.get, standard, Array.getD_eq_getD_getElem?, List.getElem?_toArray,
      List.getElem?_eq_getElem hlt]
    rfl
  rw [hget]
  exact List.getElem_mem hlt

/-- Packages of the standard types. -/
def standardPackages : List String :=
  ["", "java.lang", "java.io", "java.util", "java.util.concurrent", "java.lang.annotation",
    "java.nio"]

theorem namesFiles_standard (h : t < firstLoaded) : (standard.get t).NamesFiles := by
  have hnames : ∀ d ∈ Standard.entries, IsFileName d.name ∧ d.package ∈ standardPackages := by
    decide +kernel
  have hpackages : ∀ package ∈ standardPackages, ∀ segment ∈ packageSegments package,
      IsFileName segment := by
    decide +kernel
  obtain ⟨hname, hpackage⟩ := hnames _ (mem_entries_of_lt h)
  exact ⟨hname, hpackages _ hpackage⟩

/-- What stands last after arrays were added is an array. -/
theorem kind_arrayOf {root component : TypeId} {dimensions : Nat} {world : Universe}
    (h : arrayOf root component (dimensions + 1) world = (t, u)) : (u.get t).kind = .array := by
  have hlast : arrayOf root component (dimensions + 1) world =
      addType ((arrayOf root component dimensions world).2.arrayOver root
        (arrayOf root component dimensions world).1)
        (arrayOf root component dimensions world).2 := rfl
  rw [hlast] at h
  obtain ⟨rfl, rfl⟩ := Prod.mk.inj h
  rw [Universe.get_push, if_pos rfl]
  rfl

namespace Registry

/-! ## Offered types -/

/-- The type is loaded, or a name is resolved to it. -/
def Offers (r : Registry) (t : TypeId) (u : Universe) : Prop :=
  t ∈ r.types ∧ u = r.world ∨ ∃ name, r.resolve name = .ok (t, u)

theorem namesFiles_of_mem_types (h : WellDeclared known)
    (ht : t ∈ (ofDeclared known skipped).types) :
    ((ofDeclared known skipped).world.get t).NamesFiles := by
  rw [types_ofDeclared h, List.mem_map] at ht
  obtain ⟨d, hd, rfl⟩ := ht
  have hshell := hasShell_loadedPlace h hd skipped
  constructor
  · rw [hshell.name]
    exact isFileName_of_isIdentifier d.header.isIdentifier_name
  · intro segment hsegment
    rw [hshell.package] at hsegment
    exact isFileName_of_mem_packageSegments d.file.isPackageName_package hsegment

theorem lt_firstLoaded_of_lookup? {name : String} (h : Standard.lookup? name = some t) :
    t < firstLoaded := by
  rw [Standard.lookup?, Option.or_eq_some_iff, Option.or_eq_some_iff] at h
  rcases h with h | ⟨-, h | ⟨-, h⟩⟩
  · exact (primitive_of_primitive? h).1
  · exact lt_firstLoaded_of_findIdx? h
  · exact lt_firstLoaded_of_findIdx? h

theorem mem_types_of_ofSimple? {name : String} (h : r.ofSimple? name = some t) : t ∈ r.types := by
  rw [ofSimple?] at h
  split at h
  · rename_i only hfilter
    obtain rfl := Option.some.inj h
    have hmem : only ∈ r.types.filter fun t => (r.world.get t).name == name := by
      rw [hfilter]
      exact List.mem_singleton_self only
    exact List.mem_of_mem_filter hmem
  · cases h

/-- A name without brackets is that of a loaded type or of a standard one. -/
theorem mem_types_or_lt_of_bare? {name : String} (h : r.bare? name = some t) :
    t ∈ r.types ∨ t < firstLoaded := by
  simp only [bare?, Option.or_eq_some_iff] at h
  rcases h with h | ⟨-, h | ⟨-, h | ⟨-, h⟩⟩⟩
  · exact Or.inl (List.mem_of_find?_eq_some h)
  · exact Or.inl (List.mem_reverse.1 (List.mem_of_find?_eq_some h))
  · exact Or.inr (lt_firstLoaded_of_lookup? h)
  · split_ifs at h
    exact Or.inl (mem_types_of_ofSimple? h)

/-- What a name is resolved to is loaded, standard, or an array. -/
theorem cases_of_resolve {name : String} (h : r.resolve name = .ok (t, u)) :
    ((t ∈ r.types ∨ t < firstLoaded) ∧ u = r.world) ∨
      ∃ component dimensions, (component ∈ r.types ∨ component < firstLoaded) ∧
        arrayOf Standard.object component (dimensions + 1) r.world = (t, u) := by
  simp only [resolve] at h
  cases hbare : r.bare? (splitPairs name).2 with
  | none =>
      rw [hbare] at h
      cases h
  | some component =>
      rw [hbare] at h
      have hcomponent := mem_types_or_lt_of_bare? hbare
      cases hpairs : (splitPairs name).1 with
      | zero =>
          rw [hpairs] at h
          obtain ⟨rfl, rfl⟩ := Prod.mk.inj (Except.ok.inj h)
          exact Or.inl ⟨hcomponent, rfl⟩
      | succ dimensions =>
          rw [hpairs] at h
          exact Or.inr ⟨component, dimensions, hcomponent, Except.ok.inj h⟩

/-- What a registry offers has names of files, unless it is an array. -/
theorem namesFiles_of_offers (h : load strict units = .ok r) (ht : r.Offers t u)
    (hpass : u.checkImplementable t = .ok ()) : (u.get t).NamesFiles := by
  obtain ⟨known, skipped, hunits, rfl⟩ := exists_of_read (read_of_load h)
  have hdeclared := wellDeclared_of_readUnits hunits
  have hfounded := founded_ofDeclared hdeclared skipped
  have hplain : ∀ s, s ∈ (ofDeclared known skipped).types ∨ s < firstLoaded →
      ((ofDeclared known skipped).world.get s).NamesFiles := by
    intro s hs
    rcases hs with hs | hs
    · exact namesFiles_of_mem_types hdeclared hs
    · rw [hfounded.standard s hs]
      exact namesFiles_standard hs
  rcases ht with ⟨ht, rfl⟩ | ⟨name, hresolve⟩
  · exact hplain t (Or.inl ht)
  · rcases cases_of_resolve hresolve with ⟨ht, rfl⟩ | ⟨component, dimensions, hcomponent, harray⟩
    · exact hplain t ht
    · -- an array does not pass the gate
      rw [Universe.checkImplementable_eq_ok_iff] at hpass
      exact absurd (Or.inr (Or.inl (kind_arrayOf harray))) hpass

/-- Whether source units load to a registry that passes a test. -/
def loadsTo (strict : Bool) (units : List SourceUnit) (test : Registry → Bool) : Bool :=
  match load strict units with
  | .error _ => false
  | .ok r => test r

theorem exists_of_loadsTo {test : Registry → Bool} (h : loadsTo strict units test = true) :
    ∃ r, load strict units = .ok r ∧ test r = true := by
  rw [loadsTo] at h
  cases hload : load strict units with
  | error e =>
      rw [hload] at h
      cases h
  | ok r =>
      rw [hload] at h
      exact ⟨r, rfl, h⟩

/-- Whether source units load and a name is resolved to a type that passes a test. -/
def resolvesTo (strict : Bool) (units : List SourceUnit) (name : String)
    (test : TypeId → Universe → Bool) : Bool :=
  match load strict units with
  | .error _ => false
  | .ok r =>
    match r.resolve name with
    | .error _ => false
    | .ok (t, u) => test t u

theorem exists_of_resolvesTo {name : String} {test : TypeId → Universe → Bool}
    (h : resolvesTo strict units name test = true) : ∃ r t u, load strict units = .ok r ∧
      r.resolve name = .ok (t, u) ∧ test t u = true := by
  rw [resolvesTo] at h
  cases hload : load strict units with
  | error e =>
      rw [hload] at h
      cases h
  | ok r =>
      simp only [hload] at h
      cases hresolve : r.resolve name with
      | error e =>
          rw [hresolve] at h
          cases h
      | ok result =>
          rw [hresolve] at h
          exact ⟨r, result.1, result.2, rfl, hresolve, h⟩

end Registry

end Skeletal
