import Mathlib.Data.List.Sort
import Mathlib.Data.String.Basic
import Skeletal.Proofs.Load.Loaded
import Skeletal.Proofs.Load.Sites

/-!
# Well-formed types

What holds of every loaded type, whatever the units declare: its names and modifiers go with those
of the type around it, its supertypes and constructors with its kind, and its members belong to it
(`Registry.WellFormedType`). Each kept declaration is linked once, under the first place of its name
(`Registry.read_wellFormed`).
-/

set_option autoImplicit false

namespace Skeletal

/-! ## Modifiers -/

/-- Words without repetition in canonical order: those with a place in the order of writing stand
in that order, and the others come last in dictionary order. -/
def Arranged (words : List String) : Prop :=
  words.Nodup ∧ ∃ known others, words = known ++ others ∧ known.Sublist modifierOrder ∧
    (∀ word ∈ others, word ∉ modifierOrder) ∧ others.Pairwise (· ≤ ·)

variable {words : List String} {word : String}

theorem mem_arrangeModifiers : word ∈ arrangeModifiers words ↔ word ∈ words := by
  rw [arrangeModifiers, List.mem_append, List.mem_mergeSort, List.mem_eraseDups, List.mem_filter,
    List.mem_filter]
  by_cases h : word ∈ modifierOrder <;> simp [h]

/-- Each element that is kept is removed from what follows it. -/
theorem nodup_eraseDups (words : List String) : words.eraseDups.Nodup := by
  match words with
  | [] => exact List.nodup_nil
  | word :: rest =>
      rw [List.eraseDups_cons, List.nodup_cons, List.mem_eraseDups, List.mem_filter]
      exact ⟨by simp, nodup_eraseDups _⟩
termination_by words.length
decreasing_by exact Nat.lt_succ_of_le (List.length_filter_le _ _)

theorem arranged_arrangeModifiers (words : List String) : Arranged (arrangeModifiers words) := by
  have hsublist : (modifierOrder.filter (· ∈ words)).Sublist modifierOrder := List.filter_sublist
  have hothers : ∀ word ∈ ((words.filter (· ∉ modifierOrder)).eraseDups.mergeSort (· ≤ ·)),
      word ∉ modifierOrder := by
    intro word hword
    rw [List.mem_mergeSort, List.mem_eraseDups, List.mem_filter] at hword
    simpa using hword.2
  refine ⟨?_, _, _, rfl, hsublist, hothers, List.pairwise_mergeSort' (· ≤ ·) _⟩
  have horder : modifierOrder.Nodup := by decide
  have hdups : ((words.filter (· ∉ modifierOrder)).eraseDups.mergeSort (· ≤ ·)).Nodup :=
    (List.mergeSort_perm _ _).nodup_iff.2 (nodup_eraseDups _)
  refine List.nodup_append.2 ⟨horder.sublist hsublist, hdups, ?_⟩
  rintro word hword _ hother rfl
  exact hothers word hother (hsublist.subset hword)

theorem arranged_nil : Arranged [] :=
  ⟨List.nodup_nil, [], [], rfl, by simp, by simp, List.Pairwise.nil⟩

theorem arranged_singleton (h : word ∈ modifierOrder) : Arranged [word] :=
  ⟨List.nodup_singleton word, [word], [], rfl, List.singleton_sublist.2 h, by simp,
    List.Pairwise.nil⟩

namespace Load

/-! ## Linked members -/

variable {d : Declared} {m : LinkedMember} {isLoaded : String → Bool}

theorem isSome_superclass_link (isLoaded : String → Bool) (hkind : d.kind = .classType) :
    (link isLoaded d).superclass.isSome = true := by
  simp only [link, linkSuperclass, hkind]
  cases d.header.extended <;> rfl

theorem superclass_link_enum (isLoaded : String → Bool) (hkind : d.kind = .enumType) :
    (link isLoaded d).superclass = some { base := ⟨.standard Standard.enum, 0⟩ } := by
  simp only [link, linkSuperclass, hkind]

theorem superclass_link_interface (isLoaded : String → Bool)
    (hkind : isInterfaceKind d.kind = true) : (link isLoaded d).superclass = none := by
  simp only [link, linkSuperclass]
  split
  · rename_i hclass
    rw [hclass] at hkind
    cases hkind
  · rename_i henum
    rw [henum] at hkind
    cases hkind
  · rfl

/-- Classes have constructors, and other types have none. -/
theorem constructors_link (isLoaded : String → Bool) (d : Declared) :
    (link isLoaded d).constructors ≠ [] ↔ d.kind = .classType := by
  simp only [link, linkConstructors]
  split_ifs with hkind
  · refine iff_of_true ?_ hkind
    cases d.header.constructors <;> simp
  · exact iff_of_false (fun h => h rfl) hkind

/-- What every constructor of a linked type is. -/
theorem constructor_of_mem (hm : m ∈ (link isLoaded d).constructors) :
    m.kind = .constructor ∧ Arranged m.modifiers := by
  simp only [link, linkConstructors] at hm
  split_ifs at hm
  · split at hm
    · obtain rfl := List.mem_singleton.1 hm
      refine ⟨rfl, ?_⟩
      -- the constructor that is not written has a word of access, or none
      simp only [defaultConstructor]
      cases visibilityOf d.modifiers with
      | package => exact arranged_nil
      | everyone => exact arranged_singleton (by decide)
      | heirs => exact arranged_singleton (by decide)
      | owner => exact arranged_singleton (by decide)
    · obtain ⟨c, -, rfl⟩ := List.mem_map.1 hm
      exact ⟨rfl, arranged_arrangeModifiers _⟩
  · exact absurd hm List.not_mem_nil

/-- A method of an interface is private if it says so, and public otherwise. -/
theorem mem_methodModifiers (kind : TypeKind) (c : Source.Callable)
    (h : isInterfaceKind kind = true) :
    "public" ∈ methodModifiers kind c ∨ "private" ∈ methodModifiers kind c := by
  simp only [methodModifiers, mem_arrangeModifiers, h, if_true]
  by_cases hprivate : "private" ∈ c.modifiers
  · exact Or.inr (by simp [hprivate])
  · exact Or.inl (by simp [hprivate])

/-- What every method of a linked type is. -/
theorem method_of_mem (hm : m ∈ (link isLoaded d).methods) :
    m.kind = .method ∧ Arranged m.modifiers ∧ m.result.isSome = true ∧
      (isInterfaceKind d.kind = true → "public" ∈ m.modifiers ∨ "private" ∈ m.modifiers) := by
  obtain ⟨c, -, rfl⟩ := List.mem_map.1 hm
  exact ⟨rfl, arranged_arrangeModifiers _, rfl, mem_methodModifiers d.kind c⟩

end Load

open Load
open Load.Layout (firstLoaded)

theorem isSome_eq_of_rel {α β : Type} {R : α → β → Prop} {o : Option α} {p : Option β}
    (h : Option.Rel R o p) : p.isSome = o.isSome := by
  cases h with
  | none => rfl
  | some _ => rfl

theorem exists_of_rel_some {α β : Type} {R : α → β → Prop} {a : α} {p : Option β}
    (h : Option.Rel R (some a) p) : ∃ b, p = some b ∧ R a b := by
  cases h with
  | some hab => exact ⟨_, rfl, hab⟩

/-- The enums' own superclass is no generic type, and so it is seen as it is. -/
theorem eq_enum_of_supertypeAt {layout : Layout} {v : Universe} {t : TypeId}
    (h : SupertypeAt layout v { base := ⟨.standard Standard.enum, 0⟩ } t) : t = Standard.enum := by
  obtain ⟨base, arguments, hbase, harguments, hseen⟩ := h
  obtain - | - := hbase
  obtain - | - := harguments
  have htakes : standard.takesArguments Standard.enum [] ≠ true := by decide +kernel
  rwa [SeenAs, Layout.place, if_neg htakes] at hseen

namespace Registry

/-! ## Loaded types -/

/-- Supertypes, constructors and modifiers that go with the kind of a loaded type. -/
def ShapedByKind (d : Descriptor) : Prop :=
  match d.kind with
  | .classType => d.superclass.isSome = true ∧ d.constructors ≠ []
  | .enumType => d.superclass = some Standard.enum ∧ d.constructors = [] ∧ "final" ∈ d.modifiers
  | .interfaceType | .annotationType =>
    d.superclass = none ∧ d.constructors = [] ∧ "abstract" ∈ d.modifiers ∧
      "interface" ∈ d.modifiers
  | _ => False

/-- The type is nested in a type: it is called after it and shares its file. -/
structure NestedIn (w : Universe) (t e : TypeId) : Prop where
  canonical : w.canonical t = w.canonical e ++ "." ++ (w.get t).name
  binary : ∃ outer, (w.get e).binary = some outer ∧
    (w.get t).binary = some (outer ++ "$" ++ (w.get t).name)
  package : (w.get t).package = (w.get e).package
  origin : (w.get t).origin = (w.get e).origin
  modifiers : (w.get e).isInterface = true →
    "public" ∈ (w.get t).modifiers ∧ "static" ∈ (w.get t).modifiers

/-- What holds of every loaded type. -/
structure WellFormedType (r : Registry) (t : TypeId) : Prop where
  nested : ∀ e ∈ (r.world.get t).enclosing, e ∈ r.types ∧ NestedIn r.world t e
  top : (r.world.get t).enclosing = none →
    r.world.canonical t = qualify (r.world.get t).package (r.world.get t).name ∧
      (r.world.get t).binary = some (r.world.canonical t)
  shaped : ShapedByKind (r.world.get t)
  modifiers : Arranged (r.world.get t).modifiers
  constructors : ∀ m ∈ (r.world.get t).constructors,
    m.kind = .constructor ∧ m.declaring = some t ∧ Arranged m.modifiers
  methods : ∀ m ∈ (r.world.get t).methods,
    m.kind = .method ∧ m.declaring = some t ∧ Arranged m.modifiers ∧ m.result.isSome = true ∧
      ((r.world.get t).isInterface = true → "public" ∈ m.modifiers ∨ "private" ∈ m.modifiers)

variable {strict : Bool} {units : List SourceUnit} {known : List Declared}
  {skipped : List SkippedSource} {t : TypeId} {d : Declared}

section

variable (h : WellDeclared known) (hd : d ∈ known)

include h hd

/-- A type that is declared in another one is nested in it. -/
theorem nestedIn_loadedPlace {o : Declared} {header : Source.TypeHeader}
    (ho : o.Surrounds d.file d.origin known)
    (heq : d = Declared.ofHeader d.file d.origin (some o) header) :
    NestedIn (ofDeclared known skipped).world ((layoutOf known).loadedPlace d.canonical)
      ((layoutOf known).loadedPlace o.canonical) := by
  have hinner := hasShell_loadedPlace h hd skipped
  have houter := hasShell_loadedPlace h ho.mem skipped
  constructor
  · rw [canonical_loadedPlace h hd, canonical_loadedPlace h ho.mem, hinner.name, heq]
    rfl
  · refine ⟨o.binary, houter.binary, ?_⟩
    rw [hinner.binary, hinner.name, heq]
    rfl
  · rw [hinner.package, houter.package, ho.file_eq]
  · rw [hinner.origin, houter.origin, ho.origin_eq]
  · intro hinterface
    have hkind : isInterfaceKind o.kind = true := by rwa [← houter.kind]
    rw [hinner.modifiers, heq]
    simp [Declared.ofHeader, impliedModifiers, mem_arrangeModifiers, hkind]

/-- The modifiers of a type are those of its words, its surroundings and its kind. -/
theorem exists_impliedModifiers :
    ∃ outer words, d.modifiers = impliedModifiers d.kind outer words := by
  obtain ⟨outer, header, heq, -⟩ := h.ofHeader d hd
  refine ⟨outer.map Declared.kind, header.modifiers, ?_⟩
  rw [heq]
  rfl

theorem isSome_superclass_loadedPlace : ((ofDeclared known skipped).world.get
    ((layoutOf known).loadedPlace d.canonical)).superclass.isSome =
      (link (isTaken known) d).superclass.isSome :=
  isSome_eq_of_rel (realizes_loadedPlace h hd).superclass

/-- Only classes have constructors. -/
theorem constructors_loadedPlace : ((ofDeclared known skipped).world.get
    ((layoutOf known).loadedPlace d.canonical)).constructors = [] ↔ d.kind ≠ .classType := by
  rw [Ne, ← constructors_link (isTaken known) d, not_not, ← List.length_eq_zero_iff,
    ← List.length_eq_zero_iff, (realizes_loadedPlace h hd).constructors.length_eq]
  rfl

/-- Interfaces have neither superclass nor constructors, and they say what they are. -/
theorem interface_loadedPlace (hkind : isInterfaceKind d.kind = true) :
    ((ofDeclared known skipped).world.get
        ((layoutOf known).loadedPlace d.canonical)).superclass = none ∧
      ((ofDeclared known skipped).world.get
        ((layoutOf known).loadedPlace d.canonical)).constructors = [] ∧
      "abstract" ∈ d.modifiers ∧ "interface" ∈ d.modifiers := by
  obtain ⟨outer, words, hmodifiers⟩ := exists_impliedModifiers h hd
  refine ⟨?_, (constructors_loadedPlace h hd).2 ?_, ?_⟩
  · rw [← Option.not_isSome_iff_eq_none, isSome_superclass_loadedPlace h hd,
      superclass_link_interface _ hkind]
    exact Bool.false_ne_true
  · intro hclass
    rw [hclass] at hkind
    cases hkind
  · rw [hmodifiers]
    simp [impliedModifiers, mem_arrangeModifiers, hkind]

/-- Enums are final and inherit from the class of all enums. -/
theorem enum_loadedPlace (hkind : d.kind = .enumType) :
    ((ofDeclared known skipped).world.get
        ((layoutOf known).loadedPlace d.canonical)).superclass = some Standard.enum ∧
      "final" ∈ d.modifiers := by
  obtain ⟨outer, words, hmodifiers⟩ := exists_impliedModifiers h hd
  have hsuperclass := (realizes_loadedPlace h hd).superclass
  rw [superclass_link_enum _ hkind] at hsuperclass
  obtain ⟨t, ht, hat⟩ := exists_of_rel_some hsuperclass
  constructor
  · rw [← eq_enum_of_supertypeAt hat]
    exact ht
  · rw [hmodifiers, hkind]
    simp [impliedModifiers, mem_arrangeModifiers]

/-- Supertypes, constructors and modifiers of a loaded type go with its kind. -/
theorem shapedByKind_loadedPlace : ShapedByKind
    ((ofDeclared known skipped).world.get ((layoutOf known).loadedPlace d.canonical)) := by
  have hshell := hasShell_loadedPlace h hd skipped
  have hkind := h.kind_eq hd
  rw [ShapedByKind, hshell.kind, hshell.modifiers]
  cases hheader : d.header.kind with
  | classType =>
      rw [hheader, kindOf] at hkind
      rw [hkind]
      refine ⟨?_, fun hnil => (constructors_loadedPlace h hd).1 hnil hkind⟩
      rw [isSome_superclass_loadedPlace h hd, isSome_superclass_link _ hkind]
  | enumType =>
      rw [hheader, kindOf] at hkind
      obtain ⟨hsuperclass, hfinal⟩ := enum_loadedPlace h hd hkind
      rw [hkind]
      exact ⟨hsuperclass, (constructors_loadedPlace h hd).2 (by rw [hkind]; decide), hfinal⟩
  | interfaceType =>
      rw [hheader, kindOf] at hkind
      rw [hkind]
      exact interface_loadedPlace h hd (by rw [hkind]; rfl)
  | annotationType =>
      rw [hheader, kindOf] at hkind
      rw [hkind]
      exact interface_loadedPlace h hd (by rw [hkind]; rfl)

/-- The members of a loaded type belong to it. -/
theorem wellFormedType_loadedPlace :
    (ofDeclared known skipped).WellFormedType ((layoutOf known).loadedPlace d.canonical) := by
  have hshell := hasShell_loadedPlace h hd skipped
  have hrealizes := realizes_loadedPlace h hd
  obtain ⟨outer, header, heq, houter⟩ := h.ofHeader d hd
  constructor
  · intro e he
    rw [hshell.enclosing, heq, Option.mem_def] at he
    obtain ⟨name, hname, rfl⟩ := Option.map_eq_some_iff.1 he
    obtain ⟨o, rfl, rfl⟩ := Option.map_eq_some_iff.1 hname
    have ho := houter o rfl
    refine ⟨?_, nestedIn_loadedPlace h hd ho heq⟩
    rw [types_ofDeclared h]
    exact List.mem_map_of_mem ho.mem
  · intro hnone
    rw [hshell.enclosing, Option.map_eq_none_iff, heq] at hnone
    obtain rfl := Option.map_eq_none_iff.1 hnone
    rw [canonical_loadedPlace h hd, hshell.package, hshell.name, hshell.binary, heq]
    exact ⟨rfl, rfl⟩
  · exact shapedByKind_loadedPlace h hd
  · obtain ⟨outer, words, hmodifiers⟩ := exists_impliedModifiers h hd
    rw [hshell.modifiers, hmodifiers]
    exact arranged_arrangeModifiers _
  · intro m' hm'
    obtain ⟨m, hm, hmm'⟩ := exists_mem_of_forall₂ hrealizes.constructors hm'
    obtain ⟨hkind, harranged⟩ := constructor_of_mem hm
    rw [hmm'.kind, hmm'.declaring, hmm'.modifiers]
    exact ⟨hkind, rfl, harranged⟩
  · intro m' hm'
    obtain ⟨m, hm, hmm'⟩ := exists_mem_of_forall₂ hrealizes.methods hm'
    obtain ⟨hkind, harranged, hresult, hinterface⟩ := method_of_mem hm
    rw [hmm'.kind, hmm'.declaring, hmm'.modifiers, isSome_eq_of_rel hmm'.result]
    refine ⟨hkind, rfl, harranged, hresult, fun h => hinterface ?_⟩
    rwa [← hshell.kind]

end

/-! ## Kept declarations -/

/-- The types of a registry and the declarations of units that they come from. A type is entered
under its canonical name. Of the declarations of one name that are in no dropped one the first is
kept, and each kept declaration is linked once, to the type that stands for it. -/
structure WellFormed (r : Registry) (units : List SourceUnit) : Prop where
  ofCanonical?_eq_some_iff : ∀ name t,
    r.ofCanonical? name = some t ↔ t ∈ r.types ∧ r.world.canonical t = name
  types : ∀ t ∈ r.types, r.WellFormedType t
  declarations : ∃ kept : List Site,
    (∀ before s after, sitesFrom 0 units = before ++ s :: after →
      (s ∈ kept ↔ s.Reached (sitesFrom 0 units) kept ∧
        ∀ e ∈ before, e.Reached (sitesFrom 0 units) kept → e.canonical ≠ s.canonical)) ∧
    kept.Sublist (sitesFrom 0 units) ∧ r.types.Nodup ∧
    List.Forall₂ (fun s t => Realizes (layoutOf (kept.map Site.declared))
      (link (isTaken (kept.map Site.declared)) s.declared) (r.world.get t) r.world) kept r.types

/-- Units that all parse are read to well-formed types. -/
theorem read_wellFormed (hparse : ∀ unit ∈ units, unit.parses = true) :
    ∃ r, read strict units = .ok r ∧ r.WellFormed units := by
  have hdeclared := wellDeclared_foldl_addTo units wellDeclared_nil
  obtain ⟨kept, hkeeps, hknown⟩ := exists_keeps 0 units []
  rw [List.nil_append] at hknown
  rw [hknown] at hdeclared
  refine ⟨_, read_of_parses hparse, ?_⟩
  rw [hknown]
  have htypes := types_ofDeclared hdeclared []
  constructor
  · exact fun name t => ofCanonical?_ofDeclared hdeclared name
  · intro t ht
    rw [htypes, List.mem_map] at ht
    obtain ⟨d, hd, rfl⟩ := ht
    exact wellFormedType_loadedPlace hdeclared hd
  · refine ⟨kept, fun before s after hsplit => hkeeps.mem_iff_first hsplit, hkeeps.sublist,
      nodup_types hdeclared [], ?_⟩
    · rw [htypes, List.map_map, List.forall₂_map_right_iff, List.forall₂_same]
      exact fun s hs => realizes_loadedPlace hdeclared (List.mem_map_of_mem hs)

/-- Units with types of all kinds inside each other. A name is declared twice, and what the second
declaration nests is dropped with it. -/
def shelfUnits : List SourceUnit :=
  [{ code := "package p; interface Shelf \x7b void add(Book b); private void sort() \x7b \x7d " ++
      "class Book \x7b enum Size \x7b SMALL \x7d \x7d @interface Old \x7b \x7d \x7d" },
    { code := "package p; final strictfp class Shelf \x7b class Board \x7b \x7d \x7d class Lamp \x7b \x7d" }]

/-- The units are read to well-formed types. -/
theorem read_wellFormed_shelfUnits : (∀ unit ∈ shelfUnits, unit.parses = true) ∧
    ∃ r, read true shelfUnits = .ok r ∧ r.WellFormed shelfUnits := by
  have hparse : ∀ unit ∈ shelfUnits, unit.parses = true := by decide +kernel
  exact ⟨hparse, read_wellFormed hparse⟩

example : (sitesFrom 0 shelfUnits).map Site.canonical =
    ["p.Shelf", "p.Shelf.Book", "p.Shelf.Book.Size", "p.Shelf.Old", "p.Shelf", "p.Shelf.Board",
      "p.Lamp"] := by
  decide +kernel

example : (match read true shelfUnits with
    | .ok r => r.types.map r.world.canonical
    | .error _ => []) =
    ["p.Shelf", "p.Shelf.Book", "p.Shelf.Book.Size", "p.Shelf.Old", "p.Lamp"] := by
  decide +kernel

end Registry

end Skeletal
