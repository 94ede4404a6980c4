import Skeletal.Proofs.Load.Loaded
import Skeletal.Proofs.Load.Sites

/-!
# Reference integrity

Names reach a type along many routes, and none of them may lead to a second type of a loaded name.
What a loaded type refers to comes from a target (`Denotes`), and a target is only taken for a
standard type or a type outside if no loaded type has its name. So every reference is to a loaded
type itself, to a standard type or a view of one, or to the one placeholder of its name
(`Registry.read_integrity`). This needs that no unit declares a type of `java.lang` anew, which a
simple name would still find.
-/

set_option autoImplicit false

namespace Skeletal

/-- Types that a descriptor refers to directly: its supertypes, and what its members mention. -/
def Descriptor.references (d : Descriptor) : List TypeId :=
  d.directSupertypes ++ d.members.flatMap Member.mentions

namespace Universe

/-- The second type is left of the first one when its array dimensions are stripped. -/
inductive Strips (u : Universe) : TypeId → TypeId → Prop
  | plain {t : TypeId} (kind : (u.get t).kind ≠ .array) : Strips u t t
  | component {t s b : TypeId} (kind : (u.get t).kind = .array)
      (component_eq : (u.get t).component = some s) (rest : Strips u s b) : Strips u t b

/-- A standard type as it stands in the table, or a view of a generic one. -/
def IsStandard (u : Universe) (t : TypeId) : Prop :=
  ∃ place < standard.size, (t = place ∧ u.get t = standard.get place) ∨
    ∃ arguments, standard.takesArguments place arguments = true ∧
      u.get t = standard.viewOf Standard.object t place arguments

/-- A type behind the standard ones that is known by name alone. -/
structure IsPlaceholder (u : Universe) (t : TypeId) : Prop where
  size_le : standard.size ≤ t
  membersUnknown : (u.get t).membersUnknown = true
  members : (u.get t).members = []
  directSupertypes : (u.get t).directSupertypes = []

variable {u : Universe} {t b c : TypeId}

theorem Strips.unique (h : u.Strips t b) (h' : u.Strips t c) : b = c := by
  induction h with
  | plain kind =>
      cases h' with
      | plain => rfl
      | component kind' => exact absurd kind' kind
  | component kind component_eq rest ih =>
      cases h' with
      | plain kind' => exact absurd kind kind'
      | component kind' component_eq' rest' =>
          rw [component_eq] at component_eq'
          obtain rfl := Option.some.inj component_eq'
          exact ih rest'

end Universe

namespace Load

open Layout (firstLoaded)

variable {layout : Layout} {v : Universe} {t b : TypeId} {d : Descriptor} {l : Linked}
  {target : Target}

/-! ## What a reference denotes -/

/-- The type of a target: the one in its place, or a view of it if it is a standard type. -/
def Denotes (layout : Layout) (v : Universe) (target : Target) (b : TypeId) : Prop :=
  b = layout.place target ∨ ∃ place arguments, target = .standard place ∧
    standard.takesArguments place arguments = true ∧
    v.get b = standard.viewOf Standard.object b place arguments

theorem ArrayOver.strips {component : TypeId} {dimensions : Nat}
    (h : ArrayOver v component dimensions t) (hplain : (v.get component).kind ≠ .array) :
    v.Strips t component := by
  induction h with
  | component => exact .plain hplain
  | array below kind component_eq canonical methods ih => exact .component kind component_eq ih

/-- Places are not given out to arrays. -/
theorem Founded.kind_place_ne_array (hv : Founded layout v)
    (hloaded : ∀ c ∈ layout.loaded, (v.get (layout.loadedPlace c)).kind ≠ .array)
    (h : layout.Covers target) : (v.get (layout.place target)).kind ≠ .array := by
  cases target with
  | standard place =>
      rw [Layout.place, hv.standard place h]
      exact kind_standard_ne_array place
  | declared canonical => exact hloaded canonical h
  | outside canonical =>
      rw [hv.outside canonical h]
      intro h
      cases h

theorem exists_mem_of_rel {α β : Type} {R : α → β → Prop} {o : Option α} {p : Option β} {y : β}
    (h : Option.Rel R o p) (hy : y ∈ p) : ∃ x ∈ o, R x y := by
  cases h with
  | none => cases hy
  | some hxy =>
      obtain rfl := Option.some.inj hy
      exact ⟨_, rfl, hxy⟩

section

variable (hv : Founded layout v)
  (hloaded : ∀ c ∈ layout.loaded, (v.get (layout.loadedPlace c)).kind ≠ .array)

include hv hloaded

theorem ReferenceAt.denotes {r : Reference} (h : ReferenceAt layout v r t)
    (hcovers : layout.Covers r.target) : ∃ b, v.Strips t b ∧ Denotes layout v r.target b :=
  ⟨_, ArrayOver.strips h (hv.kind_place_ne_array hloaded hcovers), Or.inl rfl⟩

theorem SupertypeAt.denotes {r : SupertypeReference} (h : SupertypeAt layout v r t)
    (hcovers : layout.Covers r.base.target) :
    ∃ b, v.Strips t b ∧ Denotes layout v r.base.target b := by
  obtain ⟨⟨target, dimensions⟩, references⟩ := r
  obtain ⟨base, arguments, hbase, -, hseen⟩ := h
  rw [SeenAs] at hseen
  split_ifs at hseen with htakes
  · have hlt := lt_of_takesArguments htakes
    refine ⟨t, .plain (by rw [hseen]; exact kind_standard_ne_array base), Or.inr ?_⟩
    -- what takes arguments is a standard type, and so neither an array nor one of the other places
    cases dimensions with
    | succ dimensions => exact absurd hlt (Nat.not_lt.2 (ArrayOver.firstLoaded_le hv hbase))
    | zero =>
        obtain - | - := hbase
        cases target with
        | standard place => exact ⟨place, arguments, rfl, htakes, hseen⟩
        | declared canonical => exact absurd hlt (Nat.not_lt.2 (Nat.le_add_right _ _))
        | outside canonical =>
            have hle := (Nat.le_add_right firstLoaded layout.loaded.length).trans
              (Nat.le_add_right _ (layout.outside.idxOf canonical))
            exact absurd hlt (Nat.not_lt.2 hle)
  · rw [hseen]
    exact hbase.denotes hv hloaded hcovers

theorem MemberAt.denotes {owner : TypeId} {m : LinkedMember} {m' : Member}
    (h : MemberAt layout v owner m m') (hcovers : ∀ target ∈ m.targets, layout.Covers target)
    (ht : t ∈ m'.mentions) :
    ∃ target ∈ m.targets, ∃ b, v.Strips t b ∧ Denotes layout v target b := by
  -- each type that is mentioned stands for a reference of the linked member
  have hreference : ∃ r ∈ m.parameters ++ m.exceptions ++ m.result.toList,
      ReferenceAt layout v r t := by
    simp only [Member.mentions, List.mem_append, Option.mem_toList] at ht ⊢
    rcases ht with (ht | ht) | ht
    · obtain ⟨r, hr, hrt⟩ := exists_mem_of_forall₂ h.parameters ht
      exact ⟨r, Or.inl (Or.inl hr), hrt⟩
    · obtain ⟨r, hr, hrt⟩ := exists_mem_of_forall₂ h.exceptions ht
      exact ⟨r, Or.inl (Or.inr hr), hrt⟩
    · obtain ⟨r, hr, hrt⟩ := exists_mem_of_rel h.result ht
      exact ⟨r, Or.inr hr, hrt⟩
  obtain ⟨r, hr, hrt⟩ := hreference
  have htarget : r.target ∈ m.targets := List.mem_map_of_mem hr
  exact ⟨r.target, htarget, hrt.denotes hv hloaded (hcovers _ htarget)⟩

/-- What a realized type refers to is denoted by a target of the linked type. -/
theorem Realizes.denotes (h : Realizes layout l d v) (hl : l.Placed layout)
    (ht : t ∈ d.references) :
    ∃ target ∈ l.targets, ∃ b, v.Strips t b ∧ Denotes layout v target b := by
  simp only [Descriptor.references, Descriptor.directSupertypes, Descriptor.members,
    List.mem_append, Option.mem_toList, List.mem_flatMap] at ht
  have hsupertype : ∀ r ∈ l.superclass.toList ++ l.interfaces, SupertypeAt layout v r t →
      ∃ target ∈ l.targets, ∃ b, v.Strips t b ∧ Denotes layout v target b := by
    intro r hr hrt
    have htarget : r.base.target ∈ l.targets :=
      List.mem_append_left _ (List.mem_flatMap.2 ⟨r, hr, List.mem_cons_self⟩)
    exact ⟨_, htarget, hrt.denotes hv hloaded (hl.targets _ htarget)⟩
  have hmember : ∀ owner, ∀ m ∈ l.constructors ++ l.methods, ∀ m', MemberAt layout v owner m m' →
      t ∈ m'.mentions → ∃ target ∈ l.targets, ∃ b, v.Strips t b ∧ Denotes layout v target b := by
    intro owner m hm m' hmm' ht
    have htargets : ∀ target ∈ m.targets, target ∈ l.targets := fun target h =>
      List.mem_append_right _ (List.mem_flatMap.2 ⟨m, hm, h⟩)
    obtain ⟨target, htarget, hb⟩ :=
      hmm'.denotes hv hloaded (fun target h => hl.targets _ (htargets _ h)) ht
    exact ⟨target, htargets _ htarget, hb⟩
  rcases ht with (ht | ht) | ⟨m', hm' | hm', ht⟩
  · obtain ⟨r, hr, hrt⟩ := exists_mem_of_rel h.superclass ht
    exact hsupertype r (List.mem_append_left _ (Option.mem_toList.2 hr)) hrt
  · obtain ⟨r, hr, hrt⟩ := exists_mem_of_forall₂ h.interfaces ht
    exact hsupertype r (List.mem_append_right _ hr) hrt
  · obtain ⟨m, hm, hmm'⟩ := exists_mem_of_forall₂ h.constructors hm'
    exact hmember _ m (List.mem_append_left _ hm) m' hmm' ht
  · obtain ⟨m, hm, hmm'⟩ := exists_mem_of_forall₂ h.methods hm'
    exact hmember _ m (List.mem_append_right _ hm) m' hmm' ht

end

/-! ## Names of what is denoted -/

theorem Denotes.canonical_eq (hv : Founded layout v) (hcovers : layout.Covers target)
    (h : Denotes layout v target b) : v.canonical b = target.canonical := by
  rcases h with rfl | ⟨place, arguments, rfl, -, hget⟩
  · exact hv.canonical_place hcovers
  · rw [Universe.canonical, hget]
    rfl

/-- A declared type has its own name, or one with a point in it. -/
theorem canonical_ofHeader (file : FileScope) (origin : Option String) (outer : Option Declared)
    (header : Source.TypeHeader) :
    (Declared.ofHeader file origin outer header).canonical = header.name ∨
      '.' ∈ (Declared.ofHeader file origin outer header).canonical.toList := by
  cases outer with
  | some o =>
      refine Or.inr ?_
      simp [Declared.ofHeader]
  | none =>
      simp only [Declared.ofHeader, qualify]
      split_ifs
      · exact Or.inl rfl
      · exact Or.inr (by simp)

/-- Primitive types have reserved words for names, and so no type is declared under one. -/
theorem canonical_ofHeader_ne_primitive (file : FileScope) (origin : Option String)
    (outer : Option Declared) (header : Source.TypeHeader) {place : TypeId}
    (h : (standard.get place).kind = .primitive) :
    (Declared.ofHeader file origin outer header).canonical ≠ standard.canonical place := by
  have hall : ∀ place < standard.size, (standard.get place).kind = .primitive →
      Source.isIdentifier (standard.canonical place) = false ∧
        '.' ∉ (standard.canonical place).toList := by
    decide +kernel
  have hlt : place < standard.size := by
    by_contra hle
    rw [Universe.get_of_size_le (Nat.not_lt.1 hle)] at h
    cases h
  obtain ⟨hword, hpoint⟩ := hall place hlt h
  intro heq
  rcases canonical_ofHeader file origin outer header with hname | hname
  · rw [← heq, hname, header.isIdentifier_name] at hword
    cases hword
  · rw [heq] at hname
    exact hpoint hname

end Load

open Load
open Load.Layout (firstLoaded)

namespace Registry

variable {strict : Bool} {units : List SourceUnit} {known : List Declared}
  {skipped : List SkippedSource} {t b : TypeId} {target : Target}

/-- A loaded type refers to a type, array dimensions apart. -/
def RefersTo (r : Registry) (b : TypeId) : Prop :=
  ∃ t ∈ r.types, ∃ s ∈ (r.world.get t).references, r.world.Strips s b

/-- No declared type has the name of a type of `java.lang`. -/
def LeavesLang (known : List Declared) : Prop :=
  ∀ place, (standard.get place).package = "java.lang" →
    ∀ d ∈ known, d.canonical ≠ standard.canonical place

theorem kind_loadedPlace_ne_array (h : WellDeclared known) :
    ∀ c ∈ (layoutOf known).loaded,
      ((ofDeclared known skipped).world.get ((layoutOf known).loadedPlace c)).kind ≠ .array := by
  intro c hc
  rw [loaded_layoutOf, List.mem_map] at hc
  obtain ⟨d, hd, rfl⟩ := hc
  rw [(hasShell_loadedPlace h hd skipped).kind, h.kind_eq hd]
  cases d.header.kind <;> decide

/-- Every reference of a loaded type can be stripped, and what is left comes from a target. -/
theorem exists_denotes (h : WellDeclared known) (ht : t ∈ (ofDeclared known skipped).types)
    {s : TypeId} (hs : s ∈ ((ofDeclared known skipped).world.get t).references) :
    ∃ b, (ofDeclared known skipped).world.Strips s b ∧
      ∃ target, (layoutOf known).Covers target ∧ target.Formed (isTaken known) ∧
        Denotes (layoutOf known) (ofDeclared known skipped).world target b := by
  rw [types_ofDeclared h, List.mem_map] at ht
  obtain ⟨d, hd, rfl⟩ := ht
  have hplaced := placed_linkAll h (link (isTaken known) d) (List.mem_map_of_mem hd)
  obtain ⟨target, htarget, b, hstrips, hdenotes⟩ := (realizes_loadedPlace h hd).denotes
    (founded_ofDeclared h skipped) (kind_loadedPlace_ne_array h) hplaced hs
  exact ⟨b, hstrips, target, hplaced.targets target htarget, formed_link _ d htarget, hdenotes⟩

theorem exists_denotes_of_refersTo (h : WellDeclared known)
    (hb : (ofDeclared known skipped).RefersTo b) :
    ∃ target, (layoutOf known).Covers target ∧ target.Formed (isTaken known) ∧
      Denotes (layoutOf known) (ofDeclared known skipped).world target b := by
  obtain ⟨t, ht, s, hs, hstrips⟩ := hb
  obtain ⟨b', hstrips', hdenotes⟩ := exists_denotes h ht hs
  obtain rfl := hstrips.unique hstrips'
  exact hdenotes

/-! ## The kinds of references -/

/-- A target given as loaded denotes a loaded type. -/
theorem denotes_declared {canonical : String}
    (hcovers : (layoutOf known).Covers (.declared canonical))
    (hb : Denotes (layoutOf known) (ofDeclared known skipped).world (.declared canonical) b) :
    ∃ d ∈ known, b = (layoutOf known).loadedPlace d.canonical := by
  rw [Layout.Covers, loaded_layoutOf, List.mem_map] at hcovers
  obtain ⟨d, hd, rfl⟩ := hcovers
  rcases hb with rfl | ⟨_, _, hstandard, -⟩
  · exact ⟨d, hd, rfl⟩
  · cases hstandard

/-- A standard target denotes a standard type or a view, which is no placeholder. -/
theorem denotes_standard (h : WellDeclared known) {place : TypeId}
    (hformed : Target.Formed (isTaken known) (.standard place))
    (hb : Denotes (layoutOf known) (ofDeclared known skipped).world (.standard place) b) :
    (ofDeclared known skipped).world.IsStandard b ∧
      ((ofDeclared known skipped).world.get b).kind ≠ .variable ∧
      ¬ (ofDeclared known skipped).world.IsPlaceholder b := by
  obtain ⟨hlt, hkind, -⟩ := hformed.standard
  rcases hb with hplace | ⟨place', arguments, heq, htakes, hget⟩
  · obtain rfl : b = place := hplace
    have hget := (founded_ofDeclared h skipped).standard b hlt
    refine ⟨⟨b, hlt, Or.inl ⟨rfl, hget⟩⟩, ?_, fun hplaceholder => ?_⟩
    · rw [hget]
      exact hkind
    · exact absurd hlt (Nat.not_lt.2 hplaceholder.size_le)
  · obtain rfl := Target.standard.inj heq
    refine ⟨⟨place, hlt, Or.inr ⟨arguments, htakes, hget⟩⟩, ?_, fun hplaceholder => ?_⟩
    · rw [hget]
      exact hkind
    · -- the members of generic types are known
      have hall : ∀ place < standard.size, (standard.get place).membersUnknown = true →
          (standard.get place).typeParameters = [] := by
        decide +kernel
      have hunknown := hplaceholder.membersUnknown
      rw [hget] at hunknown
      rw [Universe.takesArguments, hall place hlt hunknown] at htakes
      exact absurd htakes (by simp)

/-- The name of a standard target is left to it. -/
theorem canonical_ne_of_standard (h : WellDeclared known) (hlang : LeavesLang known)
    {place : TypeId} (hformed : Target.Formed (isTaken known) (.standard place)) :
    ∀ d ∈ known, d.canonical ≠ standard.canonical place := by
  obtain ⟨-, -, hname⟩ := hformed.standard
  intro d hd hd'
  rcases hname with hname | hname | hname
  · rw [← hd', Bool.eq_false_iff] at hname
    exact hname (isTaken_eq_true_iff.2 (List.mem_map_of_mem hd))
  · exact hlang place hname d hd hd'
  · obtain ⟨outer, header, heq, -⟩ := h.ofHeader d hd
    rw [heq] at hd'
    exact canonical_ofHeader_ne_primitive _ _ outer header hname hd'

/-- A target outside denotes the placeholder of its name. -/
theorem denotes_outside (h : WellDeclared known) {canonical : String}
    (hcovers : (layoutOf known).Covers (.outside canonical))
    (hb : Denotes (layoutOf known) (ofDeclared known skipped).world (.outside canonical) b) :
    b = (layoutOf known).place (.outside canonical) ∧
      (ofDeclared known skipped).world.IsPlaceholder b ∧
      ((ofDeclared known skipped).world.get b).kind ≠ .variable := by
  rcases hb with rfl | ⟨_, _, hstandard, -⟩
  · have hget := (founded_ofDeclared h skipped).outside canonical hcovers
    refine ⟨rfl, ⟨?_, ?_, ?_, ?_⟩, ?_⟩
    · exact (Nat.le_add_right _ _).trans (Nat.le_add_right _ _)
    all_goals rw [hget]
    · rfl
    · rfl
    · rfl
    · intro h
      cases h
  · cases hstandard

/-- A target is taken for a standard type or a type outside only if no loaded type has its name. -/
theorem declared_of_canonical_eq (h : WellDeclared known) (hlang : LeavesLang known)
    (hformed : target.Formed (isTaken known)) {d : Declared} (hd : d ∈ known)
    (hname : d.canonical = target.canonical) : target = .declared d.canonical := by
  cases target with
  | standard place => exact absurd hname (canonical_ne_of_standard h hlang hformed d hd)
  | declared canonical => rw [hname]; rfl
  | outside canonical =>
      obtain - | - | ⟨hfree, -⟩ := hformed
      obtain rfl : d.canonical = canonical := hname
      exact absurd (isTaken_eq_true_iff.2 (List.mem_map_of_mem hd)) (Bool.eq_false_iff.1 hfree)

/-! ## Integrity -/

section

variable (h : WellDeclared known) (hb : (ofDeclared known skipped).RefersTo b)

include h hb

theorem kind_ne_variable_of_refersTo :
    ((ofDeclared known skipped).world.get b).kind ≠ .variable := by
  obtain ⟨target, hcovers, hformed, hdenotes⟩ := exists_denotes_of_refersTo h hb
  cases target with
  | standard place => exact (denotes_standard h hformed hdenotes).2.1
  | declared canonical =>
      obtain ⟨d, hd, rfl⟩ := denotes_declared hcovers hdenotes
      rw [(hasShell_loadedPlace h hd skipped).kind, h.kind_eq hd]
      cases d.header.kind <;> decide
  | outside canonical => exact (denotes_outside h hcovers hdenotes).2.2

theorem refersTo_cases :
    b ∈ (ofDeclared known skipped).types ∨ (ofDeclared known skipped).world.IsStandard b ∨
      (ofDeclared known skipped).world.IsPlaceholder b := by
  obtain ⟨target, hcovers, hformed, hdenotes⟩ := exists_denotes_of_refersTo h hb
  cases target with
  | standard place => exact Or.inr (Or.inl (denotes_standard h hformed hdenotes).1)
  | declared canonical =>
      obtain ⟨d, hd, rfl⟩ := denotes_declared hcovers hdenotes
      rw [types_ofDeclared h]
      exact Or.inl (List.mem_map_of_mem hd)
  | outside canonical => exact Or.inr (Or.inr (denotes_outside h hcovers hdenotes).2.1)

/-- What is referred to under the name of a loaded type is that type. -/
theorem eq_of_refersTo (hlang : LeavesLang known) (ht : t ∈ (ofDeclared known skipped).types)
    (hname : (ofDeclared known skipped).world.canonical t =
      (ofDeclared known skipped).world.canonical b) : b = t := by
  obtain ⟨target, hcovers, hformed, hdenotes⟩ := exists_denotes_of_refersTo h hb
  rw [types_ofDeclared h, List.mem_map] at ht
  obtain ⟨d, hd, rfl⟩ := ht
  rw [canonical_loadedPlace h hd, hdenotes.canonical_eq (founded_ofDeclared h skipped) hcovers]
    at hname
  obtain rfl := declared_of_canonical_eq h hlang hformed hd hname
  refine hdenotes.resolve_right ?_
  rintro ⟨_, _, hstandard, -⟩
  cases hstandard

/-- The placeholders that are referred to stand in the places of their names. -/
theorem eq_place_of_isPlaceholder
    (hplaceholder : (ofDeclared known skipped).world.IsPlaceholder b) :
    b = (layoutOf known).place (.outside ((ofDeclared known skipped).world.canonical b)) := by
  obtain ⟨target, hcovers, hformed, hdenotes⟩ := exists_denotes_of_refersTo h hb
  cases target with
  | standard place => exact absurd hplaceholder (denotes_standard h hformed hdenotes).2.2
  | declared canonical =>
      obtain ⟨d, hd, rfl⟩ := denotes_declared hcovers hdenotes
      have hunknown := hplaceholder.membersUnknown
      rw [(hasShell_loadedPlace h hd skipped).membersUnknown] at hunknown
      cases hunknown
  | outside canonical =>
      rw [hdenotes.canonical_eq (founded_ofDeclared h skipped) hcovers]
      exact (denotes_outside h hcovers hdenotes).1

end

/-- What is declared leaves `java.lang` alone if no declaration of the units does. -/
theorem leavesLang_of_sites (h : ∀ s ∈ sitesFrom 0 units, ∀ d ∈ Standard.entries,
    d.package = "java.lang" → s.canonical ≠ d.canonical) :
    LeavesLang (units.foldl SourceUnit.addTo []) := by
  obtain ⟨kept, hkeeps, hdeclared⟩ := exists_keeps 0 units []
  intro place hpackage d hd
  rw [hdeclared, List.nil_append, List.mem_map] at hd
  obtain ⟨s, hs, rfl⟩ := hd
  have hlt : place < standard.size := by
    by_contra hle
    rw [Universe.get_of_size_le (Nat.not_lt.1 hle)] at hpackage
    exact absurd hpackage (by decide)
  have hmem : standard.get place ∈ Standard.entries := by
    have hlt' : place < Standard.entries.length := hlt
    have hget : standard.get place = Standard.entries[place] := by
      rw [Universe.get, standard, Array.getD_eq_getD_getElem?, List.getElem?_toArray,
        List.getElem?_eq_getElem hlt']
      rfl
    rw [hget]
    exact List.getElem_mem hlt'
  exact h s (hkeeps.sublist.subset hs) _ hmem hpackage

/-- Integrity of the references of loaded types. What is left of a direct reference when its array
dimensions are stripped is no type variable. It is the loaded type of its name if there is one, and
otherwise a standard type, perhaps seen with type arguments, or a placeholder. Of each name there is
one placeholder. -/
structure Integrity (r : Registry) : Prop where
  strips : ∀ t ∈ r.types, ∀ s ∈ (r.world.get t).references, ∃ b, r.world.Strips s b
  kind_ne_variable : ∀ b, r.RefersTo b → (r.world.get b).kind ≠ .variable
  eq_of_canonical : ∀ b, r.RefersTo b →
    ∀ t ∈ r.types, r.world.canonical t = r.world.canonical b → b = t
  cases : ∀ b, r.RefersTo b → b ∈ r.types ∨ r.world.IsStandard b ∨ r.world.IsPlaceholder b
  placeholder_unique : ∀ b c, r.RefersTo b → r.RefersTo c → r.world.IsPlaceholder b →
    r.world.IsPlaceholder c → r.world.canonical b = r.world.canonical c → b = c

/-- Types that are declared have references of integrity if they leave `java.lang` alone. -/
theorem integrity_ofDeclared (h : WellDeclared known) (hlang : LeavesLang known)
    (skipped : List SkippedSource) : (ofDeclared known skipped).Integrity where
  strips t ht s hs := by
    obtain ⟨b, hstrips, -⟩ := exists_denotes h ht hs
    exact ⟨b, hstrips⟩
  kind_ne_variable b hb := kind_ne_variable_of_refersTo h hb
  eq_of_canonical b hb t ht hname := eq_of_refersTo h hb hlang ht hname
  cases b hb := refersTo_cases h hb
  placeholder_unique b c hb hc hplaceholder hplaceholder' hname := by
    calc b = _ := eq_place_of_isPlaceholder h hb hplaceholder
      _ = _ := by rw [hname]
      _ = c := (eq_place_of_isPlaceholder h hc hplaceholder').symm

/-- Units that all parse are read to types whose references have integrity, if no declaration of
theirs has the name of a standard type of `java.lang`. -/
theorem read_integrity (hparse : ∀ unit ∈ units, unit.parses = true)
    (hapart : ∀ s ∈ sitesFrom 0 units, ∀ d ∈ Standard.entries,
      d.package = "java.lang" → s.canonical ≠ d.canonical) :
    ∃ r, read strict units = .ok r ∧ r.Integrity :=
  ⟨_, read_of_parses hparse, integrity_ofDeclared (wellDeclared_foldl_addTo units wellDeclared_nil)
    (leavesLang_of_sites hapart) []⟩

/-- Units with references of all kinds: to a loaded type through the package, as an array and as a
type argument, to a type variable with a bound, to a standard type and to a type outside. -/
def nodeUnits : List SourceUnit :=
  [{ code := "package p; import q.Leaf; abstract class Node<T extends Leaf> implements Edge \x7b " ++
      "Node(T leaf, Edge[][] edges) throws Fault \x7b \x7d abstract String name(); \x7d" },
    { code := "package p; interface Edge extends Comparable<Edge>, q.Leaf \x7b Node.Inner of(); \x7d" }]

/-- The references of the units have integrity. -/
theorem read_integrity_nodeUnits : (∀ unit ∈ nodeUnits, unit.parses = true) ∧
    (∀ s ∈ sitesFrom 0 nodeUnits, ∀ d ∈ Standard.entries,
      d.package = "java.lang" → s.canonical ≠ d.canonical) ∧
    ∃ r, read true nodeUnits = .ok r ∧ r.Integrity := by
  have hparse : ∀ unit ∈ nodeUnits, unit.parses = true := by decide +kernel
  have hapart : ∀ s ∈ sitesFrom 0 nodeUnits, ∀ d ∈ Standard.entries,
      d.package = "java.lang" → s.canonical ≠ d.canonical := by
    decide +kernel
  exact ⟨hparse, hapart, read_integrity hparse hapart⟩

end Registry

end Skeletal
