import Skeletal.Proofs.Load.Growing

/-!
# Targets of references

What a name may be resolved to. A target given as loaded is a loaded type, a standard one is in the
table and stands for no loaded type, and what is taken for a name outside is neither of the two
(`formed_link`). So whatever is referred to has a place in the layout (`covers_linkAll`).
-/

set_option autoImplicit false

namespace Skeletal.Load

open Layout (firstLoaded)
open Source (Callable Parameter TypeArgument TypeExpr TypeParameter)

/-! ## Standard types by name -/

theorem lt_firstLoaded_of_findIdx? {p : Descriptor → Bool} {place : TypeId}
    (h : Standard.entries.findIdx? p = some place) : place < firstLoaded := by
  obtain ⟨hlt, -⟩ := List.findIdx?_eq_some_iff_findIdx_eq.1 h
  exact hlt

/-- The entry that is found is of the kind that was looked for. -/
theorem get_standard_of_findIdx? {p : Descriptor → Bool} {place : TypeId}
    (h : Standard.entries.findIdx? p = some place) : p (standard.get place) = true := by
  obtain ⟨hlt, hp, -⟩ := List.findIdx?_eq_some_iff_getElem.1 h
  have hget : standard.get place = Standard.entries[place] := by
    rw [Universe.get, standard, Array.getD_eq_getD_getElem?, List.getElem?_toArray,
      List.getElem?_eq_getElem hlt]
    rfl
  rw [hget]
  exact hp

/-- The primitive types stand first. -/
theorem primitive_of_primitive? {word : String} {place : TypeId}
    (h : Standard.primitive? word = some place) :
    place < firstLoaded ∧ (standard.get place).kind = .primitive := by
  rw [Standard.primitive?] at h
  split_ifs at h with hword
  obtain rfl := Option.some.inj h
  have hall : ∀ place < Standard.primitiveNames.length,
      place < firstLoaded ∧ (standard.get place).kind = .primitive := by
    decide +kernel
  exact hall _ (List.idxOf_lt_length_iff.2 hword)

/-! ## Formed targets -/

/-- Ways in which a target comes from a name: it is what stands under a canonical name, a type that
`java.lang` gives a simple name, or a primitive type. -/
inductive Target.Formed (isLoaded : String → Bool) : Target → Prop
  | declared {canonical : String} (loaded : isLoaded canonical = true) :
      Formed isLoaded (.declared canonical)
  | named {canonical : String} {place : TypeId} (notLoaded : isLoaded canonical = false)
      (found : Standard.named? canonical = some place) : Formed isLoaded (.standard place)
  | outside {canonical : String} (notLoaded : isLoaded canonical = false)
      (missing : Standard.named? canonical = none) : Formed isLoaded (.outside canonical)
  | lang {name : String} {place : TypeId} (found : Standard.langNamed? name = some place) :
      Formed isLoaded (.standard place)
  | primitive {word : String} {place : TypeId} (found : Standard.primitive? word = some place) :
      Formed isLoaded (.standard place)

theorem Target.formed_object (isLoaded : String → Bool) :
    Target.Formed isLoaded (.standard Standard.object) := by
  have hfound : Standard.langNamed? "Object" = some Standard.object := by decide +kernel
  exact .lang hfound

/-- The type variables of the scope stand for formed targets. -/
def Scope.Formed (s : Scope) : Prop := ∀ p ∈ s.typeVariables, p.2.Formed s.isLoaded

namespace Scope

variable {s : Scope} {name : String} {target : Target}

theorem formed_targetOf (s : Scope) (canonical : String) :
    (s.targetOf canonical).Formed s.isLoaded := by
  rw [targetOf]
  split_ifs with h
  · exact .declared h
  · have hnot := Bool.eq_false_iff.2 h
    split
    · exact .named hnot ‹_›
    · exact .outside hnot ‹_›

theorem formed_of_loaded? (h : s.loaded? name = some target) : target.Formed s.isLoaded := by
  rw [loaded?] at h
  split_ifs at h with hname
  obtain rfl := Option.some.inj h
  exact .declared hname

theorem formed_of_present? (h : s.present? name = some target) : target.Formed s.isLoaded := by
  rcases Option.or_eq_some_iff.1 h with h | ⟨hnone, h⟩
  · exact formed_of_loaded? h
  · obtain ⟨place, hplace, rfl⟩ := Option.map_eq_some_iff.1 h
    rw [loaded?] at hnone
    split_ifs at hnone with hname
    exact .named (Bool.eq_false_iff.2 hname) hplace

theorem formed_of_simple? (hs : s.Formed) (h : s.simple? name = some target) :
    target.Formed s.isLoaded := by
  simp only [simple?, Option.or_eq_some_iff] at h
  -- the rules of the lookup, in the order in which they are tried
  rcases h with hvariable | ⟨-, hmember | ⟨-, himport | ⟨-, hpackage | ⟨-, hdemand | ⟨-, hlang⟩⟩⟩⟩⟩
  · obtain ⟨before, after, hsplit, -⟩ := List.lookup_eq_some_iff.1 hvariable
    exact hs (name, target) (by simp [hsplit])
  · obtain ⟨outer, -, h⟩ := List.exists_of_findSome?_eq_some hmember
    exact formed_of_loaded? h
  · obtain ⟨path, -, rfl⟩ := Option.map_eq_some_iff.1 himport
    exact formed_targetOf s path
  · exact formed_of_loaded? hpackage
  · obtain ⟨path, -, h⟩ := List.exists_of_findSome?_eq_some hdemand
    exact formed_of_present? h
  · obtain ⟨place, hplace, rfl⟩ := Option.map_eq_some_iff.1 hlang
    exact .lang hplace

theorem formed_named (hs : s.Formed) (segments : List String) :
    (s.named segments).Formed s.isLoaded := by
  -- every further name of the path is that of a member, and is loaded or outside
  have hmembers : ∀ (rest : List String) (base : Target), base.Formed s.isLoaded →
      (rest.foldl (fun target name => s.targetOf (target.canonical ++ "." ++ name)) base).Formed
        s.isLoaded := by
    intro rest
    induction rest with
    | nil => exact fun base hbase => hbase
    | cons name rest ih => exact fun base _ => ih _ (formed_targetOf s _)
  match segments with
  | [] => exact formed_targetOf s ""
  | [name] =>
      rw [named]
      cases h : s.simple? name with
      | none => exact formed_targetOf s _
      | some target => exact formed_of_simple? hs h
  | first :: second :: rest =>
      rw [named]
      · cases h : s.simple? first with
        | none => exact formed_targetOf s _
        | some base => exact hmembers _ base (formed_of_simple? hs h)
      · nofun

theorem formed_reference (hs : s.Formed) (type : TypeExpr) :
    (s.reference type).target.Formed s.isLoaded := by
  cases type with
  | basic word dims =>
      rw [reference]
      cases h : Standard.primitive? word with
      | none => exact Target.formed_object _
      | some place => exact .primitive h
  | named segments dims => exact formed_named hs _

theorem formed_parameter (hs : s.Formed) (p : Parameter) :
    (s.parameter p).target.Formed s.isLoaded := by
  rw [parameter]
  split_ifs
  · exact formed_reference hs p.type
  · exact formed_reference hs p.type

theorem formed_argument (hs : s.Formed) (a : TypeArgument) :
    (s.argument a).target.Formed s.isLoaded := by
  cases a with
  | wildcard => exact Target.formed_object _
  | type type => exact formed_reference hs type

theorem formed_supertype (hs : s.Formed) (raw : Bool) (type : TypeExpr) :
    ∀ target ∈ (s.supertype raw type).targets, target.Formed s.isLoaded := by
  intro target h
  rw [supertype] at h
  split_ifs at h
  · obtain rfl : target = (s.reference type).target := by
      simpa [SupertypeReference.targets] using h
    exact formed_reference hs type
  · simp only [SupertypeReference.targets, List.map_cons, List.map_map, List.mem_cons,
      List.mem_map] at h
    rcases h with rfl | ⟨a, -, rfl⟩
    · exact formed_reference hs type
    · exact formed_argument hs a

/-! ## Type variables -/

@[simp] theorem isLoaded_withVariable (s : Scope) (p : TypeParameter) :
    (s.withVariable p).isLoaded = s.isLoaded := rfl

@[simp] theorem isLoaded_withVariables (s : Scope) (ps : List TypeParameter) :
    (s.withVariables ps).isLoaded = s.isLoaded := by
  rw [withVariables]
  induction ps generalizing s with
  | nil => rfl
  | cons p rest ih => rw [List.foldl_cons, ih, isLoaded_withVariable]

theorem Formed.withVariable (hs : s.Formed) (p : TypeParameter) : (s.withVariable p).Formed := by
  intro v hv
  rw [Scope.withVariable, List.mem_cons] at hv
  rcases hv with rfl | hv
  · rw [isLoaded_withVariable]
    cases p.bounds with
    | nil => exact Target.formed_object _
    | cons bound _ => exact formed_reference hs bound
  · exact hs v hv

theorem Formed.withVariables (hs : s.Formed) (ps : List TypeParameter) :
    (s.withVariables ps).Formed := by
  rw [Scope.withVariables]
  induction ps generalizing s with
  | nil => exact hs
  | cons p rest ih => exact ih (hs.withVariable p)

end Scope

variable {isLoaded : String → Bool} {target : Target}

@[simp] theorem isLoaded_scopeOf (isLoaded : String → Bool) (file : FileScope)
    (levels : List Level) : (scopeOf isLoaded file levels).isLoaded = isLoaded := by
  induction levels with
  | nil => rfl
  | cons level outer ih => rw [scopeOf, Scope.isLoaded_withVariables, ih]

theorem formed_scopeOf (isLoaded : String → Bool) (file : FileScope) (levels : List Level) :
    (scopeOf isLoaded file levels).Formed := by
  induction levels with
  | nil => exact fun v hv => absurd hv List.not_mem_nil
  | cons level outer ih =>
      rw [scopeOf]
      refine Scope.Formed.withVariables ?_ level.typeParameters
      exact ih

/-! ## Linked types -/

theorem formed_callable {s : Scope} (hs : s.Formed) (c : Callable)
    (h : target ∈ (c.parameters.map s.parameter ++
      c.exceptions.map fun name => (⟨s.named name, 0⟩ : Reference)).map Reference.target) :
    target.Formed s.isLoaded := by
  rw [List.map_append, List.map_map, List.map_map, List.mem_append, List.mem_map,
    List.mem_map] at h
  rcases h with ⟨p, -, rfl⟩ | ⟨name, -, rfl⟩
  · exact Scope.formed_parameter hs p
  · exact Scope.formed_named hs name

theorem formed_linkMethod {s : Scope} (hs : s.Formed) (owner : TypeKind) (c : Callable)
    (h : target ∈ (linkMethod owner s c).targets) : target.Formed s.isLoaded := by
  have hs' := hs.withVariables c.typeParameters
  rw [← Scope.isLoaded_withVariables s c.typeParameters]
  rw [LinkedMember.targets, List.map_append, List.mem_append] at h
  rcases h with h | h
  · exact formed_callable hs' c h
  · obtain rfl : target = (c.result.elim ⟨.standard Standard.void, 0⟩
        (s.withVariables c.typeParameters).reference).target := by
      simpa [linkMethod] using h
    cases c.result with
    | none =>
        have hfound : Standard.primitive? "void" = some Standard.void := by decide +kernel
        exact .primitive hfound
    | some type => exact Scope.formed_reference hs' type

theorem formed_linkConstructor {s : Scope} (hs : s.Formed) (c : Callable)
    (h : target ∈ (linkConstructor s c).targets) : target.Formed s.isLoaded := by
  have hs' := hs.withVariables c.typeParameters
  rw [← Scope.isLoaded_withVariables s c.typeParameters]
  rw [LinkedMember.targets, List.map_append, List.mem_append] at h
  rcases h with h | h
  · exact formed_callable hs' c h
  · exact absurd h List.not_mem_nil

theorem formed_linkSuperclass {s : Scope} (hs : s.Formed) (d : Declared) (raw : Bool)
    {r : SupertypeReference} (hr : r ∈ linkSuperclass d s raw) (h : target ∈ r.targets) :
    target.Formed s.isLoaded := by
  rw [linkSuperclass] at hr
  split at hr
  · split at hr
    · obtain rfl := Option.some.inj hr
      obtain rfl : target = Reference.root.target := by
        simpa [SupertypeReference.targets] using h
      exact Target.formed_object _
    · obtain rfl := Option.some.inj hr
      exact Scope.formed_supertype hs raw _ target h
  · obtain rfl := Option.some.inj hr
    obtain rfl : target = .standard Standard.enum := by
      simpa [SupertypeReference.targets] using h
    have hfound : Standard.langNamed? "Enum" = some Standard.enum := by decide +kernel
    exact .lang hfound
  · exact absurd hr nofun

theorem formed_linkInterfaces {s : Scope} (hs : s.Formed) (d : Declared) (raw : Bool)
    {r : SupertypeReference} (hr : r ∈ linkInterfaces d s raw) (h : target ∈ r.targets) :
    target.Formed s.isLoaded := by
  rw [linkInterfaces] at hr
  split at hr
  · obtain ⟨type, -, rfl⟩ := List.mem_map.1 hr
    exact Scope.formed_supertype hs raw type target h
  · obtain rfl := List.mem_singleton.1 hr
    obtain rfl : target = s.targetOf "java.lang.annotation.Annotation" := by
      simpa [SupertypeReference.targets] using h
    exact Scope.formed_targetOf s _
  · obtain ⟨type, -, rfl⟩ := List.mem_map.1 hr
    exact Scope.formed_supertype hs raw type target h

theorem formed_linkConstructors {s : Scope} (hs : s.Formed) (d : Declared) {m : LinkedMember}
    (hm : m ∈ linkConstructors d s) (h : target ∈ m.targets) : target.Formed s.isLoaded := by
  rw [linkConstructors] at hm
  split_ifs at hm
  · split at hm
    · obtain rfl := List.mem_singleton.1 hm
      exact absurd h List.not_mem_nil
    · obtain ⟨c, -, rfl⟩ := List.mem_map.1 hm
      exact formed_linkConstructor hs c h
  · exact absurd hm List.not_mem_nil

/-- A linked type refers to sound targets alone. -/
theorem formed_link (isLoaded : String → Bool) (d : Declared)
    (h : target ∈ (link isLoaded d).targets) : target.Formed isLoaded := by
  have hs := formed_scopeOf isLoaded d.file d.levels
  rw [← isLoaded_scopeOf isLoaded d.file d.levels]
  simp only [link, Linked.targets, List.mem_append, List.mem_flatMap, Option.mem_toList] at h
  rcases h with ⟨r, hr | hr, h⟩ | ⟨m, hm | hm, h⟩
  · exact formed_linkSuperclass hs d _ hr h
  · exact formed_linkInterfaces hs d _ hr h
  · exact formed_linkConstructors hs d hm h
  · obtain ⟨c, -, rfl⟩ := List.mem_map.1 hm
    exact formed_linkMethod hs d.kind c h

/-! ## Places of targets -/

/-- A standard target is a type of the table and no type variable. Its name is that of no loaded
type, unless it is a type of `java.lang` or a primitive type. -/
theorem Target.Formed.standard {place : TypeId} (h : Target.Formed isLoaded (.standard place)) :
    place < firstLoaded ∧ (Skeletal.standard.get place).kind ≠ .variable ∧
      (isLoaded (Skeletal.standard.canonical place) = false ∨
        (Skeletal.standard.get place).package = "java.lang" ∨
          (Skeletal.standard.get place).kind = .primitive) := by
  cases h with
  | named hnot hplace =>
      have hget := get_standard_of_findIdx? hplace
      simp only [Bool.and_eq_true, Standard.isNamed, bne_iff_ne, beq_iff_eq] at hget
      refine ⟨lt_firstLoaded_of_findIdx? hplace, hget.1.2, Or.inl ?_⟩
      rwa [Universe.canonical, hget.2]
  | lang hplace =>
      have hget := get_standard_of_findIdx? hplace
      simp only [Bool.and_eq_true, Standard.isNamed, bne_iff_ne, beq_iff_eq] at hget
      exact ⟨lt_firstLoaded_of_findIdx? hplace, hget.1.1.2, Or.inr (Or.inl hget.1.2)⟩
  | primitive hplace =>
      obtain ⟨hlt, hkind⟩ := primitive_of_primitive? hplace
      exact ⟨hlt, by rw [hkind]; decide, Or.inr (Or.inr hkind)⟩

/-- All that linked types refer to has a place in their layout. -/
theorem covers_linkAll {known : List Declared} {l : Linked} (hl : l ∈ linkAll known)
    (h : target ∈ l.targets) : (Layout.ofLinked (linkAll known)).Covers target := by
  obtain ⟨d, -, rfl⟩ := List.mem_map.1 hl
  have hformed := formed_link (isTaken known) d h
  cases target with
  | standard place => exact hformed.standard.1
  | declared canonical =>
      obtain ⟨hloaded⟩ := hformed
      obtain ⟨other, hother, hname⟩ := List.any_eq_true.1 hloaded
      refine List.mem_map.2 ⟨link (isTaken known) other, List.mem_map_of_mem hother, ?_⟩
      exact beq_iff_eq.1 hname
  | outside canonical =>
      -- the places outside are given to the targets of the linked types
      rw [Layout.Covers, Layout.ofLinked, List.mem_eraseDups, List.mem_filterMap]
      exact ⟨.outside canonical, List.mem_flatMap.2 ⟨_, hl, h⟩, rfl⟩

end Skeletal.Load
