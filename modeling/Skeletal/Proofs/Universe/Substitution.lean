import Skeletal.Proofs.Lookup
import Skeletal.Proofs.Universe.Growth
import Skeletal.Proofs.Universe.Hierarchy
import Skeletal.Universe.Derived

/-!
# Substitution of type arguments

A view of a generic type holds the methods of the type with its type parameters replaced by
arguments. `Replaced` says of one place what it becomes, without the bindings that the view is built
with: a type parameter becomes the argument at its index, another type variable becomes the root,
and any other type stays. The methods of a view come from those of the generic type in this way
(`forall₂_methodOfView`), and where the generic type names its type variables directly, none is left
in the view (`ground_of_mem_mentions_viewOf`).
-/

set_option autoImplicit false

namespace Skeletal.Universe

/-- A type variable occurs in the type: it is one, or an array over such a type. -/
inductive HasVariable (u : Universe) : TypeId → Prop
  | self {t : TypeId} (h : (u.get t).kind = .variable) : HasVariable u t
  | array {t component : TypeId} (h : (u.get t).component = some component)
      (hcomponent : HasVariable u component) : HasVariable u t

/-- A type of the universe in which no type variable occurs. -/
def Ground (u : Universe) (t : TypeId) : Prop := t < u.size ∧ ¬ u.HasVariable t

/-- Array types of the universe have their components in it. -/
def ComponentsInside (u : Universe) : Prop :=
  ∀ t component, (u.get t).component = some component → component < u.size

/-- A generic type with distinct type parameters whose methods have type variables for parameter and
result types only, and only as they are, not inside of other types. -/
structure PlainGeneric (u : Universe) (t : TypeId) : Prop where
  generic : (u.get t).typeParameters ≠ []
  distinct : (u.get t).typeParameters.Nodup
  inside : ∀ m ∈ (u.get t).methods, ∀ s ∈ m.mentions, s < u.size
  direct : ∀ m ∈ (u.get t).methods, ∀ s ∈ m.parameters ++ m.result.toList,
    (u.get s).kind = .variable ∨ ¬ u.HasVariable s
  exceptions : ∀ m ∈ (u.get t).methods, ∀ s ∈ m.exceptions, ¬ u.HasVariable s

/-- What a type becomes where type parameters are replaced by arguments and the other type variables
by the type at `root`. -/
inductive Replaced (u : Universe) (root : TypeId) (parameters : List String)
    (arguments : List TypeId) : TypeId → TypeId → Prop
  | kept {t : TypeId} (h : (u.get t).kind ≠ .variable) : Replaced u root parameters arguments t t
  | bound {t a : TypeId} (i : Nat) (h : (u.get t).kind = .variable)
      (hparameter : parameters[i]? = some (u.get t).name) (hargument : arguments[i]? = some a) :
      Replaced u root parameters arguments t a
  | free {t : TypeId} (h : (u.get t).kind = .variable) (hname : (u.get t).name ∉ parameters) :
      Replaced u root parameters arguments t root

/-- A method of the view at `view` as it comes from one of the generic type. -/
structure MethodOfView (u : Universe) (root : TypeId) (names : List String)
    (arguments : List TypeId) (view : TypeId) (m m' : Member) : Prop where
  name : m'.name = m.name
  kind : m'.kind = m.kind
  modifiers : m'.modifiers = m.modifiers
  exceptions : m'.exceptions = m.exceptions
  parameters : List.Forall₂ (u.Replaced root names arguments) m.parameters m'.parameters
  result : Option.Rel (u.Replaced root names arguments) m.result m'.result
  declaring : m'.declaring = some view

variable {u : Universe} {d : Descriptor} {root generic place t t' s a : TypeId} {name : String}
  {parameters : List String} {arguments : List TypeId} {m m' : Member} {i : Nat}

/-! ## Bindings -/

theorem lookup_bindings_eq_none (h : name ∉ parameters) :
    (bindings parameters arguments).lookup name = none := by
  rw [List.lookup_eq_none_iff]
  intro p hp
  rw [bindings, List.mem_reverse] at hp
  have hname : name ≠ p.1 := by
    rintro rfl
    exact h (List.of_mem_zip hp).1
  simpa using hname

/-- Distinct parameters are bound to the arguments of their index. -/
theorem lookup_bindings_eq_some (hdistinct : parameters.Nodup)
    (hlength : arguments.length = parameters.length) (hparameter : parameters[i]? = some name)
    (hargument : arguments[i]? = some a) :
    (bindings parameters arguments).lookup name = some a := by
  have hnames : ((bindings parameters arguments).map Prod.fst).Nodup := by
    rw [bindings, List.map_reverse, List.map_fst_zip hlength.ge]
    exact List.nodup_reverse.2 hdistinct
  apply lookup_eq_some_of_mem hnames
  rw [bindings, List.mem_reverse]
  exact List.mem_of_getElem? (List.getElem?_zip_eq_some.2 ⟨hparameter, hargument⟩)

/-! ## Substitution -/

/-- Substitution of distinct parameters replaces each by its argument. -/
theorem replaced_substitute (hdistinct : parameters.Nodup)
    (hlength : arguments.length = parameters.length) (t : TypeId) :
    u.Replaced root parameters arguments t
      (u.substitute root (bindings parameters arguments) t) := by
  rw [substitute]
  split_ifs with hvariable
  · by_cases hname : (u.get t).name ∈ parameters
    · obtain ⟨i, hi⟩ := List.mem_iff_getElem?.1 hname
      have hlt : i < arguments.length := hlength ▸ (List.getElem?_eq_some_iff.1 hi).1
      have hargument := List.getElem?_eq_getElem hlt
      rw [lookup_bindings_eq_some hdistinct hlength hi hargument, Option.getD_some]
      exact Replaced.bound i hvariable hi hargument
    · rw [lookup_bindings_eq_none hname, Option.getD_none]
      exact Replaced.free hvariable hname
  · exact Replaced.kept hvariable

/-- What a type becomes is ground, if the type is a variable itself or holds none. -/
theorem Replaced.ground (h : u.Replaced root parameters arguments t t') (hroot : u.Ground root)
    (harguments : ∀ a ∈ arguments, u.Ground a) (hinside : t < u.size)
    (hdirect : (u.get t).kind = .variable ∨ ¬ u.HasVariable t) : u.Ground t' := by
  cases h with
  | kept hkind => exact ⟨hinside, hdirect.resolve_left hkind⟩
  | bound i _ _ hargument => exact harguments _ (List.mem_of_getElem? hargument)
  | free _ _ => exact hroot

/-! ## Methods of a view -/

theorem forall₂_methodOfView (hgeneric : u.PlainGeneric generic)
    (hlength : arguments.length = (u.get generic).typeParameters.length) :
    List.Forall₂ (u.MethodOfView root (u.get generic).typeParameters arguments place)
      (u.get generic).methods (u.viewOf root place generic arguments).methods := by
  have hreplaced : ∀ t, u.Replaced root (u.get generic).typeParameters arguments t
      (u.substitute root (bindings (u.get generic).typeParameters arguments) t) :=
    replaced_substitute hgeneric.distinct hlength
  rw [viewOf, List.forall₂_map_right_iff, List.forall₂_same]
  intro m _
  refine ⟨rfl, rfl, rfl, rfl, ?_, ?_, rfl⟩
  · rw [List.forall₂_map_right_iff, List.forall₂_same]
    exact fun t _ => hreplaced t
  · cases m.result with
    | none => exact Option.Rel.none
    | some t => exact Option.Rel.some (hreplaced t)

/-- No type variable is left in the methods of a view. -/
theorem ground_of_mem_mentions_viewOf (hgeneric : u.PlainGeneric generic)
    (hlength : arguments.length = (u.get generic).typeParameters.length) (hroot : u.Ground root)
    (harguments : ∀ a ∈ arguments, u.Ground a)
    (hm : m' ∈ (u.viewOf root place generic arguments).methods) (hs : s ∈ m'.mentions) :
    u.Ground s := by
  obtain ⟨m, hmem, rfl⟩ := List.mem_map.1 hm
  have hsubstitute : ∀ t ∈ m.parameters ++ m.result.toList, u.Ground
      (u.substitute root (bindings (u.get generic).typeParameters arguments) t) := by
    intro t ht
    have hinside : t ∈ m.mentions := by
      simp only [Member.mentions, List.mem_append] at ht ⊢
      tauto
    exact (replaced_substitute hgeneric.distinct hlength t).ground hroot harguments
      (hgeneric.inside m hmem t hinside) (hgeneric.direct m hmem t ht)
  simp only [Member.mentions, List.mem_append, List.mem_map, Option.toList_map] at hs
  rcases hs with (⟨t, ht, rfl⟩ | hs) | ⟨t, ht, rfl⟩
  · exact hsubstitute t (List.mem_append_left _ ht)
  · have hmentions : s ∈ m.mentions :=
      List.mem_append_left _ (List.mem_append_right _ hs)
    exact ⟨hgeneric.inside m hmem s hmentions, hgeneric.exceptions m hmem s hs⟩
  · exact hsubstitute t (List.mem_append_right _ ht)

/-! ## The universe with the view -/

/-- The type at `view` is a view of a generic type. -/
def Views (u : Universe) (root generic : TypeId) (arguments : List TypeId) (view : TypeId) : Prop :=
  u.get view = u.viewOf root view generic arguments

theorem lt_size_of_typeParameters_ne_nil (h : (u.get t).typeParameters ≠ []) : t < u.size := by
  by_contra hle
  apply h
  rw [get_of_size_le (Nat.not_lt.1 hle)]
  rfl

theorem substitute_push (h : t < u.size) (bound : List (String × TypeId)) :
    (u.push d).substitute root bound t = u.substitute root bound t := by
  rw [substitute, substitute, get_push_of_lt u d h]

/-- A view reads the same once it has been added. -/
theorem viewOf_push (hgeneric : u.PlainGeneric generic) (place : TypeId) :
    (u.push d).viewOf root place generic arguments = u.viewOf root place generic arguments := by
  have hget := get_push_of_lt u d (lt_size_of_typeParameters_ne_nil hgeneric.generic)
  have hsubstitute : ∀ m ∈ (u.get generic).methods, ∀ t ∈ m.mentions,
      (u.push d).substitute root (bindings (u.get generic).typeParameters arguments) t =
        u.substitute root (bindings (u.get generic).typeParameters arguments) t :=
    fun m hm t ht => substitute_push (hgeneric.inside m hm t ht) _
  rw [viewOf, viewOf, hget]
  congr 1
  apply List.map_congr_left
  intro m hm
  congr 1
  · apply List.map_congr_left
    intro t ht
    exact hsubstitute m hm t (List.mem_append_left _ (List.mem_append_left _ ht))
  · apply Option.map_congr
    intro t ht
    exact hsubstitute m hm t (List.mem_append_right _ (Option.mem_toList.2 ht))

/-- In the types that were there before, an added type makes no type variable occur. -/
theorem Ground.push (hcomponents : u.ComponentsInside) (h : u.Ground t) : (u.push d).Ground t := by
  obtain ⟨hinside, hground⟩ := h
  refine ⟨?_, fun hvariable => ?_⟩
  · rw [size_push]
    exact Nat.lt_succ_of_lt hinside
  · induction hvariable with
    | @self t hkind =>
        rw [get_push_of_lt u d hinside] at hkind
        exact hground (HasVariable.self hkind)
    | @array t component hcomponent _ ih =>
        rw [get_push_of_lt u d hinside] at hcomponent
        exact ih (hcomponents t component hcomponent)
          fun hvariable => hground (HasVariable.array hcomponent hvariable)

/-- Where there are no arrays, type variables occur as they are. -/
theorem hasVariable_iff_of_component_eq_none (h : ∀ t, (u.get t).component = none) :
    u.HasVariable t ↔ (u.get t).kind = .variable := by
  constructor
  · intro hvariable
    cases hvariable with
    | self hkind => exact hkind
    | array hcomponent _ =>
        rw [h t] at hcomponent
        cases hcomponent
  · exact HasVariable.self

end Skeletal.Universe

namespace Skeletal

open Universe

variable {u : Universe} {root generic view t : TypeId} {arguments : List TypeId}

/-- With as many arguments as it has type parameters, a generic type is given a view at the end of
the universe. -/
theorem parameterize_of_plainGeneric (hgeneric : u.PlainGeneric generic)
    (hlength : arguments.length = (u.get generic).typeParameters.length) :
    parameterize root generic arguments u =
      (u.size, u.push (u.viewOf root u.size generic arguments)) := by
  have htakes : u.takesArguments generic arguments = true := by
    simp [takesArguments, hlength, hgeneric.generic]
  rw [parameterize, if_pos htakes]
  rfl

/-- A view takes no further arguments. -/
theorem parameterize_view (h : u.Views root generic arguments view) (again : List TypeId) :
    parameterize root view again u = (view, u) := by
  have htakes : u.takesArguments view again = false := by
    rw [takesArguments, h]
    rfl
  rw [parameterize, htakes]
  rfl

/-! ## Standard types -/

theorem component_standard (t : TypeId) : (standard.get t).component = none :=
  forall_get (P := fun d => d.component = none) (by decide +kernel) rfl t

theorem componentsInside_standard : standard.ComponentsInside := by
  intro t component h
  rw [component_standard] at h
  cases h

theorem ground_standard (hinside : t < standard.size) (hkind : (standard.get t).kind ≠ .variable) :
    standard.Ground t :=
  ⟨hinside, mt (hasVariable_iff_of_component_eq_none component_standard).1 hkind⟩

/-- The generic standard types name their type variables directly. -/
theorem plainGeneric_standard (h : (standard.get t).typeParameters ≠ []) :
    standard.PlainGeneric t := by
  have hall : ∀ t < standard.size, (standard.get t).typeParameters.Nodup ∧
      ∀ m ∈ (standard.get t).methods, ∀ s ∈ m.exceptions, (standard.get s).kind ≠ .variable := by
    decide +kernel
  have hinside : t < standard.size := lt_size_of_typeParameters_ne_nil h
  have hvariable := fun s => hasVariable_iff_of_component_eq_none (t := s) component_standard
  refine ⟨h, (hall t hinside).1, ?_, ?_, ?_⟩
  · exact fun m hm s hs => lt_of_mem_mentions_standard (List.mem_append_right _ hm) hs
  · intro m _ s _
    rw [hvariable s]
    exact Decidable.em _
  · intro m hm s hs
    rw [hvariable s]
    exact (hall t hinside).2 m hm s hs

end Skeletal
