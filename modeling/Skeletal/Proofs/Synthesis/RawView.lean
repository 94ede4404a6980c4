import Skeletal.Proofs.Synthesis.StandIn
import Skeletal.Proofs.Universe.Substitution

/-!
# Raw types and their views

A generic type that is given arguments is seen with them in place of its type parameters
(`parameterize_substitutes`). Type variables are written as the root of all classes. So a view with
the root for every argument declares methods of the signatures and of the result names that the raw
type declares (`Views.standsIn`), and a type that lists the one as an interface owes what it would
owe with the other.
-/

set_option autoImplicit false

namespace Skeletal.Universe

/-- Type variables are written as the type at `root`. -/
def NamesVariables (u : Universe) (root : TypeId) : Prop :=
  ∀ t, (u.get t).kind = .variable → u.canonical t = u.canonical root

/-- Signature of a method and canonical name of its result type. -/
def heading (u : Universe) (m : Member) : Signature × Option String :=
  (u.signature m, m.result.map u.canonical)

/-- Universe in which one type lists other interfaces. -/
def withInterfaces (u : Universe) (t : TypeId) (interfaces : List TypeId) : Universe :=
  u.set t { u.get t with interfaces }

variable {u : Universe} {root generic view raw s t : TypeId} {arguments interfaces : List TypeId}
  {m : Member}

/-! ## The view with the root for every argument -/

/-- If all arguments are the root, substitution leaves the names of types as they are. -/
theorem canonical_substitute (hnames : u.NamesVariables root) (hroot : ∀ a ∈ arguments, a = root)
    (parameters : List String) (t : TypeId) :
    u.canonical (u.substitute root (bindings parameters arguments) t) = u.canonical t := by
  rw [substitute]
  split_ifs with hvariable
  · have hvalue : ((bindings parameters arguments).lookup (u.get t).name).getD root = root := by
      cases h : (bindings parameters arguments).lookup (u.get t).name with
      | none => rfl
      | some a =>
          have hmem := mem_of_lookup_eq_some h
          rw [bindings, List.mem_reverse] at hmem
          exact hroot a (List.of_mem_zip hmem).2
    rw [hvalue, hnames t hvariable]
  · rfl

/-- If all arguments are the root, a method of the view has the signature and the result name of the
method that it comes from. -/
theorem heading_substitute (hnames : u.NamesVariables root) (hroot : ∀ a ∈ arguments, a = root)
    (parameters : List String) (view : TypeId) (m : Member) :
    u.heading
      { m with
        parameters := m.parameters.map (u.substitute root (bindings parameters arguments))
        result := m.result.map (u.substitute root (bindings parameters arguments))
        declaring := some view } = u.heading m := by
  have hsame : u.canonical ∘ u.substitute root (bindings parameters arguments) = u.canonical :=
    funext (canonical_substitute hnames hroot parameters)
  simp only [heading, signature, List.map_map, Option.map_map, hsame]

namespace Views

variable (h : u.Views root generic arguments view) (hnames : u.NamesVariables root)
  (hroot : ∀ a ∈ arguments, a = root)

include h hnames hroot

/-- The view declares methods of the signatures and result names of the raw type. -/
theorem map_heading :
    (u.get view).methods.map u.heading = (u.get generic).methods.map u.heading := by
  rw [h, viewOf, List.map_map]
  apply List.map_congr_left
  intro m _
  exact heading_substitute hnames hroot _ view m

/-- The view stands in for the raw type. -/
theorem standsIn : u.StandsIn view generic where
  canonical := by
    rw [canonical, h]
    rfl
  isInterface := by
    rw [h]
    rfl
  membersUnknown := by
    rw [h]
    rfl
  interfaces := by
    rw [h]
    rfl
  methods := by
    rw [h, viewOf, List.forall₂_map_left_iff, List.forall₂_same]
    intro m _
    exact ⟨congrArg Prod.fst (heading_substitute hnames hroot _ view m), rfl⟩

end Views

theorem NamesVariables.push {d : Descriptor} (hnames : u.NamesVariables root)
    (hroot : root < u.size) (hd : d.kind = .variable → d.canonical = u.canonical root) :
    (u.push d).NamesVariables root := by
  intro t hkind
  rw [canonical_push_of_lt d hroot]
  rcases Nat.lt_trichotomy t u.size with ht | rfl | ht
  · rw [get_push_of_lt u d ht] at hkind
    rw [canonical_push_of_lt d ht, hnames t hkind]
  · rw [get_push_size] at hkind
    rw [canonical, get_push_size, hd hkind]
  · rw [get_of_size_le (by rw [size_push]; exact ht)] at hkind
    cases hkind

/-! ## Interfaces of one type -/

theorem get_withInterfaces (u : Universe) (t : TypeId) (interfaces : List TypeId) (s : TypeId) :
    (u.withInterfaces t interfaces).get s =
      if s = t ∧ t < u.size then { u.get t with interfaces } else u.get s := by
  by_cases ht : t < u.size
  · simp only [withInterfaces, get_set u _ ht, ht, and_true]
  · rw [withInterfaces, set, Array.setIfInBounds_eq_of_size_le (Nat.not_lt.1 ht),
      if_neg fun h => ht h.2]

/-- What does not speak of interfaces stays as it is. -/
theorem same_withInterfaces {α : Type} (f : Descriptor → α)
    (hf : ∀ d interfaces, f { d with interfaces } = f d) (s : TypeId) :
    f ((u.withInterfaces t interfaces).get s) = f (u.get s) := by
  rw [get_withInterfaces]
  split_ifs with h
  · rw [hf, h.1]
  · rfl

/-- Types other than the one with new interfaces still stand in for one another. -/
theorem StandsIn.withInterfaces (h : u.StandsIn view raw) (hview : t ≠ view) (hraw : t ≠ raw)
    (interfaces : List TypeId) : (u.withInterfaces t interfaces).StandsIn view raw := by
  have hcanonical : (u.withInterfaces t interfaces).canonical = u.canonical :=
    funext (same_withInterfaces Descriptor.canonical fun _ _ => rfl)
  have hget : ∀ s, t ≠ s → (u.withInterfaces t interfaces).get s = u.get s := by
    intro s hs
    rw [get_withInterfaces, if_neg fun h => hs h.1.symm]
  have hheader : ∀ m n, u.SameHeader m n → (u.withInterfaces t interfaces).SameHeader m n := by
    rintro m n ⟨hsignature, hmodifiers⟩
    refine ⟨?_, hmodifiers⟩
    rw [signature_congr hcanonical, hsignature]
  refine ⟨?_, ?_, ?_, ?_, ?_⟩
  · rw [hcanonical, h.canonical]
  · rw [hget view hview, hget raw hraw, h.isInterface]
  · rw [hget view hview, hget raw hraw, h.membersUnknown]
  · rw [hget view hview, hget raw hraw, h.interfaces]
  · rw [hget view hview, hget raw hraw]
    exact h.methods.imp hheader

theorem exchanges_withInterfaces (u : Universe) (t view raw : TypeId) (before after : List TypeId) :
    (u.withInterfaces t (before ++ raw :: after)).Exchanges
      (u.withInterfaces t (before ++ view :: after)) view raw where
  size := by rw [withInterfaces, withInterfaces, size_set, size_set]
  others s := by
    rw [get_withInterfaces, get_withInterfaces]
    split_ifs <;> rfl
  interfaces s := by
    have hread : readAs view raw view = readAs view raw raw := by
      simp [readAs]
    rw [get_withInterfaces, get_withInterfaces]
    split_ifs
    · simp only [List.map_append, List.map_cons, hread]
    · rfl

end Skeletal.Universe

namespace Skeletal

open Universe

variable {u : Universe} {root generic : TypeId} {arguments : List TypeId}

theorem namesVariables_standard : standard.NamesVariables Standard.object :=
  forall_get
    (P := fun d => d.kind = .variable → d.canonical = standard.canonical Standard.object)
    (by decide +kernel) nofun

/-- A generic type whose methods name type variables directly is given arguments without type
variables, one for each type parameter. A view of it is added to the universe: its methods are those
of the generic type, with every type parameter replaced by its argument and every other type
variable by the root. No type variable is left in them, and giving the view arguments again yields
the view. If all arguments are the root, then in any universe that holds the view, and in which type
variables are written as the root, the view declares what the raw type declares, and a type that
lists the one among its interfaces has abstract methods of the same signatures, in the same order,
as with the other in its place. -/
theorem parameterize_substitutes (hgeneric : u.PlainGeneric generic)
    (hcomponents : u.ComponentsInside) (hroot : u.Ground root)
    (harguments : ∀ a ∈ arguments, u.Ground a)
    (hlength : arguments.length = (u.get generic).typeParameters.length) :
    ∃ w, parameterize root generic arguments u = (u.size, w) ∧
      (∀ t < u.size, w.get t = u.get t) ∧
      w.Views root generic arguments u.size ∧
      List.Forall₂ (u.MethodOfView root (u.get generic).typeParameters arguments u.size)
        (u.get generic).methods (w.get u.size).methods ∧
      (∀ m ∈ (w.get u.size).methods, ∀ s ∈ m.mentions, ¬ w.HasVariable s) ∧
      (∀ again, parameterize root u.size again w = (u.size, w)) ∧
      (u.NamesVariables root → w.NamesVariables root) ∧
      ((∀ a ∈ arguments, a = root) → ∀ v : Universe, v.Views root generic arguments u.size →
        v.NamesVariables root →
          (v.get u.size).methods.map v.heading = (v.get generic).methods.map v.heading ∧
          ∀ t, t ≠ u.size → t ≠ generic → ∀ before after,
            (v.withInterfaces t (before ++ u.size :: after)).abstractSignatures t =
              (v.withInterfaces t (before ++ generic :: after)).abstractSignatures t) := by
  have hview : (u.push (u.viewOf root u.size generic arguments)).Views root generic arguments
      u.size := by
    rw [Views, get_push_size, viewOf_push hgeneric]
  refine ⟨_, parameterize_of_plainGeneric hgeneric hlength, fun t ht => get_push_of_lt u _ ht, hview,
    ?_, ?_, parameterize_view hview, ?_, ?_⟩
  · rw [get_push_size]
    exact forall₂_methodOfView hgeneric hlength
  · intro m hm s hs
    rw [get_push_size] at hm
    have hground := ground_of_mem_mentions_viewOf hgeneric hlength hroot harguments hm hs
    exact (hground.push hcomponents).2
  · intro hnames
    exact hnames.push hroot.1 fun hkind => hnames generic hkind
  · intro hall v hv hnames
    refine ⟨hv.map_heading hnames hall, ?_⟩
    intro t hview hraw before after
    exact (exchanges_withInterfaces v t _ _ before after).abstractSignatures
      ((hv.standsIn hnames hall).withInterfaces hview hraw _) hview hraw

/-- `Comparable` is given the root for its type parameter. A class that lists the view among its
interfaces owes what it owes with `Comparable` itself. -/
theorem parameterize_comparable :
    ∃ w, parameterize Standard.object Standard.comparable [Standard.object] standard =
        (standard.size, w) ∧
      List.Forall₂ (standard.MethodOfView Standard.object ["T"] [Standard.object] standard.size)
        (standard.get Standard.comparable).methods (w.get standard.size).methods ∧
      (w.withInterfaces Standard.number [standard.size, Standard.serializable]).abstractSignatures
          Standard.number =
        (w.withInterfaces Standard.number
          [Standard.comparable, Standard.serializable]).abstractSignatures Standard.number := by
  have hgeneric : standard.PlainGeneric Standard.comparable := plainGeneric_standard (by decide)
  have hobject : standard.Ground Standard.object := ground_standard (by decide) (by decide)
  have harguments : ∀ a ∈ [Standard.object], standard.Ground a := by
    intro a ha
    rwa [List.mem_singleton.1 ha]
  obtain ⟨w, hview, -, hviews, hmethods, -, -, hnames, hraw⟩ :=
    parameterize_substitutes hgeneric componentsInside_standard hobject harguments rfl
  obtain ⟨-, hlisted⟩ := hraw (fun a ha => List.mem_singleton.1 ha) w hviews
    (hnames namesVariables_standard)
  exact ⟨w, hview, hmethods, hlisted Standard.number (by decide) (by decide) []
    [Standard.serializable]⟩

end Skeletal
