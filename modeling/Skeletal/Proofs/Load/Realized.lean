import Skeletal.Proofs.Load.Summary
import Skeletal.Proofs.Universe.Hierarchy

/-!
# Realized types

What realizing a linked type yields, reference by reference: the type at the place of a reference is
an array over the place of its target, a supertype may be a view of it, and members and types have
what the linked ones refer to (`growth_realize`). This is stated by `Growth` and so of the final
universe. There it is enough to summarize the type (`Realizes.summary`), once the loaded types have
their methods (`Signed`).
-/

set_option autoImplicit false

namespace Skeletal.Load

open Layout (firstLoaded)

variable {layout : Layout} {u v : Universe} {t : TypeId}

theorem map_eq_map_of_forall₂ {α β γ : Type} {f : α → γ} {g : β → γ} {as : List α} {bs : List β}
    (h : List.Forall₂ (fun a b => g b = f a) as bs) : bs.map g = as.map f := by
  induction h with
  | nil => rfl
  | cons hab _ ih => rw [List.map_cons, List.map_cons, hab, ih]

theorem map_eq_map_of_rel {α β γ : Type} {f : α → γ} {g : β → γ} {a : Option α} {b : Option β}
    (h : Option.Rel (fun a b => g b = f a) a b) : b.map g = a.map f := by
  cases h with
  | none => rfl
  | some hab => rw [Option.map_some, Option.map_some, hab]

theorem forall₂_imp_of_mem {α β : Type} {R S : α → β → Prop} {as : List α} {bs : List β}
    (h : List.Forall₂ R as bs) (himp : ∀ a ∈ as, ∀ b, R a b → S a b) : List.Forall₂ S as bs := by
  induction h with
  | nil => exact List.Forall₂.nil
  | cons hab _ ih =>
      refine List.Forall₂.cons (himp _ List.mem_cons_self _ hab) (ih fun a ha => ?_)
      exact himp a (List.mem_cons_of_mem _ ha)

theorem rel_imp_of_mem {α β : Type} {R S : α → β → Prop} {a : Option α} {b : Option β}
    (h : Option.Rel R a b) (himp : ∀ x ∈ a, ∀ y, R x y → S x y) : Option.Rel S a b := by
  cases h with
  | none => exact Option.Rel.none
  | some hab => exact Option.Rel.some (himp _ rfl _ hab)

theorem lookup_map_snd {α β : Type} (f : α → β) (l : List (String × α)) (name : String) :
    (l.map fun p => (p.1, f p.2)).lookup name = (l.lookup name).map f := by
  induction l with
  | nil => rfl
  | cons p rest ih =>
      rw [List.map_cons, List.lookup_cons, List.lookup_cons, ih]
      cases name == p.1 <;> rfl

/-! ## References -/

/-- The type at a place is the one that a reference is to. -/
def ReferenceAt (layout : Layout) (v : Universe) (r : Reference) (t : TypeId) : Prop :=
  ArrayOver v (layout.place r.target) r.dimensions t

theorem growth_realizeReference (hu : Founded layout u) {r : Reference}
    (h : layout.Covers r.target) :
    Growth layout u (fun t v => ReferenceAt layout v r t) (realizeReference layout r u) :=
  (growth_arrayOf hu _ _).imp fun _ _ _ ht => (ht (hu.place_lt h)).2

theorem growth_references (hu : Founded layout u) {rs : List Reference}
    (h : ∀ r ∈ rs, layout.Covers r.target) :
    Growth layout u (fun ts v => List.Forall₂ (ReferenceAt layout v) rs ts)
      (rs.mapM (realizeReference layout) u) :=
  Growth.mapM hu fun r hr _ hv => growth_realizeReference hv (h r hr)

/-! ## Members -/

/-- A member of the type at a place refers to what a linked member refers to. -/
structure MemberAt (layout : Layout) (v : Universe) (owner : TypeId) (m : LinkedMember)
    (m' : Member) : Prop where
  name : m'.name = m.name
  kind : m'.kind = m.kind
  modifiers : m'.modifiers = m.modifiers
  parameters : List.Forall₂ (ReferenceAt layout v) m.parameters m'.parameters
  exceptions : List.Forall₂ (ReferenceAt layout v) m.exceptions m'.exceptions
  result : Option.Rel (ReferenceAt layout v) m.result m'.result
  declaring : m'.declaring = some owner

theorem growth_realizeMember (hu : Founded layout u) (owner : TypeId) {m : LinkedMember}
    (h : ∀ target ∈ m.targets, layout.Covers target) :
    Growth layout u (fun m' v => MemberAt layout v owner m m')
      (realizeMember layout owner m u) := by
  have hcovers : ∀ r ∈ m.parameters ++ m.exceptions ++ m.result.toList, layout.Covers r.target :=
    fun r hr => h _ (List.mem_map_of_mem hr)
  simp only [List.mem_append, Option.mem_toList] at hcovers
  refine Growth.bind (growth_references hu fun r hr => hcovers r (Or.inl (Or.inl hr))) ?_
  intro parameters u₁ _ hu₁ hparameters
  refine Growth.bind (growth_references hu₁ fun r hr => hcovers r (Or.inl (Or.inr hr))) ?_
  intro exceptions u₂ h₂ hu₂ hexceptions
  refine Growth.bind (Growth.option_mapM hu₂ fun r hr v hv =>
    growth_realizeReference hv (hcovers r (Or.inr hr))) ?_
  intro result u₃ h₃ hu₃ hresult
  refine Growth.pure hu₃ fun v hv => ?_
  exact ⟨rfl, rfl, rfl, hparameters v (h₂.trans (h₃.trans hv)), hexceptions v (h₃.trans hv),
    hresult v hv, rfl⟩

/-! ## Supertypes -/

/-- A type seen with arguments: a view of its own if it is generic and takes that many, else the
type itself. -/
def SeenAs (v : Universe) (base : TypeId) (arguments : List TypeId) (t : TypeId) : Prop :=
  if standard.takesArguments base arguments = true then
    v.get t = standard.viewOf Standard.object t base arguments
  else t = base

/-- A type takes arguments only if it is a standard one. -/
theorem lt_of_takesArguments {base : TypeId} {arguments : List TypeId}
    (h : standard.takesArguments base arguments = true) : base < firstLoaded := by
  by_contra hle
  rw [Universe.takesArguments, Universe.get_of_size_le (Nat.le_of_not_lt hle)] at h
  exact absurd h (by simp [Descriptor.blank])

theorem takesArguments_eq (hu : Founded layout u) (base : TypeId)
    (arguments : List TypeId) :
    u.takesArguments base arguments = standard.takesArguments base arguments := by
  rw [Universe.takesArguments, Universe.takesArguments]
  by_cases hlt : base < firstLoaded
  · rw [hu.standard base hlt]
  · have hle := Nat.le_of_not_lt hlt
    rw [hu.plain base hle, Universe.get_of_size_le (u := standard) hle]
    rfl

/-- The view of a standard type is the same in every founded universe. -/
theorem viewOf_eq (hu : Founded layout u) (place : TypeId) {base : TypeId}
    (hbase : base < firstLoaded) (arguments : List TypeId) :
    u.viewOf Standard.object place base arguments =
      standard.viewOf Standard.object place base arguments := by
  have hsubstitute : ∀ bindings, ∀ p < firstLoaded,
      u.substitute Standard.object bindings p = standard.substitute Standard.object bindings p := by
    intro bindings p hp
    rw [Universe.substitute, Universe.substitute, hu.standard p hp]
  rw [Universe.viewOf, Universe.viewOf, hu.standard base hbase]
  congr 1
  refine List.map_congr_left fun m hm => ?_
  congr 1
  · exact List.map_congr_left fun p hp => hsubstitute _ p (closed_standard.parameter base m hm p hp)
  · exact Option.map_congr fun r hr => hsubstitute _ r (result_lt_standard hm hr)

/-- Seeing a type with arguments adds a view of it, or does nothing. -/
theorem growth_parameterize (hu : Founded layout u) (base : TypeId) (arguments : List TypeId) :
    Growth layout u (fun t v => SeenAs v base arguments t)
      (parameterize Standard.object base arguments u) := by
  rw [parameterize, takesArguments_eq hu]
  simp only [SeenAs]
  split_ifs with htakes
  · have hlt := lt_of_takesArguments htakes
    rw [viewOf_eq hu _ hlt]
    refine (growth_addType hu rfl fun s hs => ?_).imp fun t v _ h => ?_
    · -- a view inherits what the type behind it inherits
      exact (lt_of_inherits_standard (t := base) hs).trans hlt
    · obtain ⟨rfl, -, hget⟩ := h
      exact hget
  · exact Growth.pure hu fun v _ => rfl

/-- Only standard types are seen differently with arguments. -/
theorem SeenAs.eq_of_le {base : TypeId} {arguments : List TypeId} (h : SeenAs v base arguments t)
    (hle : firstLoaded ≤ base) : t = base := by
  rw [SeenAs] at h
  split_ifs at h with htakes
  · exact absurd (lt_of_takesArguments htakes) (Nat.not_lt.2 hle)
  · exact h

/-- The type at a place is the one that a supertype reference is to. -/
def SupertypeAt (layout : Layout) (v : Universe) (r : SupertypeReference) (t : TypeId) : Prop :=
  ∃ base arguments, ReferenceAt layout v r.base base ∧
    List.Forall₂ (ReferenceAt layout v) r.arguments arguments ∧ SeenAs v base arguments t

theorem growth_realizeSupertype (hu : Founded layout u) {r : SupertypeReference}
    (h : ∀ target ∈ r.targets, layout.Covers target) :
    Growth layout u (fun t v => SupertypeAt layout v r t) (realizeSupertype layout r u) := by
  have hcovers : ∀ a ∈ r.base :: r.arguments, layout.Covers a.target :=
    fun a ha => h _ (List.mem_map_of_mem ha)
  rw [List.forall_mem_cons] at hcovers
  refine Growth.bind (growth_realizeReference hu hcovers.1) ?_
  intro base u₁ _ hu₁ hbase
  refine Growth.bind (growth_references hu₁ hcovers.2) ?_
  intro arguments u₂ h₂ hu₂ harguments
  refine (growth_parameterize hu₂ base arguments).imp fun t v hv ht => ?_
  exact ⟨base, arguments, hbase v (h₂.trans hv), harguments v hv, ht⟩

/-! ## Types -/

/-- The types that a linked type refers to have places, and so have the type itself and the one
around it. -/
structure Linked.Placed (layout : Layout) (l : Linked) : Prop where
  targets : ∀ target ∈ l.targets, layout.Covers target
  canonical : l.declared.canonical ∈ layout.loaded
  enclosing : ∀ name ∈ l.declared.enclosing, name ∈ layout.loaded

/-- What a linked type is realized to: its shell filled in with the supertypes and members that it
refers to. -/
structure Realizes (layout : Layout) (l : Linked) (d : Descriptor) (v : Universe) : Prop where
  shell : d = { shell layout l.declared with
    superclass := d.superclass, interfaces := d.interfaces, constructors := d.constructors,
    methods := d.methods }
  superclass : Option.Rel (SupertypeAt layout v) l.superclass d.superclass
  interfaces : List.Forall₂ (SupertypeAt layout v) l.interfaces d.interfaces
  constructors : List.Forall₂ (MemberAt layout v (layout.loadedPlace l.declared.canonical))
    l.constructors d.constructors
  methods : List.Forall₂ (MemberAt layout v (layout.loadedPlace l.declared.canonical))
    l.methods d.methods

theorem growth_realize (hu : Founded layout u) {l : Linked} (hl : l.Placed layout) :
    Growth layout u (Realizes layout l) (realize layout l u) := by
  have htargets := hl.targets
  simp only [Linked.targets, List.mem_append, List.mem_flatMap, Option.mem_toList] at htargets
  refine Growth.bind (Growth.option_mapM hu fun r hr v hv => growth_realizeSupertype hv
    fun target h => htargets target (Or.inl ⟨r, Or.inl hr, h⟩)) ?_
  intro superclass u₁ _ hu₁ hsuperclass
  refine Growth.bind (Growth.mapM hu₁ fun r hr v hv => growth_realizeSupertype hv
    fun target h => htargets target (Or.inl ⟨r, Or.inr hr, h⟩)) ?_
  intro interfaces u₂ h₂ hu₂ hinterfaces
  refine Growth.bind (Growth.mapM hu₂ fun m hm v hv => growth_realizeMember hv _
    fun target h => htargets target (Or.inr ⟨m, Or.inr hm, h⟩)) ?_
  intro methods u₃ h₃ hu₃ hmethods
  refine Growth.bind (Growth.mapM hu₃ fun m hm v hv => growth_realizeMember hv _
    fun target h => htargets target (Or.inr ⟨m, Or.inl hm, h⟩)) ?_
  intro constructors u₄ h₄ hu₄ hconstructors
  -- all parts are described in any universe from here on
  refine Growth.pure hu₄ fun v hv => ?_
  exact ⟨rfl, hsuperclass v (h₂.trans (h₃.trans (h₄.trans hv))),
    hinterfaces v (h₃.trans (h₄.trans hv)), hconstructors v hv, hmethods v (h₄.trans hv)⟩

/-! ## Summaries -/

/-- The loaded types have methods with these signatures. -/
def Signed (layout : Layout) (loaded : String → List Signature) (v : Universe) : Prop :=
  ∀ c ∈ layout.loaded, (v.get (layout.loadedPlace c)).methods.map v.signature = loaded c

section

variable (hv : Founded layout v)

include hv

theorem ReferenceAt.canonical_eq {r : Reference} (h : ReferenceAt layout v r t)
    (hcovers : layout.Covers r.target) : v.canonical t = r.canonical := by
  rw [ArrayOver.canonical_eq h, hv.canonical_place hcovers]
  rfl

theorem map_canonical_references {rs : List Reference} {ts : List TypeId}
    (h : List.Forall₂ (ReferenceAt layout v) rs ts) (hcovers : ∀ r ∈ rs, layout.Covers r.target) :
    ts.map v.canonical = rs.map Reference.canonical :=
  map_eq_map_of_forall₂ (forall₂_imp_of_mem h fun r hr _ ht => ht.canonical_eq hv (hcovers r hr))

theorem MemberAt.summary_eq {c : String} {m : LinkedMember} {m' : Member}
    (h : MemberAt layout v (layout.loadedPlace c) m m') (hc : c ∈ layout.loaded)
    (hcovers : ∀ target ∈ m.targets, layout.Covers target) :
    v.memberSummary m' = m.summary c := by
  have hcovers' : ∀ r ∈ m.parameters ++ m.exceptions ++ m.result.toList,
      layout.Covers r.target := fun r hr => hcovers _ (List.mem_map_of_mem hr)
  simp only [List.mem_append, Option.mem_toList] at hcovers'
  have hparameters := map_canonical_references hv h.parameters
    fun r hr => hcovers' r (Or.inl (Or.inl hr))
  have hexceptions := map_canonical_references hv h.exceptions
    fun r hr => hcovers' r (Or.inl (Or.inr hr))
  have hresult : m'.result.map v.canonical = m.result.map Reference.canonical :=
    map_eq_map_of_rel (rel_imp_of_mem h.result fun r hr _ ht =>
      ht.canonical_eq hv (hcovers' r (Or.inr hr)))
  simp only [Universe.memberSummary, LinkedMember.summary, h.name, h.kind, h.modifiers, hparameters,
    hexceptions, hresult, h.declaring, Option.map_some, hv.loaded c hc]

/-- Substituting places and then naming them is naming them under bound names. -/
theorem canonical_substitute {parameters : List String} {arguments : List TypeId}
    {names : List String} (hnames : arguments.map v.canonical = names) {p : TypeId}
    (hp : p < firstLoaded) :
    v.canonical (standard.substitute Standard.object (Universe.bindings parameters arguments) p) =
      boundName (parameters.zip names).reverse p := by
  have hlookup : ((parameters.zip names).reverse).lookup (standard.get p).name =
      ((Universe.bindings parameters arguments).lookup (standard.get p).name).map v.canonical := by
    rw [← lookup_map_snd, Universe.bindings, List.map_reverse, ← hnames, List.zip_map_right]
    rfl
  have hstandard : ∀ p < firstLoaded, v.canonical p = standard.canonical p := fun p hp => by
    rw [Universe.canonical, hv.standard p hp, Universe.canonical]
  rw [Universe.substitute, boundName, hlookup]
  split_ifs
  · cases (Universe.bindings parameters arguments).lookup (standard.get p).name with
    | none => exact hstandard _ object_lt_firstLoaded
    | some a => rfl
  · exact hstandard p hp

/-- The methods of a standard type seen with arguments. -/
theorem SeenAs.signatures_eq {base : TypeId} {arguments : List TypeId}
    (h : SeenAs v base arguments t) (hbase : base < firstLoaded) {names : List String}
    (hnames : arguments.map v.canonical = names) :
    (v.get t).methods.map v.signature = viewSignatures base names := by
  have hlength : names.length = arguments.length := by rw [← hnames, List.length_map]
  have hparameter : ∀ m ∈ (standard.get base).methods, ∀ p ∈ m.parameters, p < firstLoaded :=
    closed_standard.parameter base
  rw [SeenAs, Universe.takesArguments] at h
  rw [viewSignatures, hlength]
  split_ifs at h ⊢
  · rw [h, Universe.viewOf, List.map_map]
    refine List.map_congr_left fun m hm => ?_
    rw [Function.comp_apply, Universe.signature, List.map_map]
    congr 1
    exact List.map_congr_left fun p hp => canonical_substitute hv hnames (hparameter m hm p hp)
  · rw [h, hv.standard base hbase]
    refine List.map_congr_left fun m hm => ?_
    rw [Universe.signature, Universe.signature]
    congr 1
    refine List.map_congr_left fun p hp => ?_
    rw [Universe.canonical, hv.standard p (hparameter m hm p hp), Universe.canonical]

/-- A type that is seen with arguments keeps its name. -/
theorem SeenAs.canonical_eq {base : TypeId} {arguments : List TypeId}
    (h : SeenAs v base arguments t) : v.canonical t = v.canonical base := by
  rw [SeenAs] at h
  split_ifs at h with htakes
  · rw [Universe.canonical, h, Universe.canonical, hv.standard base (lt_of_takesArguments htakes)]
    rfl
  · rw [h]

/-- Arrays are no standard types. -/
theorem ArrayOver.firstLoaded_le {component : TypeId} {dimensions : Nat}
    (h : ArrayOver v component (dimensions + 1) t) : firstLoaded ≤ t := by
  have hall : ∀ t < firstLoaded, (standard.get t).kind ≠ .array := by decide +kernel
  by_contra hlt
  obtain - | ⟨-, hkind, -⟩ := h
  rw [hv.standard t (Nat.lt_of_not_le hlt)] at hkind
  exact hall t (Nat.lt_of_not_le hlt) hkind

theorem SupertypeAt.summary_eq {loaded : String → List Signature} (hsigned : Signed layout loaded v)
    {r : SupertypeReference} (h : SupertypeAt layout v r t)
    (hcovers : ∀ target ∈ r.targets, layout.Covers target) :
    v.supertypeSummary t = r.summary loaded := by
  obtain ⟨⟨target, dimensions⟩, references⟩ := r
  have hcovers' : ∀ a ∈ ⟨target, dimensions⟩ :: references, layout.Covers a.target :=
    fun a ha => hcovers _ (List.mem_map_of_mem ha)
  rw [List.forall_mem_cons] at hcovers'
  obtain ⟨base, arguments, hbase, harguments, hseen⟩ := h
  have hnames := map_canonical_references hv harguments hcovers'.2
  rw [Universe.supertypeSummary, SupertypeReference.summary, hseen.canonical_eq hv,
    hbase.canonical_eq hv hcovers'.1]
  congr 1
  cases dimensions with
  | succ dimensions =>
      -- arrays have no methods, and no type parameters to be bound
      rw [hseen.eq_of_le (ArrayOver.firstLoaded_le hv hbase)]
      obtain - | ⟨-, -, -, -, hmethods⟩ := hbase
      rw [hmethods]
      cases target <;> rfl
  | zero =>
      obtain - | - := hbase
      cases target with
      | standard place => exact hseen.signatures_eq hv hcovers'.1 hnames
      | declared c =>
          -- loaded types have no type parameters
          rw [hseen.eq_of_le (Nat.le_add_right _ _)]
          exact hsigned c hcovers'.1
      | outside c =>
          rw [hseen.eq_of_le ((Nat.le_add_right _ _).trans (Nat.le_add_right _ _)),
            hv.outside c hcovers'.1]
          rfl

end

theorem signature_eq_of_memberSummary {c : String} {m : Member} {m' : LinkedMember}
    (h : v.memberSummary m = m'.summary c) : v.signature m = m'.signature := by
  rw [Universe.memberSummary, LinkedMember.summary] at h
  obtain ⟨hname, -, -, hparameters, -⟩ := MemberSummary.mk.inj h
  rw [Universe.signature, LinkedMember.signature, hname, hparameters]

namespace Realizes

variable {l : Linked} {d : Descriptor}

theorem canonical_eq (h : Realizes layout l d v) : d.canonical = l.declared.canonical :=
  congrArg Descriptor.canonical h.shell

theorem typeParameters_eq (h : Realizes layout l d v) : d.typeParameters = [] :=
  congrArg Descriptor.typeParameters h.shell

variable (hv : Founded layout v) (hl : l.Placed layout)

include hv hl

theorem signatures_eq (h : Realizes layout l d v) :
    d.methods.map v.signature = l.methods.map LinkedMember.signature := by
  refine map_eq_map_of_forall₂ (forall₂_imp_of_mem h.methods fun m hm m' hm' => ?_)
  refine signature_eq_of_memberSummary (hm'.summary_eq hv hl.canonical fun target ht => ?_)
  exact hl.targets target (List.mem_append_right _
    (List.mem_flatMap.2 ⟨m, List.mem_append_right _ hm, ht⟩))

/-- A realized type is summarized as the linked type says, once the loaded types have methods. -/
theorem summary_eq {loaded : String → List Signature} (hsigned : Signed layout loaded v)
    (h : Realizes layout l d v) : v.describe d = l.summary loaded := by
  have htargets := hl.targets
  simp only [Linked.targets, List.mem_append, List.mem_flatMap, Option.mem_toList] at htargets
  have hsuperclass : d.superclass.map v.supertypeSummary =
      l.superclass.map (SupertypeReference.summary loaded) :=
    map_eq_map_of_rel (rel_imp_of_mem h.superclass fun r hr _ hs =>
      hs.summary_eq hv hsigned fun target ht => htargets target (Or.inl ⟨r, Or.inl hr, ht⟩))
  have hinterfaces : d.interfaces.map v.supertypeSummary =
      l.interfaces.map (SupertypeReference.summary loaded) :=
    map_eq_map_of_forall₂ (forall₂_imp_of_mem h.interfaces fun r hr _ hs =>
      hs.summary_eq hv hsigned fun target ht => htargets target (Or.inl ⟨r, Or.inr hr, ht⟩))
  have hconstructors : d.constructors.map v.memberSummary =
      l.constructors.map (LinkedMember.summary l.declared.canonical) :=
    map_eq_map_of_forall₂ (forall₂_imp_of_mem h.constructors fun m hm _ hm' =>
      hm'.summary_eq hv hl.canonical fun target ht =>
        htargets target (Or.inr ⟨m, Or.inl hm, ht⟩))
  have hmethods : d.methods.map v.memberSummary =
      l.methods.map (LinkedMember.summary l.declared.canonical) :=
    map_eq_map_of_forall₂ (forall₂_imp_of_mem h.methods fun m hm _ hm' =>
      hm'.summary_eq hv hl.canonical fun target ht =>
        htargets target (Or.inr ⟨m, Or.inr hm, ht⟩))
  have henclosing : (l.declared.enclosing.map layout.loadedPlace).map v.canonical =
      l.declared.enclosing := by
    cases he : l.declared.enclosing with
    | none => rfl
    | some name =>
        rw [Option.map_some, Option.map_some, hv.loaded name (hl.enclosing name he)]
  rw [h.shell]
  simp only [Universe.describe, Linked.summary, Load.shell, hsuperclass, hinterfaces, henclosing,
    hconstructors, hmethods, Option.map_none]

end Realizes

end Skeletal.Load
