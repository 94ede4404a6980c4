import Skeletal.Proofs.Load.Order
import Skeletal.Proofs.Load.Retained
import Skeletal.Proofs.Load.Roles
import Skeletal.Proofs.Load.WellFormed
import Skeletal.Proofs.Universe.Correspondence

/-!
# The same types loaded twice

Types that are declared in another order, and with other origins, are realized to another universe:
places differ, and so do the arrays and views that stand behind the layout. The two universes
correspond by the roles of their places (`corresponds_realizeAll`).
-/

set_option autoImplicit false

namespace Skeletal

open Load.Layout (firstLoaded)

namespace Load

/-- The declared type without its origin. -/
def Declared.withoutOrigin (d : Declared) : Declared := { d with origin := none }

/-- The same types are declared, in any order and with any origins. -/
def SameTypes (known known' : List Declared) : Prop :=
  (known.map Declared.withoutOrigin).Perm (known'.map Declared.withoutOrigin)

/-- The places have a role in common, each in its universe. -/
def SharesRole (known known' : List Declared) (t t' : TypeId) : Prop :=
  ∃ role, HasRole known t role ∧ HasRole known' t' role

variable {known known' : List Declared} {d d' : Declared} {layout layout' : Layout}
  {u v : Universe} {t t' : TypeId} {target : Target}

/-! ## Lists -/

/-- Lists that match one list element by element match each other. -/
theorem forall₂_of_forall₂ {α β γ : Type} {P : α → β → Prop} {Q : α → γ → Prop}
    {S : β → γ → Prop} {l : List α} {bs : List β} {cs : List γ} (hb : List.Forall₂ P l bs)
    (hc : List.Forall₂ Q l cs) (h : ∀ a ∈ l, ∀ b c, P a b → Q a c → S b c) :
    List.Forall₂ S bs cs := by
  induction hb generalizing cs with
  | nil =>
      obtain rfl := List.forall₂_nil_left_iff.1 hc
      exact List.Forall₂.nil
  | cons hab _ ih =>
      obtain ⟨c, cs, hac, hcs, rfl⟩ := List.forall₂_cons_left_iff.1 hc
      exact List.Forall₂.cons (h _ List.mem_cons_self _ _ hab hac)
        (ih hcs fun a ha => h a (List.mem_cons_of_mem _ ha))

theorem forall₂_toList_append {α β : Type} {R : α → β → Prop} {o : Option α} {p : Option β}
    {l : List α} {l' : List β} (hsome : o.isSome = p.isSome) :
    List.Forall₂ R (o.toList ++ l) (p.toList ++ l') ↔ Option.Rel R o p ∧ List.Forall₂ R l l' := by
  cases o with
  | none =>
      cases p with
      | none => exact (and_iff_right Option.Rel.none).symm
      | some b => cases hsome
  | some a =>
      cases p with
      | none => cases hsome
      | some b =>
          simp only [Option.toList_some, List.singleton_append, List.forall₂_cons]
          exact and_congr_left fun _ => ⟨Option.Rel.some, fun h => by cases h; assumption⟩

/-- Elements at one index of matched lists match. -/
theorem rel_of_getElem? {α β : Type} {R : α → β → Prop} {l : List α} {l' : List β} {i : Nat} {a : α}
    {b : β} (h : List.Forall₂ R l l') (ha : l[i]? = some a) (hb : l'[i]? = some b) : R a b := by
  obtain ⟨hi, rfl⟩ := List.getElem?_eq_some_iff.1 ha
  obtain ⟨hi', rfl⟩ := List.getElem?_eq_some_iff.1 hb
  exact h.get hi hi'

/-! ## Targets -/

theorem SameTypes.symm (h : SameTypes known known') : SameTypes known' known := List.Perm.symm h

theorem SameTypes.exists_mem (h : SameTypes known known') (hd : d ∈ known) :
    ∃ d' ∈ known', d'.withoutOrigin = d.withoutOrigin :=
  List.mem_map.1 (h.mem_iff.1 (List.mem_map_of_mem hd))

theorem SameTypes.map_canonical (h : SameTypes known known') :
    (known.map Declared.canonical).Perm (known'.map Declared.canonical) := by
  have hmap := h.map Declared.canonical
  rwa [List.map_map, List.map_map] at hmap

theorem SameTypes.isTaken_eq (h : SameTypes known known') : isTaken known = isTaken known' := by
  funext name
  rw [Bool.eq_iff_iff, isTaken_eq_true_iff, isTaken_eq_true_iff]
  exact h.map_canonical.mem_iff

theorem exists_origin (h : d'.withoutOrigin = d.withoutOrigin) :
    ∃ origin, d' = { d with origin } :=
  ⟨d'.origin, congrArg (fun e : Declared => { e with origin := d'.origin }) h⟩

/-- Linking does not look at origins. -/
theorem link_eq_of_withoutOrigin (isLoaded : String → Bool)
    (h : d'.withoutOrigin = d.withoutOrigin) :
    link isLoaded d' = { link isLoaded d with declared := d' } := by
  obtain ⟨origin, rfl⟩ := exists_origin h
  rfl

theorem mem_outside_layoutOf {c : String} : c ∈ (layoutOf known).outside ↔
    ∃ d ∈ known, Target.outside c ∈ (link (isTaken known) d).targets := by
  simp only [layoutOf, Layout.ofLinked, List.mem_eraseDups, List.mem_filterMap, List.mem_flatMap,
    linkAll, List.mem_map, exists_exists_and_eq_and]
  constructor
  · rintro ⟨target, ⟨d, hd, ht⟩, hc⟩
    cases target with
    | outside c' =>
        obtain rfl := Option.some.inj hc
        exact ⟨d, hd, ht⟩
    | standard place => cases hc
    | declared c' => cases hc
  · rintro ⟨d, hd, ht⟩
    exact ⟨_, ⟨d, hd, ht⟩, rfl⟩

theorem SameTypes.covers (h : SameTypes known known') (hcovers : (layoutOf known).Covers target) :
    (layoutOf known').Covers target := by
  -- names outside are those that linked types refer to, and linking does not look at origins
  cases target with
  | standard place => exact hcovers
  | declared c =>
      have hc : c ∈ (layoutOf known).loaded := hcovers
      have hc' : c ∈ (layoutOf known').loaded := by
        rw [loaded_layoutOf] at hc ⊢
        exact h.map_canonical.mem_iff.1 hc
      exact hc'
  | outside c =>
      obtain ⟨d, hd, ht⟩ := mem_outside_layoutOf.1 hcovers
      obtain ⟨d', hd', hsame⟩ := h.exists_mem hd
      refine mem_outside_layoutOf.2 ⟨d', hd', ?_⟩
      rwa [← h.isTaken_eq, link_eq_of_withoutOrigin _ hsame]

theorem SameTypes.sharesRole (h : SameTypes known known')
    (hcovers : (layoutOf known).Covers target) :
    SharesRole known known' ((layoutOf known).place target) ((layoutOf known').place target) :=
  ⟨.target target, ⟨hcovers, rfl⟩, ⟨h.covers hcovers, rfl⟩⟩

theorem SameTypes.sharesRole_standard (h : SameTypes known known') (ht : t < firstLoaded) :
    SharesRole known known' t t :=
  h.sharesRole (show (layoutOf known).Covers (.standard t) from ht)

/-! ## What members say -/

/-- Default value of the type that a reference is to. -/
def Reference.defaultValue : Reference → String
  | ⟨.standard place, 0⟩ => (standard.get place).defaultValue
  | _ => "null"

/-- Name and default value of the type that a reference is to. -/
def Reference.returned (r : Reference) : String × String := (r.canonical, r.defaultValue)

theorem returned_standard (hu : Founded layout u) (ht : t < firstLoaded) :
    u.returned t = standard.returned t := by
  rw [Universe.returned, Universe.returned, Universe.canonical, Universe.canonical,
    hu.standard t ht]

theorem defaultValue_of_not_primitive {descriptor : Descriptor}
    (h : descriptor.kind ≠ .primitive) : descriptor.defaultValue = "null" := by
  rw [Descriptor.defaultValue, Descriptor.isPrimitive, if_neg (by simpa using h)]

/-- Loaded types are no primitive ones. -/
def NonePrimitive (layout : Layout) (u : Universe) : Prop :=
  ∀ c ∈ layout.loaded, (u.get (layout.loadedPlace c)).kind ≠ .primitive

theorem ReferenceAt.defaultValue_eq (hu : Founded layout u) (hprimitive : NonePrimitive layout u)
    {r : Reference} (h : ReferenceAt layout u r t) (hcovers : layout.Covers r.target) :
    (u.get t).defaultValue = r.defaultValue := by
  obtain ⟨target, dimensions⟩ := r
  cases h with
  | component =>
      cases target with
      | standard place => exact congrArg Descriptor.defaultValue (hu.standard place hcovers)
      | declared c => exact defaultValue_of_not_primitive (hprimitive c hcovers)
      | outside c =>
          refine defaultValue_of_not_primitive ?_
          rw [hu.outside c hcovers]
          exact nofun
  | array _ hkind _ _ _ =>
      have hnull : (u.get t).defaultValue = "null" :=
        defaultValue_of_not_primitive (by rw [hkind]; exact nofun)
      cases target with
      | standard place => exact hnull
      | declared c => exact hnull
      | outside c => exact hnull

theorem ReferenceAt.returned_eq (hu : Founded layout u) (hprimitive : NonePrimitive layout u)
    {r : Reference} (h : ReferenceAt layout u r t) (hcovers : layout.Covers r.target) :
    u.returned t = r.returned := by
  rw [Universe.returned, Reference.returned, h.canonical_eq hu hcovers,
    h.defaultValue_eq hu hprimitive hcovers]

section

variable (hu : Founded layout u) (hv : Founded layout' v)

include hu hv

/-- Members that refer to the same say the same. -/
theorem MemberAt.alike (hprimitive : NonePrimitive layout u) (hprimitive' : NonePrimitive layout' v)
    {owner owner' : TypeId} {m : LinkedMember} {n n' : Member}
    (h : MemberAt layout u owner m n) (h' : MemberAt layout' v owner' m n')
    (hcovers : ∀ target ∈ m.targets, layout.Covers target)
    (hcovers' : ∀ target ∈ m.targets, layout'.Covers target) : n.Alike u v n' := by
  have hin : ∀ r ∈ m.parameters ++ m.exceptions ++ m.result.toList, r.target ∈ m.targets :=
    fun r hr => List.mem_map_of_mem hr
  simp only [List.mem_append, Option.mem_toList] at hin
  have hparameters : ∀ r ∈ m.parameters, r.target ∈ m.targets :=
    fun r hr => hin r (Or.inl (Or.inl hr))
  have hexceptions : ∀ r ∈ m.exceptions, r.target ∈ m.targets :=
    fun r hr => hin r (Or.inl (Or.inr hr))
  have hresult : n.result.map u.returned = m.result.map Reference.returned :=
    map_eq_map_of_rel (rel_imp_of_mem h.result fun r hr _ ht =>
      ht.returned_eq hu hprimitive (hcovers _ (hin r (Or.inr hr))))
  have hresult' : n'.result.map v.returned = m.result.map Reference.returned :=
    map_eq_map_of_rel (rel_imp_of_mem h'.result fun r hr _ ht =>
      ht.returned_eq hv hprimitive' (hcovers' _ (hin r (Or.inr hr))))
  constructor
  · rw [h.name, h'.name]
  · rw [h.modifiers, h'.modifiers]
  · rw [map_canonical_references hu h.parameters fun r hr => hcovers _ (hparameters r hr),
      map_canonical_references hv h'.parameters fun r hr => hcovers' _ (hparameters r hr)]
  · rw [map_canonical_references hu h.exceptions fun r hr => hcovers _ (hexceptions r hr),
      map_canonical_references hv h'.exceptions fun r hr => hcovers' _ (hexceptions r hr)]
  · rw [hresult, hresult']

theorem returned_of_lt (ht : t < firstLoaded) : u.returned t = v.returned t := by
  rw [returned_standard hu ht, returned_standard hv ht]

theorem canonical_of_lt (ht : t < firstLoaded) : u.canonical t = v.canonical t :=
  congrArg Prod.fst (returned_of_lt hu hv ht)

/-- A member of a standard type says the same wherever the standard types stand first. -/
theorem alike_standard {m : Member} (hm : m ∈ (standard.get t).members) : m.Alike u v m := by
  have hlt := fun r hr => lt_of_mem_mentions_standard (r := r) hm hr
  simp only [Member.mentions, List.mem_append, Option.mem_toList] at hlt
  refine ⟨rfl, rfl, ?_, ?_, ?_⟩
  · exact List.map_congr_left fun r hr => canonical_of_lt hu hv (hlt r (Or.inl (Or.inl hr)))
  · exact List.map_congr_left fun r hr => canonical_of_lt hu hv (hlt r (Or.inl (Or.inr hr)))
  · exact Option.map_congr fun r hr => returned_of_lt hu hv (hlt r (Or.inr hr))

/-- Places are substituted by places that say the same. -/
theorem returned_substitute (parameters : List String) {arguments arguments' : List TypeId}
    (hsame : arguments.map u.returned = arguments'.map v.returned) (ht : t < firstLoaded) :
    u.returned (standard.substitute Standard.object (Universe.bindings parameters arguments) t) =
      v.returned
        (standard.substitute Standard.object (Universe.bindings parameters arguments') t) := by
  -- what a parameter is bound to says the same, found by its position among the parameters
  have hlookup : ∀ (w : Universe) (places : List TypeId) (name : String),
      ((Universe.bindings parameters places).lookup name).map w.returned =
        ((parameters.zip (places.map w.returned)).reverse).lookup name := by
    intro w places name
    rw [← lookup_map_snd, Universe.bindings, List.map_reverse, List.zip_map_right]
    rfl
  rw [Universe.substitute, Universe.substitute]
  split_ifs
  · have hfound := hlookup u arguments (standard.get t).name
    rw [hsame, ← hlookup] at hfound
    cases hl : (Universe.bindings parameters arguments).lookup (standard.get t).name with
    | none =>
        rw [hl, Option.map_none, eq_comm, Option.map_eq_none_iff] at hfound
        rw [hfound]
        exact returned_of_lt hu hv object_lt_firstLoaded
    | some a =>
        rw [hl, Option.map_some, eq_comm, Option.map_eq_some_iff] at hfound
        obtain ⟨a', ha', hreturned⟩ := hfound
        rw [ha']
        exact hreturned.symm
  · exact returned_of_lt hu hv ht

end

/-! ## Descriptors -/

/-- An array type is one over a component, below the root of all classes. -/
def IsArrayOver (descriptor : Descriptor) : Prop :=
  descriptor.kind = .array → ∃ (w : Universe) (component : TypeId),
    descriptor = w.arrayOver Standard.object component

theorem derives_isArrayOver : Derives IsArrayOver where
  array w component _ := ⟨w, component, rfl⟩
  view w place generic arguments h hkind := by
    -- a view of an array is the array, which has neither parameters nor methods
    obtain ⟨w', component, hgeneric⟩ := h hkind
    refine ⟨w', component, ?_⟩
    rw [Universe.viewOf, hgeneric]
    rfl

section

variable (h : WellDeclared known)

include h

theorem kind_of_mem (hd : d ∈ known) : d.kind ≠ .array ∧ d.kind ≠ .primitive := by
  rw [h.kind_eq hd]
  cases d.header.kind <;> decide

theorem isArrayOver_realizeAll : (realizeAll (linkAll known)).All IsArrayOver := by
  refine all_realizeAll h derives_isArrayOver ?_ ?_ ?_ ?_
  · exact fun t hkind => absurd hkind (kind_standard_ne_array t)
  · exact fun d hd layout hkind => absurd hkind (kind_of_mem h hd).1
  · exact fun name hkind => nomatch hkind
  · intro d hd descriptor v hrealizes hkind
    rw [hrealizes.shell] at hkind
    exact absurd hkind (kind_of_mem h hd).1

theorem nonePrimitive_realizeAll : NonePrimitive (layoutOf known) (realizeAll (linkAll known)) := by
  intro c hc
  rw [loaded_layoutOf, List.mem_map] at hc
  obtain ⟨d, hd, rfl⟩ := hc
  rw [(realizes_loadedPlace h hd).shell]
  exact (kind_of_mem h hd).2

end

/-- The direct supertypes of a realized type are those of the linked one. -/
theorem Realizes.supertypes {l : Linked} {descriptor : Descriptor}
    (h : Realizes layout l descriptor u) :
    List.Forall₂ (SupertypeAt layout u) l.supertypes descriptor.directSupertypes :=
  (forall₂_toList_append (isSome_eq_of_rel h.superclass).symm).2 ⟨h.superclass, h.interfaces⟩

section

variable (h : WellDeclared known) (h' : WellDeclared known') (hsame : SameTypes known known')

include h h' hsame

/-- The direct supertypes of a type that is loaded twice have the same roles. -/
theorem sharesRole_supertypes (hd : d ∈ known) (hd' : d' ∈ known')
    (heq : d'.withoutOrigin = d.withoutOrigin) :
    List.Forall₂ (SharesRole known known')
      ((realizeAll (linkAll known)).get
        ((layoutOf known).loadedPlace d.canonical)).directSupertypes
      ((realizeAll (linkAll known')).get
        ((layoutOf known').loadedPlace d'.canonical)).directSupertypes := by
  have hcanonical : d'.canonical = d.canonical := by
    obtain ⟨origin, rfl⟩ := exists_origin heq
    rfl
  have hlink : (link (isTaken known') d').supertypes = (link (isTaken known) d).supertypes := by
    rw [← hsame.isTaken_eq, link_eq_of_withoutOrigin _ heq]
    rfl
  have hlength := (realizes_loadedPlace h hd).supertypes.length_eq
  have hlength' := (realizes_loadedPlace h' hd').supertypes.length_eq
  obtain ⟨low, high, hlow, -, hallots⟩ := allots_loadedPlace h hd
  obtain ⟨low', high', hlow', -, hallots'⟩ := allots_loadedPlace h' hd'
  rw [hlink] at hlength' hallots'
  -- at each index either both places are targets, or both were added for this reference
  refine List.forall₂_iff_get.2 ⟨hlength.symm.trans hlength', fun i hi hi' => ?_⟩
  have hget := List.getElem?_eq_getElem hi
  have hget' := List.getElem?_eq_getElem hi'
  obtain ⟨r, hr, hcase⟩ := hallots.getElem? hget
  obtain ⟨r', hr', hcase'⟩ := hallots'.getElem? hget'
  obtain rfl := Option.some.inj (hr.symm.trans hr')
  rcases hcase with ⟨hplain, hcovers, ht⟩ | ⟨hadded, hle, -⟩
  · rcases hcase' with ⟨-, -, ht'⟩ | ⟨hadded', -, -⟩
    · rw [List.get_eq_getElem, List.get_eq_getElem, ht, ht']
      exact hsame.sharesRole hcovers
    · exact absurd hplain hadded'
  · rcases hcase' with ⟨hplain', -, -⟩ | ⟨-, hle', -⟩
    · exact absurd hplain' hadded
    · refine ⟨.supertype d.canonical i, ⟨hlow.trans hle, d, hd, rfl, hget⟩,
        ⟨hlow'.trans hle', d', hd', hcanonical, ?_⟩⟩
      rw [← hcanonical]
      exact hget'

/-- A type that is loaded twice says the same. -/
theorem alike_loaded (hd : d ∈ known) (hd' : d' ∈ known')
    (heq : d'.withoutOrigin = d.withoutOrigin) :
    ((realizeAll (linkAll known)).get ((layoutOf known).loadedPlace d.canonical)).Alike
      (realizeAll (linkAll known)) (realizeAll (linkAll known')) (SharesRole known known')
      ((realizeAll (linkAll known')).get ((layoutOf known').loadedPlace d'.canonical)) := by
  have hsupertypes := sharesRole_supertypes h h' hsame hd hd' heq
  have hrealizes := realizes_loadedPlace h hd
  have hrealizes' := realizes_loadedPlace h' hd'
  have hplaced := placed_linkAll h _ (List.mem_map_of_mem hd)
  have hshell : Registry.HasShell (layoutOf known) d _ := Registry.hasShell_of_realizes hrealizes
  have hshell' : Registry.HasShell (layoutOf known') d' _ :=
    Registry.hasShell_of_realizes hrealizes'
  rw [← hsame.isTaken_eq, link_eq_of_withoutOrigin _ heq] at hrealizes'
  obtain ⟨origin, hd'eq⟩ := exists_origin heq
  have hsome := (isSome_eq_of_rel hrealizes.superclass).trans
    (isSome_eq_of_rel hrealizes'.superclass).symm
  obtain ⟨hsuperclass, hinterfaces⟩ := (forall₂_toList_append hsome).1 hsupertypes
  -- members refer to targets that both layouts have
  have hmembers : ∀ m ∈ (link (isTaken known) d).constructors ++ (link (isTaken known) d).methods,
      ∀ target ∈ m.targets, (layoutOf known).Covers target := fun m hm target ht =>
    hplaced.targets target (List.mem_append_right _ (List.mem_flatMap.2 ⟨m, hm, ht⟩))
  have halike : ∀ m ∈ (link (isTaken known) d).constructors ++ (link (isTaken known) d).methods,
      ∀ owner owner' n n', MemberAt (layoutOf known) (realizeAll (linkAll known)) owner m n →
        MemberAt (layoutOf known') (realizeAll (linkAll known')) owner' m n' → n.Alike _ _ n' :=
    fun m hm _ _ n n' hn hn' => hn.alike h.founded h'.founded (nonePrimitive_realizeAll h)
      (nonePrimitive_realizeAll h') hn' (hmembers m hm)
      fun target ht => hsame.covers (hmembers m hm target ht)
  constructor
  · rw [hrealizes.canonical_eq, hrealizes'.canonical_eq, hd'eq]
    rfl
  · rw [hshell.kind, hshell'.kind, hd'eq]
  · rw [hshell.modifiers, hshell'.modifiers, hd'eq]
  · rw [hshell.membersUnknown, hshell'.membersUnknown]
  · rw [hshell.enclosing, hshell'.enclosing, Option.isSome_map, Option.isSome_map, hd'eq]
  · exact hsuperclass
  · exact hinterfaces
  · exact forall₂_of_forall₂ hrealizes.constructors hrealizes'.constructors
      fun m hm n n' => halike m (List.mem_append_left _ hm) _ _ n n'
  · exact forall₂_of_forall₂ hrealizes.methods hrealizes'.methods
      fun m hm n n' => halike m (List.mem_append_right _ hm) _ _ n n'

/-- A standard type says the same in both universes, seen with arguments or not. -/
theorem alike_view {methods methods' : List Member} (ht : t < firstLoaded)
    (hmethods : List.Forall₂
      (Member.Alike (realizeAll (linkAll known)) (realizeAll (linkAll known'))) methods methods')
    (parameters parameters' : List String) :
    Descriptor.Alike (realizeAll (linkAll known)) (realizeAll (linkAll known'))
      (SharesRole known known')
      { standard.get t with typeParameters := parameters, methods := methods }
      { standard.get t with typeParameters := parameters', methods := methods' } := by
  have habove : ∀ s ∈ (standard.get t).directSupertypes, SharesRole known known' s s :=
    fun s hs => hsame.sharesRole_standard ((lt_of_inherits_standard hs).trans ht)
  have hall : List.Forall₂ (SharesRole known known') (standard.get t).directSupertypes
      (standard.get t).directSupertypes := List.forall₂_same.2 habove
  obtain ⟨hsuperclass, hinterfaces⟩ := (forall₂_toList_append rfl).1 hall
  have hconstructors := List.forall₂_same.2 fun m hm =>
    alike_standard (t := t) (m := m) h.founded h'.founded (List.mem_append_left _ hm)
  exact ⟨rfl, rfl, rfl, rfl, rfl, hsuperclass, hinterfaces, hconstructors, hmethods⟩

/-- Arrays of one name say the same. -/
theorem alike_array (ht : ((realizeAll (linkAll known)).get t).kind = .array)
    (ht' : ((realizeAll (linkAll known')).get t').kind = .array)
    (hcanonical : (realizeAll (linkAll known)).canonical t =
      (realizeAll (linkAll known')).canonical t') :
    ((realizeAll (linkAll known)).get t).Alike (realizeAll (linkAll known))
      (realizeAll (linkAll known')) (SharesRole known known')
      ((realizeAll (linkAll known')).get t') := by
  obtain ⟨w, component, harray⟩ := isArrayOver_realizeAll h t ht
  obtain ⟨w', component', harray'⟩ := isArrayOver_realizeAll h' t' ht'
  refine ⟨hcanonical, ht.trans ht'.symm, ?_, ?_, ?_, ?_, ?_, ?_, ?_⟩
  all_goals rw [harray, harray']
  · rfl
  · rfl
  · rfl
  · exact Option.Rel.some (hsame.sharesRole_standard object_lt_firstLoaded)
  · exact List.Forall₂.nil
  · exact List.Forall₂.nil
  · exact List.Forall₂.nil

/-- Views of a standard type with arguments that say the same have methods that say the same. -/
theorem alike_viewOf {arguments arguments' : List TypeId}
    (hreturned : arguments.map (realizeAll (linkAll known)).returned =
      arguments'.map (realizeAll (linkAll known')).returned) (hbase : t < firstLoaded)
    (place place' : TypeId) : (standard.viewOf Standard.object place t arguments).Alike
      (realizeAll (linkAll known)) (realizeAll (linkAll known')) (SharesRole known known')
      (standard.viewOf Standard.object place' t arguments') := by
  refine alike_view h h' hsame hbase ?_ [] []
  rw [List.forall₂_map_left_iff, List.forall₂_map_right_iff, List.forall₂_same]
  intro m hm
  have hmember := List.mem_append_right (standard.get t).constructors hm
  have halike := alike_standard h.founded h'.founded hmember
  have hlt := fun r hr => lt_of_mem_mentions_standard (r := r) hmember hr
  simp only [Member.mentions, List.mem_append, Option.mem_toList] at hlt
  have hsubstitute := fun r hr =>
    returned_substitute (t := r) h.founded h'.founded (standard.get t).typeParameters hreturned
      (hlt r hr)
  refine ⟨rfl, rfl, ?_, halike.exceptions, ?_⟩
  · rw [List.map_map, List.map_map]
    exact List.map_congr_left fun r hr => congrArg Prod.fst (hsubstitute r (Or.inl (Or.inl hr)))
  · rw [Option.map_map, Option.map_map]
    exact Option.map_congr fun r hr => hsubstitute r (Or.inr hr)

/-- What a reference to a supertype has added says the same. -/
theorem alike_added {r : SupertypeReference} (hadded : ¬ r.IsPlain)
    (hcovers : ∀ target ∈ r.targets, (layoutOf known).Covers target)
    (ht : SupertypeAt (layoutOf known) (realizeAll (linkAll known)) r t)
    (ht' : SupertypeAt (layoutOf known') (realizeAll (linkAll known')) r t') :
    ((realizeAll (linkAll known)).get t).Alike (realizeAll (linkAll known))
      (realizeAll (linkAll known')) (SharesRole known known')
      ((realizeAll (linkAll known')).get t') := by
  have hcovers' : ∀ a ∈ r.base :: r.arguments, (layoutOf known).Covers a.target :=
    fun a ha => hcovers _ (List.mem_map_of_mem ha)
  rw [List.forall_mem_cons] at hcovers'
  obtain ⟨base, arguments, hbase, harguments, hseen⟩ := ht
  obtain ⟨base', arguments', hbase', harguments', hseen'⟩ := ht'
  have hcanonical := (hbase.canonical_eq h.founded hcovers'.1).trans
    (hbase'.canonical_eq h'.founded (hsame.covers hcovers'.1)).symm
  cases hdimensions : r.base.dimensions with
  | succ dimensions =>
      -- an array is seen as it is
      rw [ReferenceAt, hdimensions] at hbase hbase'
      obtain rfl := hseen.eq_of_le (ArrayOver.firstLoaded_le h.founded hbase)
      obtain rfl := hseen'.eq_of_le (ArrayOver.firstLoaded_le h'.founded hbase')
      obtain - | ⟨-, hkind, -⟩ := hbase
      obtain - | ⟨-, hkind', -⟩ := hbase'
      exact alike_array h h' hsame hkind hkind' hcanonical
  | zero =>
      rw [ReferenceAt, hdimensions] at hbase hbase'
      obtain - | - := hbase
      obtain - | - := hbase'
      -- what is no plain reference to a type is seen with arguments
      rw [isPlain_iff (layoutOf known) hdimensions harguments.length_eq.symm,
        Bool.not_eq_false] at hadded
      have hplace := lt_of_takesArguments hadded
      have hreturned : arguments.map (realizeAll (linkAll known)).returned =
          r.arguments.map Reference.returned :=
        map_eq_map_of_forall₂ (forall₂_imp_of_mem harguments fun a ha _ hat =>
          hat.returned_eq h.founded (nonePrimitive_realizeAll h) (hcovers'.2 a ha))
      have hreturned' : arguments'.map (realizeAll (linkAll known')).returned =
          r.arguments.map Reference.returned :=
        map_eq_map_of_forall₂ (forall₂_imp_of_mem harguments' fun a ha _ hat =>
          hat.returned_eq h'.founded (nonePrimitive_realizeAll h') (hsame.covers (hcovers'.2 a ha)))
      cases htarget : r.base.target with
      | standard place =>
          rw [htarget] at hadded hplace hseen hseen'
          have hadded' : standard.takesArguments ((layoutOf known').place (.standard place))
              arguments' = true := by
            rw [takesArguments_iff] at hadded ⊢
            exact ⟨hadded.1, (harguments'.length_eq.symm.trans harguments.length_eq).trans hadded.2⟩
          rw [SeenAs, if_pos hadded] at hseen
          rw [SeenAs, if_pos hadded'] at hseen'
          rw [hseen, hseen']
          exact alike_viewOf h h' hsame (hreturned.trans hreturned'.symm) hplace t t'
      | declared c =>
          rw [htarget] at hplace
          exact absurd hplace (Nat.not_lt.2 (Nat.le_add_right _ _))
      | outside c =>
          rw [htarget] at hplace
          exact absurd hplace
            (Nat.not_lt.2 ((Nat.le_add_right _ _).trans (Nat.le_add_right _ _)))

/-- Places with a role in common say the same. -/
theorem alike_of_sharesRole (ht : SharesRole known known' t t') :
    ((realizeAll (linkAll known)).get t).Alike (realizeAll (linkAll known))
      (realizeAll (linkAll known')) (SharesRole known known')
      ((realizeAll (linkAll known')).get t') := by
  obtain ⟨role, hrole, hrole'⟩ := ht
  -- targets are told apart by where they come from, and what was added by the reference to it
  cases role with
  | target target =>
      obtain ⟨hcovers, rfl⟩ := hrole
      obtain ⟨hcovers', rfl⟩ := hrole'
      cases target with
      | standard place =>
          simp only [Layout.place]
          rw [h.founded.standard place hcovers, h'.founded.standard place hcovers]
          refine alike_view h h' hsame hcovers (List.forall₂_same.2 fun m hm => ?_) _ _
          exact alike_standard h.founded h'.founded (List.mem_append_right _ hm)
      | declared c =>
          have hc : c ∈ (layoutOf known).loaded := hcovers
          rw [loaded_layoutOf, List.mem_map] at hc
          obtain ⟨d, hd, rfl⟩ := hc
          obtain ⟨d', hd', heq⟩ := hsame.exists_mem hd
          have halike := alike_loaded h h' hsame hd hd' heq
          obtain ⟨origin, rfl⟩ := exists_origin heq
          exact halike
      | outside c =>
          rw [h.founded.outside c hcovers, h'.founded.outside c hcovers']
          exact ⟨rfl, rfl, rfl, rfl, rfl, Option.Rel.none, List.Forall₂.nil, List.Forall₂.nil,
            List.Forall₂.nil⟩
  | supertype owner index =>
      obtain ⟨hsize, d, hd, rfl, hget⟩ := hrole
      obtain ⟨-, d', hd', hcanonical, hget'⟩ := hrole'
      -- the owners are the same type, as canonical names are different
      have heq : d'.withoutOrigin = d.withoutOrigin := by
        obtain ⟨e, he, heq⟩ := hsame.exists_mem hd
        have hname : e.canonical = d'.canonical :=
          (congrArg Declared.canonical heq).trans hcanonical.symm
        rwa [← List.inj_on_of_nodup_map h'.nodup he hd' hname]
      rw [← hcanonical] at hget'
      obtain ⟨low, high, -, -, hallots⟩ := allots_loadedPlace h hd
      obtain ⟨r, hr, ⟨-, hcovers, rfl⟩ | ⟨hadded, -, -⟩⟩ := hallots.getElem? hget
      · exact absurd hsize (not_size_le_of_covers hcovers)
      · have hsupertypes := (realizes_loadedPlace h hd).supertypes
        have hsupertypes' := (realizes_loadedPlace h' hd').supertypes
        rw [← hsame.isTaken_eq, link_eq_of_withoutOrigin _ heq] at hsupertypes'
        have hplaced := placed_linkAll h _ (List.mem_map_of_mem hd)
        have hmem := List.mem_of_getElem? hr
        refine alike_added h h' hsame hadded (fun target htarget => ?_)
          (rel_of_getElem? hsupertypes hr hget) (rel_of_getElem? hsupertypes' hr hget')
        exact hplaced.targets target
          (List.mem_append_left _ (List.mem_flatMap.2 ⟨r, hmem, htarget⟩))

omit hsame in
theorem biUnique_sharesRole : Relator.BiUnique (SharesRole known known') := by
  constructor
  · rintro s s' t ⟨role, hs, ht⟩ ⟨role', hs', ht'⟩
    obtain rfl := ht.role_eq h' ht'
    exact hs.place_eq hs'
  · rintro s t t' ⟨role, hs, ht⟩ ⟨role', hs', ht'⟩
    obtain rfl := hs.role_eq h hs'
    exact ht.place_eq ht'

/-- The universes of the same types correspond by the roles of their places. -/
theorem corresponds_realizeAll : (realizeAll (linkAll known)).Corresponds
    (realizeAll (linkAll known')) (SharesRole known known') where
  biUnique := biUnique_sharesRole h h'
  inside _ _ := fun ⟨_, ht, ht'⟩ => ⟨ht.lt_size h, ht'.lt_size h'⟩
  alike _ _ := alike_of_sharesRole h h' hsame

end

end Load

end Skeletal
