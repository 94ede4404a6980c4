import Mathlib.Data.List.Forall2
import Mathlib.Logic.Relator
import Skeletal.Proofs.Universe.Walks
import Skeletal.Synthesis.Stub

/-!
# Corresponding universes

Types of two universes may correspond although they stand at different places. `Corresponds` asks
for a one-to-one relation of places under which descriptors say the same, supertypes correspond in
their order, and members speak of types of the same names. Walks from corresponding types then meet
corresponding types, in the same order (`Corresponds.supertypes`), and list members that say the
same (`Corresponds.publicMethods`). Origins do not count.
-/

set_option autoImplicit false

namespace Skeletal

open Relator (BiUnique)

/-! ## Lists of related elements -/

section

variable {α β γ : Type} {R : α → β → Prop} {l : List α} {l' : List β}

/-- Related lists have the same values under functions that agree on related elements. -/
theorem map_eq_of_forall₂ {f : α → γ} {g : β → γ} (h : List.Forall₂ R l l')
    (hfg : ∀ a b, R a b → f a = g b) : l.map f = l'.map g := by
  induction h with
  | nil => rfl
  | cons hab _ ih => rw [List.map_cons, List.map_cons, hfg _ _ hab, ih]

/-- Related options have the same values under functions that agree on related elements. -/
theorem map_eq_of_rel {f : α → γ} {g : β → γ} {o : Option α} {o' : Option β} (h : Option.Rel R o o')
    (hfg : ∀ a b, R a b → f a = g b) : o.map f = o'.map g := by
  cases h with
  | none => rfl
  | some hab => rw [Option.map_some, Option.map_some, hfg _ _ hab]

/-- The first elements that pass a test are related, if related elements pass it alike. -/
theorem rel_find? {p : α → Bool} {q : β → Bool} (h : List.Forall₂ R l l')
    (hpq : ∀ a b, R a b → p a = q b) : Option.Rel R (l.find? p) (l'.find? q) := by
  induction h with
  | nil => exact Option.Rel.none
  | cons hab _ ih =>
      rw [List.find?_cons, List.find?_cons, hpq _ _ hab]
      split
      · exact Option.Rel.some hab
      · exact ih

theorem forall₂_filter {p : α → Bool} {q : β → Bool} (h : List.Forall₂ R l l')
    (hpq : ∀ a b, R a b → p a = q b) : List.Forall₂ R (l.filter p) (l'.filter q) :=
  List.rel_filter (fun a b hab => Bool.eq_iff_iff.1 (hpq a b hab)) h

theorem forall₂_flatMap {δ : Type} {S : γ → δ → Prop} {f : α → List γ} {g : β → List δ}
    (h : List.Forall₂ R l l') (hfg : ∀ a b, R a b → List.Forall₂ S (f a) (g b)) :
    List.Forall₂ S (l.flatMap f) (l'.flatMap g) :=
  List.rel_flatMap h (fun a b hab => hfg a b hab)

/-- Walks whose steps lead to related elements meet related elements. -/
theorem forall₂_breadthFirst [DecidableEq α] [DecidableEq β] (hR : BiUnique R) {known : List α}
    {known' : List β} {next : α → List α} {next' : β → List β}
    (hknown : ∀ a b, R a b → a ∈ known ∧ b ∈ known')
    (hnext : ∀ a b, R a b → List.Forall₂ R (next a) (next' b)) {seen queue : List α}
    {seen' queue' : List β} (hseen : List.Forall₂ R seen seen')
    (hqueue : List.Forall₂ R queue queue') :
    List.Forall₂ R (breadthFirst known next seen queue)
      (breadthFirst known' next' seen' queue') := by
  -- what was met on the one side was met on the other, as the relation is one-to-one
  fun_induction breadthFirst known next seen queue generalizing seen' queue' with
  | case1 seen =>
      obtain rfl := List.forall₂_nil_left_iff.1 hqueue
      rw [breadthFirst]
      exact List.Forall₂.nil
  | case2 seen a rest ha ih =>
      obtain ⟨b, rest', hab, hrest, rfl⟩ := List.forall₂_cons_left_iff.1 hqueue
      rw [breadthFirst, if_pos ((List.rel_mem hR hab hseen).1 ha)]
      exact ih hseen hrest
  | case3 seen a rest ha hmem ih =>
      obtain ⟨b, rest', hab, hrest, rfl⟩ := List.forall₂_cons_left_iff.1 hqueue
      rw [breadthFirst, if_neg fun hb => ha ((List.rel_mem hR hab hseen).2 hb),
        if_pos (hknown a b hab).2]
      exact List.Forall₂.cons hab
        (ih (List.Forall₂.cons hab hseen) (List.rel_append hrest (hnext a b hab)))
  | case4 seen a rest ha hmem ih =>
      obtain ⟨b, rest', hab, -, rfl⟩ := List.forall₂_cons_left_iff.1 hqueue
      exact absurd (hknown a b hab).1 hmem

end

/-! ## Descriptors that say the same -/

variable {u v : Universe} {R : TypeId → TypeId → Prop} {d e : Descriptor} {m n : Member}
  {s s' t t' : TypeId}

/-- Name and default value of the type at a place. -/
def Universe.returned (u : Universe) (t : TypeId) : String × String :=
  (u.canonical t, (u.get t).defaultValue)

/-- The members say the same: the types that they mention have the same names, and what they return
has the same default value. -/
structure Member.Alike (u v : Universe) (m n : Member) : Prop where
  name : m.name = n.name
  modifiers : m.modifiers = n.modifiers
  parameters : m.parameters.map u.canonical = n.parameters.map v.canonical
  exceptions : m.exceptions.map u.canonical = n.exceptions.map v.canonical
  result : m.result.map u.returned = n.result.map v.returned

/-- The descriptors say the same to a subclass: all but their simple names and their packages, which
go into the class that is generated for a type. -/
structure Descriptor.Alike (u v : Universe) (R : TypeId → TypeId → Prop) (d e : Descriptor) :
    Prop where
  canonical : d.canonical = e.canonical
  kind : d.kind = e.kind
  modifiers : d.modifiers = e.modifiers
  membersUnknown : d.membersUnknown = e.membersUnknown
  enclosing : d.enclosing.isSome = e.enclosing.isSome
  superclass : Option.Rel R d.superclass e.superclass
  interfaces : List.Forall₂ R d.interfaces e.interfaces
  constructors : List.Forall₂ (Member.Alike u v) d.constructors e.constructors
  methods : List.Forall₂ (Member.Alike u v) d.methods e.methods

/-- The universes correspond under a relation of places. -/
structure Universe.Corresponds (u v : Universe) (R : TypeId → TypeId → Prop) : Prop where
  biUnique : BiUnique R
  inside : ∀ t t', R t t' → t < u.size ∧ t' < v.size
  alike : ∀ t t', R t t' → (u.get t).Alike u v R (v.get t')

theorem Member.Alike.signature (h : m.Alike u v n) : u.signature m = v.signature n := by
  rw [Universe.signature, Universe.signature, h.name, h.parameters]

theorem Member.Alike.isAbstract (h : m.Alike u v n) : m.isAbstract = n.isAbstract := by
  rw [Member.isAbstract, Member.isAbstract, h.modifiers]

theorem Member.Alike.isPublic (h : m.Alike u v n) : m.isPublic = n.isPublic := by
  rw [Member.isPublic, Member.isPublic, h.modifiers]

theorem Member.Alike.isPrivate (h : m.Alike u v n) : m.isPrivate = n.isPrivate := by
  rw [Member.isPrivate, Member.isPrivate, h.modifiers]

theorem Member.Alike.isStatic (h : m.Alike u v n) : m.isStatic = n.isStatic := by
  rw [Member.isStatic, Member.isStatic, h.modifiers]

theorem Descriptor.Alike.isInterface (h : d.Alike u v R e) : d.isInterface = e.isInterface := by
  rw [Descriptor.isInterface, Descriptor.isInterface, h.kind]

theorem Descriptor.Alike.isPrivate (h : d.Alike u v R e) : d.isPrivate = e.isPrivate := by
  rw [Descriptor.isPrivate, Descriptor.isPrivate, h.modifiers]

/-! ## Walks -/

namespace Universe.Corresponds

variable (h : u.Corresponds v R)

include h

theorem canonical (ht : R t t') : u.canonical t = v.canonical t' := (h.alike t t' ht).canonical

theorem ancestorsRun (ht : R t t') {l l' : List TypeId} (hl : u.AncestorsRun t l)
    (hl' : v.AncestorsRun t' l') : List.Forall₂ R l l' := by
  -- along one run: the other one ends where it ends
  induction hl generalizing t' l' with
  | @root t hroot =>
      have hsuperclass := (h.alike t t' ht).superclass
      rw [hroot] at hsuperclass
      cases hl' with
      | root _ => exact List.Forall₂.cons ht List.Forall₂.nil
      | next habove _ =>
          rw [habove] at hsuperclass
          cases hsuperclass
  | @next t above rest habove _ ih =>
      have hsuperclass := (h.alike t t' ht).superclass
      rw [habove] at hsuperclass
      cases hl' with
      | root hroot =>
          rw [hroot] at hsuperclass
          cases hsuperclass
      | next habove' hrest' =>
          rw [habove'] at hsuperclass
          cases hsuperclass with
          | some hsame => exact List.Forall₂.cons ht (ih hsame hrest')

variable (hu : u.Acyclic) (hv : v.Acyclic)

include hu hv

/-- Corresponding types have corresponding ancestors. -/
theorem ancestors (ht : R t t') : List.Forall₂ R (u.ancestors t) (v.ancestors t') :=
  h.ancestorsRun ht (ancestorsRun_ancestors hu t) (ancestorsRun_ancestors hv t')

/-- Corresponding types have corresponding supertypes. -/
theorem supertypes (ht : R t t') : List.Forall₂ R (u.supertypes t) (v.supertypes t') := by
  have hclasses := h.ancestors hu hv ht
  have hinterfaces : ∀ a b, R a b → List.Forall₂ R (u.get a).interfaces (v.get b).interfaces :=
    fun a b hab => (h.alike a b hab).interfaces
  refine List.rel_append hclasses (forall₂_breadthFirst h.biUnique ?_ hinterfaces hclasses
    (forall₂_flatMap hclasses hinterfaces))
  intro a b hab
  rw [ids, ids, List.mem_range, List.mem_range]
  exact h.inside a b hab

omit hu hv in
theorem publicMethodsFrom (ht : R t t') (hs : R s s') : List.Forall₂ (Member.Alike u v)
    (u.publicMethodsFrom t s) (v.publicMethodsFrom t' s') := by
  -- static methods of an interface count for the interface alone
  have hsame : s = t ↔ s' = t' := Relator.rel_eq h.biUnique hs ht
  refine forall₂_filter (h.alike s s' hs).methods fun m n hmn => ?_
  rw [hmn.isPublic, hmn.isStatic, (h.alike s s' hs).isInterface, Bool.eq_iff_iff]
  simp [hsame]

omit h hu hv in
/-- Of members that say the same, the same ones come first. -/
theorem firstOfSignature {l l' : List Member} (hl : List.Forall₂ (Member.Alike u v) l l') :
    List.Forall₂ (Member.Alike u v) (u.firstOfSignature l) (v.firstOfSignature l') := by
  induction hl with
  | nil => exact List.Forall₂.nil
  | cons hmn _ ih =>
      refine List.Forall₂.cons hmn (forall₂_filter ih fun m' n' hmn' => ?_)
      rw [hmn'.signature, hmn.signature]

/-- Corresponding types have public methods that say the same. -/
theorem publicMethods (ht : R t t') : List.Forall₂ (Member.Alike u v) (u.publicMethods t)
    (v.publicMethods t') :=
  firstOfSignature (forall₂_flatMap (h.supertypes hu hv ht) fun _ _ hs =>
    h.publicMethodsFrom ht hs)

end Universe.Corresponds

end Skeletal
