import Skeletal.Proofs.Universe.Correspondence
import Skeletal.Synthesis.ClassText

/-!
# Sources of corresponding types

What is generated for a type hangs on what descriptors say alone. In corresponding universes the
stages of synthesis pass and fail alike, each with the same failure, obligations say the same, and
the generated sources of corresponding types are equal (`Corresponds.generateSource`).
-/

set_option autoImplicit false

namespace Skeletal

variable {u v : Universe} {R : TypeId → TypeId → Prop} {d e : Descriptor} {m n : Member}
  {t t' : TypeId}

/-- Elements that are computed alike are computed alike as a list. -/
theorem mapM_eq_of_forall₂ {ε α β γ : Type} {S : α → β → Prop} {f : α → Except ε γ}
    {g : β → Except ε γ} {l : List α} {l' : List β} (h : List.Forall₂ S l l')
    (hfg : ∀ a b, S a b → f a = g b) : l.mapM f = l'.mapM g := by
  induction h with
  | nil => rw [List.mapM_nil, List.mapM_nil]
  | cons hab _ ih => rw [List.mapM_cons, List.mapM_cons, hfg _ _ hab, ih]

/-! ## Descriptors and members -/

namespace Descriptor.Alike

variable (h : d.Alike u v R e)

include h

theorem unsupportedReason? : d.unsupportedReason? = e.unsupportedReason? := by
  simp only [Descriptor.unsupportedReason?, refusals, isPrimitive, isArray, isFinal,
    Descriptor.isPrivate, isInner, h.kind, h.canonical, h.modifiers, h.enclosing]

theorem assemble (hname : d.name = e.name) (hpackage : d.package = e.package) (s : Settings)
    (constructors methods : List String) :
    s.assemble d constructors methods = s.assemble e constructors methods := by
  rw [Settings.assemble, Settings.assemble, Settings.classHeader, Settings.classHeader,
    packageDeclaration, packageDeclaration, Settings.className, Settings.className, hname, hpackage,
    h.modifiers, h.isInterface, h.canonical]

end Descriptor.Alike

namespace Member.Alike

variable (h : m.Alike u v n)

include h

theorem stubModifiers : m.stubModifiers = n.stubModifiers := by
  rw [Member.stubModifiers, Member.stubModifiers, h.modifiers]

theorem length_parameters : m.parameters.length = n.parameters.length := by
  rw [← List.length_map (f := u.canonical), h.parameters, List.length_map]

/-- Members that say the same have the same stub, or neither has one. -/
theorem methodStub? : u.methodStub? m = v.methodStub? n := by
  rw [Universe.methodStub?, Universe.methodStub?]
  have hresult := h.result
  cases hm : m.result with
  | none =>
      rw [hm, Option.map_none, eq_comm, Option.map_eq_none_iff] at hresult
      rw [hresult, h.name]
  | some result =>
      rw [hm, Option.map_some, eq_comm, Option.map_eq_some_iff] at hresult
      obtain ⟨result', hn, hreturned⟩ := hresult
      obtain ⟨hcanonical, hvalue⟩ := Prod.mk.inj hreturned
      simp only [hn, Universe.methodStub, h.stubModifiers, h.length_parameters, h.name,
        h.parameters, h.exceptions, hcanonical, hvalue]

theorem constructorStub (className : String) :
    u.constructorStub className m = v.constructorStub className n := by
  simp only [Universe.constructorStub, h.stubModifiers, h.length_parameters, h.parameters,
    h.exceptions]

end Member.Alike

/-! ## Obligations -/

namespace Universe

namespace Corresponds

variable (h : u.Corresponds v R)

include h

theorem hiddenAt (settled : List Signature) (ht : R t t') :
    List.Forall₂ (Member.Alike u v) (u.hiddenAt settled t) (v.hiddenAt settled t') := by
  refine firstOfSignature (forall₂_filter (h.alike t t' ht).methods fun m n hmn => ?_)
  rw [hmn.isAbstract, hmn.isPublic, hmn.signature]

theorem implementedAt (ht : R t t') : u.implementedAt t = v.implementedAt t' := by
  have hmethods := forall₂_filter (p := fun m => !m.isAbstract) (q := fun m => !m.isAbstract)
    (h.alike t t' ht).methods fun m n hmn => by rw [hmn.isAbstract]
  exact map_eq_of_forall₂ hmethods fun m n hmn => hmn.signature

/-- Corresponding chains hide obligations that say the same. -/
theorem hiddenObligations {levels levels' : List TypeId} (hlevels : List.Forall₂ R levels levels')
    (settled : List Signature) : List.Forall₂ (Member.Alike u v)
      (u.hiddenObligations settled levels) (v.hiddenObligations settled levels') := by
  -- level by level: both chains settle the same signatures
  induction hlevels generalizing settled with
  | nil => exact List.Forall₂.nil
  | @cons level level' above above' hlevel _ ih =>
      have hfound := h.hiddenAt settled hlevel
      have hsettled : (u.hiddenAt settled level).map u.signature =
          (v.hiddenAt settled level').map v.signature :=
        map_eq_of_forall₂ hfound fun m n hmn => hmn.signature
      rw [Universe.hiddenObligations, Universe.hiddenObligations, hsettled, h.implementedAt hlevel]
      exact List.rel_append hfound (ih _)

variable (hu : u.Acyclic) (hv : v.Acyclic)

include hu hv

theorem obligations (ht : R t t') :
    List.Forall₂ (Member.Alike u v) (u.obligations t) (v.obligations t') := by
  have hexposed : List.Forall₂ (Member.Alike u v) (u.publicObligations t)
      (v.publicObligations t') :=
    forall₂_filter (h.publicMethods hu hv ht) fun m n hmn => hmn.isAbstract
  have hsettled : (u.publicObligations t).map u.signature =
      (v.publicObligations t').map v.signature :=
    map_eq_of_forall₂ hexposed fun m n hmn => hmn.signature
  rw [Universe.obligations, Universe.obligations, hsettled]
  exact List.rel_append hexposed (h.hiddenObligations (h.ancestors hu hv ht) _)

/-! ## Stages -/

omit hu hv in
theorem checkImplementable (ht : R t t') : u.checkImplementable t = v.checkImplementable t' := by
  rw [Universe.checkImplementable, Universe.checkImplementable,
    (h.alike t t' ht).unsupportedReason?, h.canonical ht]

theorem checkOpenChain (ht : R t t') : u.checkOpenChain t = v.checkOpenChain t' := by
  have hfound := rel_find? (p := fun level => (u.get level).isPrivate)
    (q := fun level => (v.get level).isPrivate) (h.ancestors hu hv ht)
    fun a b hab => (h.alike a b hab).isPrivate
  rw [Universe.checkOpenChain, Universe.checkOpenChain, h.canonical ht]
  generalize (u.ancestors t).find? _ = found, (v.ancestors t').find? _ = found' at hfound ⊢
  cases hfound with
  | none => rfl
  | some hab => simp only [h.canonical hab]

theorem checkMembersKnown (ht : R t t') : u.checkMembersKnown t = v.checkMembersKnown t' := by
  have hfound := rel_find? (p := fun s => (u.get s).membersUnknown)
    (q := fun s => (v.get s).membersUnknown) (h.supertypes hu hv ht)
    fun a b hab => (h.alike a b hab).membersUnknown
  rw [Universe.checkMembersKnown, Universe.checkMembersKnown, h.canonical ht]
  generalize (u.supertypes t).find? _ = found, (v.supertypes t').find? _ = found' at hfound ⊢
  cases hfound with
  | none => rfl
  | some hab => simp only [h.canonical hab]

theorem checkAncestors (ht : R t t') : u.checkAncestors t = v.checkAncestors t' := by
  rw [Universe.checkAncestors, Universe.checkAncestors, h.checkOpenChain hu hv ht,
    h.checkMembersKnown hu hv ht]

omit hu hv in
theorem constructorStubs (className : String) (ht : R t t') :
    u.constructorStubs className t = v.constructorStubs className t' := by
  have halike := h.alike t t' ht
  have haccessible := forall₂_filter (p := fun m => !m.isPrivate) (q := fun m => !m.isPrivate)
    halike.constructors fun m n hmn => by rw [hmn.isPrivate]
  simp only [Universe.constructorStubs, halike.isInterface, halike.canonical]
  generalize (u.get t).constructors.filter _ = accessible,
    (v.get t').constructors.filter _ = accessible' at haccessible ⊢
  split_ifs
  · rfl
  · cases haccessible with
    | nil => rfl
    | cons hmn hrest =>
        have hstubs := map_eq_of_forall₂ (List.Forall₂.cons hmn hrest) fun m n hmn =>
          hmn.constructorStub className
        exact congrArg Except.ok hstubs

/-- Corresponding types are refused alike, or they have the same source. -/
theorem generateSource (s : Settings) (ht : R t t') (hname : (u.get t).name = (v.get t').name)
    (hpackage : (u.get t).package = (v.get t').package) :
    s.generateSource u t = s.generateSource v t' := by
  have halike := h.alike t t' ht
  have hstubs := mapM_eq_of_forall₂ (h.obligations hu hv ht) fun m n hmn => hmn.methodStub?
  have hclass : s.className (u.get t) = s.className (v.get t') := by
    rw [Settings.className, Settings.className, hname]
  simp only [Settings.generateSource, Settings.synthesize, abstractMethods, h.checkImplementable ht,
    h.checkAncestors hu hv ht, h.checkOpenChain hu hv ht, h.checkMembersKnown hu hv ht,
    bind_assoc, pure_bind, hstubs, hclass, h.constructorStubs _ ht,
    halike.assemble hname hpackage s]

end Corresponds

end Universe

end Skeletal
