import Mathlib.Data.List.Find
import Skeletal.Proofs.Load.Results
import Skeletal.Proofs.Universe.SameLineage

/-!
# Types around an implemented type

Synthesis reads the modifiers of a type and of the superclasses above it, and of no other type
(`Settings.synthesize_congr`): lineage, obligations and stubs are made of names, kinds and members.
So no class of the chain of an implemented type is private, but a type around it may be: that the
types around it are open is left to those outside its chain
(`Universe.openAround_iff_of_synthesize`).
-/

set_option autoImplicit false

namespace Skeletal

namespace Universe

variable {u v : Universe} {t : TypeId}

/-! ## Universes of other modifiers -/

/-- The universes hold the same types but for the modifiers. -/
structure SameButModifiers (u v : Universe) : Prop where
  size : v.size = u.size
  get : ∀ t, ∃ modifiers, v.get t = { u.get t with modifiers }

namespace SameButModifiers

/-- What does not speak of modifiers is the same. -/
theorem same {α : Type} (h : u.SameButModifiers v) (f : Descriptor → α)
    (hf : ∀ d modifiers, f { d with modifiers } = f d) (t : TypeId) :
    f (v.get t) = f (u.get t) := by
  obtain ⟨modifiers, hget⟩ := h.get t
  rw [hget, hf]

variable (h : u.SameButModifiers v)

include h

theorem canonical : v.canonical = u.canonical :=
  funext (h.same Descriptor.canonical fun _ _ => rfl)

theorem lineage : u.SameLineage v where
  size := h.size
  canonical := h.canonical
  superclass := h.same Descriptor.superclass fun _ _ => rfl
  interfaces := h.same Descriptor.interfaces fun _ _ => rfl

/-! ## Obligations -/

theorem publicMethods : v.publicMethods = u.publicMethods := by
  have hfrom : ∀ t, v.publicMethodsFrom t = u.publicMethodsFrom t := by
    intro t
    funext s
    rw [publicMethodsFrom, publicMethodsFrom, h.same Descriptor.methods fun _ _ => rfl,
      h.same Descriptor.isInterface fun _ _ => rfl]
  funext t
  rw [Universe.publicMethods, Universe.publicMethods, h.lineage.firstOfSignature,
    h.lineage.supertypes, hfrom]

theorem hiddenObligations (settled : List Signature) (levels : List TypeId) :
    v.hiddenObligations settled levels = u.hiddenObligations settled levels :=
  hiddenObligations_of_sameMethods h.canonical (h.same Descriptor.methods fun _ _ => rfl) settled
    levels

theorem obligations : v.obligations = u.obligations := by
  funext t
  simp only [Universe.obligations, publicObligations, h.publicMethods, h.lineage.signature,
    h.lineage.ancestors, h.hiddenObligations]

/-! ## Stubs -/

theorem methodStub? : v.methodStub? = u.methodStub? := by
  funext m
  simp only [Universe.methodStub?, methodStub, h.canonical,
    h.same Descriptor.defaultValue fun _ _ => rfl]

theorem constructorStubs (className : String) (t : TypeId) :
    v.constructorStubs className t = u.constructorStubs className t := by
  have hstub : v.constructorStub className = u.constructorStub className := by
    funext m
    simp only [constructorStub, h.canonical]
  simp only [Universe.constructorStubs, h.same Descriptor.isInterface fun _ _ => rfl,
    h.same Descriptor.constructors fun _ _ => rfl, h.same Descriptor.canonical fun _ _ => rfl,
    hstub]

/-! ## Checks -/

theorem checkMembersKnown : v.checkMembersKnown t = u.checkMembersKnown t := by
  have hunknown : (fun s => (v.get s).membersUnknown) = fun s => (u.get s).membersUnknown :=
    funext (h.same Descriptor.membersUnknown fun _ _ => rfl)
  simp only [Universe.checkMembersKnown, h.lineage.supertypes, h.canonical, hunknown]

/-- The search for a private class looks at the chain alone. -/
theorem checkOpenChain (hchain : ∀ l ∈ u.ancestors t, v.get l = u.get l) :
    v.checkOpenChain t = u.checkOpenChain t := by
  have hfind : (u.ancestors t).find? (fun level => (v.get level).isPrivate) =
      (u.ancestors t).find? fun level => (u.get level).isPrivate :=
    List.find?_congr fun l hl => by rw [hchain l hl]
  rw [Universe.checkOpenChain, Universe.checkOpenChain, h.lineage.ancestors, h.canonical, hfind]

end SameButModifiers

end Universe

variable {s : Settings} {u v : Universe} {t : TypeId} {text : String}

/-- Synthesis does not see the modifiers of types outside the chain of superclasses. -/
theorem Settings.synthesize_congr (s : Settings) (h : u.SameButModifiers v)
    (hchain : ∀ l ∈ u.ancestors t, v.get l = u.get l) : s.synthesize v t = s.synthesize u t := by
  have hself := hchain t (Universe.self_mem_ancestors u t)
  -- the gate reads the modifiers of the type, and both chain checks those of the chain
  have hgate : v.checkImplementable t = u.checkImplementable t := by
    rw [Universe.checkImplementable, Universe.checkImplementable, hself, h.canonical]
  have hancestors : v.checkAncestors t = u.checkAncestors t := by
    rw [Universe.checkAncestors, Universe.checkAncestors, h.checkOpenChain hchain,
      h.checkMembersKnown]
  have hmethods : v.abstractMethods t = u.abstractMethods t := by
    rw [Universe.abstractMethods, Universe.abstractMethods, h.checkOpenChain hchain,
      h.checkMembersKnown, h.obligations]
  rw [synthesize, synthesize, hgate, hancestors, hmethods, h.methodStub?, hself,
    h.constructorStubs]

/-! ## Enclosing types -/

namespace Universe

/-- `e` is declared around `t`, at any depth. -/
def Encloses (u : Universe) (e t : TypeId) : Prop :=
  Relation.TransGen (fun inner outer => (u.get inner).enclosing = some outer) t e

/-- Neither the type nor any type around it is private. -/
def OpenAround (u : Universe) (t : TypeId) : Prop :=
  (u.get t).isPrivate = false ∧ ∀ e, u.Encloses e t → (u.get e).isPrivate = false

/-- No type is private. -/
def nonePrivate (u : Universe) : Bool := u.types.toList.all fun d => !d.isPrivate

theorem isPrivate_get_of_nonePrivate (h : u.nonePrivate = true) (l : TypeId) :
    (u.get l).isPrivate = false := by
  rw [Universe.get, Array.getD_eq_getD_getElem?]
  cases hl : u.types[l]? with
  | none => rfl
  | some d =>
      obtain ⟨hlt, rfl⟩ := Array.getElem?_eq_some_iff.1 hl
      simpa using List.all_eq_true.1 h _ (Array.getElem_mem_toList hlt)

/-- What synthesis says of the types around a type that it implements. No class of its chain is
private, itself included. The types around it are open exactly if those are that are no superclasses
of it, and of these synthesis asks nothing: with any modifiers of types outside the chain the same
text is generated. -/
theorem openAround_iff_of_synthesize (h : s.synthesize u t = .ok text) :
    (∀ l ∈ u.ancestors t, (u.get l).isPrivate = false) ∧
      (u.OpenAround t ↔
        ∀ e, u.Encloses e t → e ∉ u.ancestors t → (u.get e).isPrivate = false) ∧
      ∀ v, u.SameButModifiers v → (∀ l ∈ u.ancestors t, v.get l = u.get l) →
        s.synthesize v t = .ok text := by
  obtain ⟨-, -, members, -, -, hmembers, -⟩ := Settings.synthesize_eq_ok_iff.1 h
  obtain ⟨-, hchain, -⟩ := abstractMethods_eq_ok_iff.1 hmembers
  refine ⟨hchain, ⟨fun hopen e he _ => hopen.2 e he, fun hopen => ⟨?_, ?_⟩⟩, ?_⟩
  · exact hchain t (Universe.self_mem_ancestors u t)
  · -- a type around it may be a superclass of it as well
    intro e he
    by_cases hmem : e ∈ u.ancestors t
    · exact hchain e hmem
    · exact hopen e he hmem
  · intro v hsame hkept
    exact (s.synthesize_congr hsame hkept).trans h

end Universe

namespace Registry

/-- A class nested in a class with a modifier, nested in turn. -/
def hiddenUnits (modifier : String) : List SourceUnit :=
  [{ code := "package p; public class Outer \x7b " ++ modifier ++
      " static class Hidden \x7b public static class Shown \x7b \x7d \x7d \x7d" }]

/-- A type that passes all stages of synthesis. -/
theorem exists_synthesize {strict : Bool} {units : List SourceUnit} {name : String}
    {test : TypeId → Universe → Bool}
    (h : resolvesTo strict units name (fun t u => s.generatesPlain u t && test t u) = true) :
    ∃ r t u text, load strict units = .ok r ∧ r.resolve name = .ok (t, u) ∧
      s.synthesize u t = .ok text ∧ test t u = true := by
  obtain ⟨r, t, u, hload, hresolve, hpass⟩ := exists_of_resolvesTo h
  obtain ⟨hplain, htest⟩ := Bool.and_eq_true_iff.1 hpass
  obtain ⟨source, hsource⟩ := Settings.exists_generateSource
    (hasResults_of_offers hload (Or.inr ⟨name, hresolve⟩)) hplain
  rw [Settings.generateSource] at hsource
  cases htext : s.synthesize u t with
  | error e =>
      rw [htext] at hsource
      cases hsource
  | ok text => exact ⟨r, t, u, text, hload, hresolve, htext, htest⟩

/-- A class in a public class is implemented, and all around it is open. The class around it is no
superclass of it. -/
theorem openAround_hiddenUnits : ∃ r t u text, load true (hiddenUnits "public") = .ok r ∧
    r.resolve "p.Outer.Hidden.Shown" = .ok (t, u) ∧ ({} : Settings).synthesize u t = .ok text ∧
      (∃ e, u.Encloses e t ∧ e ∉ u.ancestors t) ∧
      (∀ l ∈ u.ancestors t, (u.get l).isPrivate = false) ∧ u.OpenAround t ∧
      ∀ v, u.SameButModifiers v → (∀ l ∈ u.ancestors t, v.get l = u.get l) →
        ({} : Settings).synthesize v t = .ok text := by
  have hpasses : resolvesTo true (hiddenUnits "public") "p.Outer.Hidden.Shown"
      (fun t u => ({} : Settings).generatesPlain u t && (u.nonePrivate &&
        (u.get t).enclosing.any fun e => e ∉ u.ancestors t)) = true := by
    decide +kernel
  obtain ⟨r, t, u, text, hload, hresolve, htext, htest⟩ := exists_synthesize hpasses
  obtain ⟨hnone, haround⟩ := Bool.and_eq_true_iff.1 htest
  obtain ⟨e, he, hoff⟩ := (Option.any_eq_true _ _).1 haround
  obtain ⟨hchain, hopen, hsame⟩ := Universe.openAround_iff_of_synthesize htext
  exact ⟨r, t, u, text, hload, hresolve, htext,
    ⟨e, Relation.TransGen.single he, of_decide_eq_true hoff⟩, hchain,
    hopen.2 fun e _ _ => Universe.isPrivate_get_of_nonePrivate hnone e, hsame⟩

/-- A class in a private class is implemented. -/
theorem not_openAround_hiddenUnits : ∃ r t u text, load true (hiddenUnits "private") = .ok r ∧
    r.resolve "p.Outer.Hidden.Shown" = .ok (t, u) ∧ ({} : Settings).synthesize u t = .ok text ∧
      ¬ u.OpenAround t := by
  have hpasses : resolvesTo true (hiddenUnits "private") "p.Outer.Hidden.Shown"
      (fun t u => ({} : Settings).generatesPlain u t &&
        (u.get t).enclosing.any fun e => (u.get e).isPrivate) = true := by
    decide +kernel
  obtain ⟨r, t, u, text, hload, hresolve, htext, hprivate⟩ := exists_synthesize hpasses
  refine ⟨r, t, u, text, hload, hresolve, htext, fun hopen => ?_⟩
  cases he : (u.get t).enclosing with
  | none =>
      rw [he] at hprivate
      cases hprivate
  | some e =>
      rw [he, Option.any_some, hopen.2 e (Relation.TransGen.single he)] at hprivate
      cases hprivate

end Registry

end Skeletal
