import Skeletal.Proofs.Synthesis.Obligation

/-!
# Outcomes of synthesis

A type passes four stages before its implementation is generated: the gate, the search of its
superclass chain for private classes, the search of its supertypes for unknown members, and the
search for a constructor. Each stage has a failure of its own, and the first stage that fails
decides (`synthesize_outcome`). The abstract methods are collected behind the second and the third
stage. They repeat these two searches in the opposite order, so that they fail on the same types,
though not always for the same reason.
-/

set_option autoImplicit false

namespace Skeletal

/-- A search that finds something finds it behind elements that do not qualify. -/
theorem find?_eq_some_iff_split {α : Type} {p : α → Bool} {l : List α} {a : α} :
    l.find? p = some a ↔
      ∃ before after, l = before ++ a :: after ∧ p a = true ∧ ∀ b ∈ before, p b = false := by
  rw [List.find?_eq_some_iff_append]
  constructor
  · rintro ⟨ha, before, after, hsplit, hbefore⟩
    exact ⟨before, after, hsplit, ha, fun b hb => by simpa using hbefore b hb⟩
  · rintro ⟨before, after, hsplit, ha, hbefore⟩
    exact ⟨ha, before, after, hsplit, fun b hb => by simpa using hbefore b hb⟩

/-! ## The stages -/

/-- Types that are refused for what they are. -/
def Descriptor.Refused (d : Descriptor) : Prop :=
  d.kind = .primitive ∨ d.kind = .array ∨ d.canonical = "java.lang.Enum" ∨ d.kind = .enumType ∨
    d.kind = .annotationType ∨ "final" ∈ d.modifiers ∨ "private" ∈ d.modifiers ∨
      (d.enclosing ≠ none ∧ d.kind = .classType ∧ "static" ∉ d.modifiers)

theorem Descriptor.exists_unsupportedReason?_iff {d : Descriptor} :
    (∃ reason, d.unsupportedReason? = some reason) ↔ d.Refused := by
  rw [← Option.isSome_iff_exists, unsupportedReason?, Option.isSome_map, List.find?_isSome]
  simp [refusals, Refused, isPrimitive, isArray, isFinal, isPrivate, isInner, enumRootName,
    Option.isSome_iff_ne_none, and_assoc]

namespace Universe

/-- `l` is the most derived private class of the superclass chain of `t`. -/
def FirstPrivate (u : Universe) (t l : TypeId) : Prop :=
  Relation.ReflTransGen u.Extends t l ∧ (u.get l).isPrivate = true ∧
    ∀ k, Relation.ReflTransGen u.Extends t k → Relation.TransGen u.Extends k l →
      (u.get k).isPrivate = false

/-- The superclass chain of `t` holds no private class. -/
def OpenChain (u : Universe) (t : TypeId) : Prop :=
  ∀ l, Relation.ReflTransGen u.Extends t l → (u.get l).isPrivate = false

/-- `s` is the first of the supertypes of `t` whose members are unknown. -/
def FirstUnknown (u : Universe) (t s : TypeId) : Prop :=
  ∃ before after, u.supertypes t = before ++ s :: after ∧ (u.get s).membersUnknown = true ∧
    ∀ c ∈ before, (u.get c).membersUnknown = false

/-- The members of all supertypes of `t` are known. -/
def KnownMembers (u : Universe) (t : TypeId) : Prop :=
  ∀ s ∈ u.supertypes t, (u.get s).membersUnknown = false

/-- `t` is a class none of whose constructors a subclass can call. -/
def ConstructorsClosed (u : Universe) (t : TypeId) : Prop :=
  (u.get t).isInterface = false ∧ ∀ c ∈ (u.get t).constructors, c.isPrivate = true

/-- The methods that `t` declares or inherits have result types. -/
def ResultsGiven (u : Universe) (t : TypeId) : Prop :=
  ∀ s ∈ u.supertypes t, ∀ m ∈ (u.get s).methods, m.result ≠ none

variable {u : Universe} {t l s : TypeId} {m : Member} {members : List Member} {stubs : List Stub}
  {e : SynthesisError}

theorem checkImplementable_eq_ok_iff :
    u.checkImplementable t = .ok () ↔ ¬ (u.get t).Refused := by
  rw [checkImplementable, ← Descriptor.exists_unsupportedReason?_iff]
  cases h : (u.get t).unsupportedReason? with
  | none => simp
  | some reason => simp

theorem checkImplementable_eq_error_iff : u.checkImplementable t = .error e ↔
    ∃ reason, (u.get t).unsupportedReason? = some reason ∧
      e = .unsupported (u.canonical t) reason := by
  rw [checkImplementable]
  cases h : (u.get t).unsupportedReason? with
  | none => simp
  | some reason => simp [eq_comm]

theorem checkOpenChain_eq_ok_iff_openChain (hu : u.Acyclic) :
    u.checkOpenChain t = .ok () ↔ u.OpenChain t := by
  rw [checkOpenChain_eq_ok_iff, OpenChain]
  simp only [mem_ancestors_iff hu]

/-- The first private class along the chain is the most derived one. -/
theorem checkOpenChain_eq_error_iff (hu : u.Acyclic) : u.checkOpenChain t = .error e ↔
    ∃ l, u.FirstPrivate t l ∧ e = .privateAncestor (u.canonical t) (u.canonical l) := by
  have hfirst : ∀ l, (u.ancestors t).find? (fun level => (u.get level).isPrivate) = some l ↔
      u.FirstPrivate t l := by
    intro l
    rw [find?_eq_some_iff_split, FirstPrivate]
    constructor
    · rintro ⟨before, after, hsplit, hprivate, hbefore⟩
      refine ⟨(mem_ancestors_iff hu).1 (by simp [hsplit]), hprivate, ?_⟩
      intro k htk hkl
      exact hbefore k ((mem_before_iff_extends hu hsplit).2 ⟨(mem_ancestors_iff hu).2 htk, hkl⟩)
    · rintro ⟨htl, hprivate, hbelow⟩
      obtain ⟨before, after, hsplit⟩ := List.append_of_mem ((mem_ancestors_iff hu).2 htl)
      refine ⟨before, after, hsplit, hprivate, ?_⟩
      intro k hk
      obtain ⟨hmem, hkl⟩ := (mem_before_iff_extends hu hsplit).1 hk
      exact hbelow k ((mem_ancestors_iff hu).1 hmem) hkl
  simp only [← hfirst, checkOpenChain]
  cases (u.ancestors t).find? fun level => (u.get level).isPrivate with
  | none => simp
  | some l => simp [eq_comm]

theorem checkMembersKnown_eq_error_iff : u.checkMembersKnown t = .error e ↔
    ∃ s, u.FirstUnknown t s ∧ e = .unknownMembers (u.canonical t) (u.canonical s) := by
  have hfirst : ∀ s, (u.supertypes t).find? (fun s => (u.get s).membersUnknown) = some s ↔
      u.FirstUnknown t s := fun s => find?_eq_some_iff_split
  simp only [← hfirst, checkMembersKnown]
  cases (u.supertypes t).find? fun s => (u.get s).membersUnknown with
  | none => simp
  | some s => simp [eq_comm]

theorem constructorStubs_eq_error_iff (className : String) :
    u.constructorStubs className t = .error e ↔
      u.ConstructorsClosed t ∧ e = .noAccessibleConstructor (u.canonical t) := by
  have hnone : (u.get t).constructors.filter (fun m => !m.isPrivate) = [] ↔
      ∀ c ∈ (u.get t).constructors, c.isPrivate = true := by
    simp [List.filter_eq_nil_iff]
  rw [constructorStubs, ConstructorsClosed, ← hnone]
  by_cases hi : (u.get t).isInterface = true
  · simp [hi]
  · rw [if_neg hi]
    cases (u.get t).constructors.filter fun m => !m.isPrivate with
    | nil => simp [hi, canonical, eq_comm]
    | cons c rest => simp

/-! ## Stubs of the obligations -/

theorem methodStub?_eq_ok_iff {stub : Stub} : u.methodStub? m = .ok stub ↔
    ∃ r, m.result = some r ∧ u.methodStub m r = stub := by
  rw [methodStub?]
  cases m.result <;> simp

/-- Where results are given, all obligations have stubs. -/
theorem exists_mapM_methodStub? (hgiven : u.ResultsGiven t) :
    ∃ stubs, (u.obligations t).mapM u.methodStub? = .ok stubs := by
  have hresults : ∀ m ∈ u.obligations t, ∃ stub, u.methodStub? m = .ok stub := by
    intro m hm
    obtain ⟨s, hs, hmem⟩ := exists_mem_supertypes_of_mem_obligations hm
    obtain ⟨r, hr⟩ := Option.ne_none_iff_exists'.1 (hgiven s hs m hmem)
    exact ⟨u.methodStub m r, methodStub?_eq_ok_iff.2 ⟨r, hr, rfl⟩⟩
  simp only [mapM_eq_ok_iff]
  -- that the members are obligations is not used any more
  generalize u.obligations t = members at hresults
  induction members with
  | nil => exact ⟨[], .nil⟩
  | cons m rest ih =>
      obtain ⟨stub, hm⟩ := hresults m List.mem_cons_self
      obtain ⟨stubs, hrest⟩ := ih fun o ho => hresults o (List.mem_cons_of_mem m ho)
      exact ⟨stub :: stubs, .cons hm hrest⟩

/-- The searches behind the abstract methods fail where those of the ancestors do. -/
theorem exists_abstractMethods_eq_error_iff :
    (∃ e, u.abstractMethods t = .error e) ↔ ∃ e, u.checkAncestors t = .error e := by
  rw [abstractMethods, checkAncestors]
  cases u.checkOpenChain t <;> cases u.checkMembersKnown t <;>
    simp [bind, Except.bind, pure, Except.pure]

theorem abstractMethods_of_checkAncestors (h : u.checkAncestors t = .ok ()) :
    u.abstractMethods t = .ok (u.obligations t) := by
  -- the same two checks, the other way round
  obtain ⟨hopen, hknown⟩ := check_eq_ok_iff.1 h
  exact check_eq_ok_iff.2 ⟨hknown, check_eq_ok_iff.2 ⟨hopen, rfl⟩⟩

end Universe

/-! ## The outcome -/

open Universe

variable {settings : Settings} {u : Universe} {t : TypeId} {e : SynthesisError}

/-- Where the obligations have stubs, four stages are left. -/
theorem Settings.synthesize_eq_stages {stubs : List Stub}
    (hstubs : (u.obligations t).mapM u.methodStub? = .ok stubs) :
    settings.synthesize u t = (do
      u.checkImplementable t
      u.checkOpenChain t
      u.checkMembersKnown t
      let constructors ← u.constructorStubs (settings.className (u.get t)) t
      return settings.assemble (u.get t) (constructors.map Stub.text) (stubs.map Stub.text)) := by
  rw [synthesize, checkAncestors, abstractMethods]
  cases u.checkImplementable t with
  | error e => rfl
  | ok _ =>
      cases u.checkOpenChain t with
      | error e => rfl
      | ok _ =>
          cases u.checkMembersKnown t with
          | error e => rfl
          | ok _ =>
              -- collecting the methods makes both checks again, and both pass
              simp only [bind, Except.bind, pure, Except.pure] at hstubs ⊢
              rw [hstubs]

/-- A text is written where all stages are passed. -/
theorem Settings.exists_synthesize_iff (hu : u.Acyclic) (hgiven : u.ResultsGiven t) :
    (∃ text, settings.synthesize u t = .ok text) ↔
      ¬ (u.get t).Refused ∧ u.OpenChain t ∧ u.KnownMembers t ∧ ¬ u.ConstructorsClosed t := by
  obtain ⟨stubs, hstubs⟩ := exists_mapM_methodStub? hgiven
  have hconstructors : (∃ constructors,
        u.constructorStubs (settings.className (u.get t)) t = .ok constructors) ↔
      ¬ u.ConstructorsClosed t := by
    have herror (e : SynthesisError) :=
      constructorStubs_eq_error_iff (u := u) (t := t) (e := e) (settings.className (u.get t))
    cases h : u.constructorStubs (settings.className (u.get t)) t with
    | error e => simpa using ((herror e).1 h).1
    | ok constructors =>
        refine iff_of_true ⟨constructors, rfl⟩ fun hclosed => ?_
        have hfail := (herror _).2 ⟨hclosed, rfl⟩
        exact absurd (h.symm.trans hfail) nofun
  rw [← checkImplementable_eq_ok_iff, ← checkOpenChain_eq_ok_iff_openChain hu, KnownMembers,
    ← checkMembersKnown_eq_ok_iff, ← hconstructors]
  simp only [synthesize_eq_stages hstubs]
  constructor
  · rintro ⟨text, h⟩
    rw [check_eq_ok_iff, check_eq_ok_iff, check_eq_ok_iff, bind_eq_ok_iff] at h
    obtain ⟨hgate, hopen, hknown, constructors, h, -⟩ := h
    exact ⟨hgate, hopen, hknown, constructors, h⟩
  · rintro ⟨hgate, hopen, hknown, constructors, h⟩
    rw [hgate, hopen, hknown, h]
    exact ⟨_, rfl⟩

/-- The first stage that is not passed gives the failure. -/
theorem Settings.synthesize_eq_error_iff (hu : u.Acyclic) (hgiven : u.ResultsGiven t) :
    settings.synthesize u t = .error e ↔
      (∃ reason, (u.get t).unsupportedReason? = some reason ∧
        e = .unsupported (u.canonical t) reason) ∨
      ¬ (u.get t).Refused ∧
        ((∃ l, u.FirstPrivate t l ∧ e = .privateAncestor (u.canonical t) (u.canonical l)) ∨
        u.OpenChain t ∧
          ((∃ s, u.FirstUnknown t s ∧ e = .unknownMembers (u.canonical t) (u.canonical s)) ∨
          u.KnownMembers t ∧ u.ConstructorsClosed t ∧
            e = .noAccessibleConstructor (u.canonical t))) := by
  obtain ⟨stubs, hstubs⟩ := exists_mapM_methodStub? hgiven
  -- writing the text cannot fail any more
  have hlast : ∀ {x : Except SynthesisError (List Stub)} {f : List Stub → String},
      (do let constructors ← x; return f constructors) = .error e ↔ x = .error e := by
    intro x f
    rw [bind_eq_error_iff]
    exact or_iff_left fun ⟨_, _, h⟩ => nomatch h
  rw [synthesize_eq_stages hstubs, check_eq_error_iff, check_eq_error_iff, check_eq_error_iff,
    hlast, checkImplementable_eq_error_iff, checkImplementable_eq_ok_iff,
    checkOpenChain_eq_error_iff hu, checkOpenChain_eq_ok_iff_openChain hu,
    checkMembersKnown_eq_error_iff, checkMembersKnown_eq_ok_iff, constructorStubs_eq_error_iff]
  rfl

/-- What synthesis of a type comes to, by the first stage that the type does not pass. -/
structure Settings.Outcome (settings : Settings) (u : Universe) (t : TypeId) : Prop where
  refused : (∃ reason, settings.synthesize u t = .error (.unsupported (u.canonical t) reason)) ↔
    (u.get t).Refused
  privateAncestor : ∀ name,
    settings.synthesize u t = .error (.privateAncestor (u.canonical t) name) ↔
      ¬ (u.get t).Refused ∧ ∃ l, u.FirstPrivate t l ∧ u.canonical l = name
  unknownMembers : ∀ name,
    settings.synthesize u t = .error (.unknownMembers (u.canonical t) name) ↔
      ¬ (u.get t).Refused ∧ u.OpenChain t ∧ ∃ s, u.FirstUnknown t s ∧ u.canonical s = name
  noConstructor : settings.synthesize u t = .error (.noAccessibleConstructor (u.canonical t)) ↔
    ¬ (u.get t).Refused ∧ u.OpenChain t ∧ u.KnownMembers t ∧ u.ConstructorsClosed t
  text : (∃ text, settings.synthesize u t = .ok text) ↔
    ¬ (u.get t).Refused ∧ u.OpenChain t ∧ u.KnownMembers t ∧ ¬ u.ConstructorsClosed t

/-- Synthesis fails at the first stage that a type does not pass, and else gives a text. The
abstract methods fail to be collected exactly where the check of the ancestors fails. -/
theorem Settings.synthesize_outcome (settings : Settings) (u : Universe) (t : TypeId) :
    (u.Acyclic → u.ResultsGiven t → settings.Outcome u t) ∧
      ((∃ e, u.abstractMethods t = .error e) ↔ ∃ e, u.checkAncestors t = .error e) ∧
      (u.checkAncestors t = .ok () → u.abstractMethods t = .ok (u.obligations t)) := by
  refine ⟨fun hu hgiven => ?_, exists_abstractMethods_eq_error_iff,
    abstractMethods_of_checkAncestors⟩
  exact
    { refused := by
        simp [synthesize_eq_error_iff hu hgiven, ← Descriptor.exists_unsupportedReason?_iff]
      privateAncestor := fun name => by
        simp [synthesize_eq_error_iff hu hgiven, eq_comm]
      unknownMembers := fun name => by
        simp [synthesize_eq_error_iff hu hgiven, eq_comm]
      noConstructor := by
        simp [synthesize_eq_error_iff hu hgiven]
      text := exists_synthesize_iff hu hgiven }

/-- A class that extends a private class and implements an interface with unknown members. -/
def closedAbove : Universe :=
  ⟨#[{ name := "A", canonical := "p.A", modifiers := ["private"]
       constructors := [{ name := "A", kind := .constructor }] },
     { name := "I", canonical := "q.I", kind := .interfaceType, membersUnknown := true },
     { name := "B", canonical := "p.B", superclass := some 0, interfaces := [1]
       constructors := [{ name := "B", kind := .constructor }] }]⟩

/-- At `closedAbove` the two searches fail for different reasons, and synthesis for the reason of
the first. -/
theorem synthesize_outcome_closedAbove :
    closedAbove.Acyclic ∧ closedAbove.ResultsGiven 2 ∧ Settings.Outcome {} closedAbove 2 ∧
      closedAbove.checkAncestors 2 = .error (.privateAncestor "p.B" "p.A") ∧
      closedAbove.abstractMethods 2 = .error (.unknownMembers "p.B" "q.I") := by
  have hacyclic : closedAbove.Acyclic := acyclic_of_lt (by decide)
  have hsupertypes : closedAbove.supertypes 2 = [2, 0, 1] := by cbv
  have hgiven : closedAbove.ResultsGiven 2 := by
    rw [ResultsGiven, hsupertypes]
    decide
  obtain ⟨houtcome, -, -⟩ := Settings.synthesize_outcome {} closedAbove 2
  exact ⟨hacyclic, hgiven, houtcome hacyclic hgiven, by cbv, by cbv⟩

/-! ## Generated sources -/

/-- Synthesis refuses what the gate refuses, for the same reason. -/
theorem Settings.generateSource_of_refused {s : Settings}
    (h : u.checkImplementable t = .error e) : s.generateSource u t = .error e := by
  rw [generateSource, synthesize, h]
  rfl

theorem Settings.checkImplementable_of_generateSource {s : Settings} {source : String}
    (h : s.generateSource u t = .ok source) : u.checkImplementable t = .ok () := by
  cases hgate : u.checkImplementable t with
  | ok pass => rfl
  | error refusal => cases (generateSource_of_refused hgate).symm.trans h

end Skeletal
