import Mathlib.Data.List.Permutation
import Skeletal.Proofs.Attempt
import Skeletal.Proofs.Universe.Hierarchy
import Skeletal.Synthesis.ClassText

/-!
# Acceptance

What it takes for a type to be implemented: the gate lets it through, no class of its superclass
chain is private, the members of all its supertypes are known, its abstract methods have result
types, and a class has a constructor for its subclasses (`synthesize_eq_ok_iff`). The chain and the
supertypes decide alone whether the abstract methods are given (`abstractMethods_eq_ok_iff`).
-/

set_option autoImplicit false

namespace Skeletal

namespace Universe

variable {u : Universe} {t : TypeId} {members : List Member}

theorem checkMembersKnown_eq_ok_iff : u.checkMembersKnown t = .ok () ↔
    ∀ s ∈ u.supertypes t, (u.get s).membersUnknown = false := by
  rw [checkMembersKnown]
  cases h : (u.supertypes t).find? fun s => (u.get s).membersUnknown with
  | none => simpa using h
  | some s =>
      refine iff_of_false nofun ?_
      intro hall
      have hunknown : (u.get s).membersUnknown = true := by simpa using List.find?_some h
      exact Bool.false_ne_true ((hall s (List.mem_of_find?_eq_some h)).symm.trans hunknown)

theorem checkOpenChain_eq_ok_iff : u.checkOpenChain t = .ok () ↔
    ∀ l ∈ u.ancestors t, (u.get l).isPrivate = false := by
  rw [checkOpenChain]
  cases h : (u.ancestors t).find? fun l => (u.get l).isPrivate with
  | none => simpa using h
  | some l =>
      refine iff_of_false nofun ?_
      intro hall
      have hprivate : (u.get l).isPrivate = true := by simpa using List.find?_some h
      exact Bool.false_ne_true ((hall l (List.mem_of_find?_eq_some h)).symm.trans hprivate)

/-- The abstract methods are given where no supertype is unknown and no ancestor private. -/
theorem abstractMethods_eq_ok_iff : u.abstractMethods t = .ok members ↔
    (∀ s ∈ u.supertypes t, (u.get s).membersUnknown = false) ∧
      (∀ l ∈ u.ancestors t, (u.get l).isPrivate = false) ∧ members = u.obligations t := by
  rw [← checkMembersKnown_eq_ok_iff, ← checkOpenChain_eq_ok_iff, abstractMethods, bind_eq_ok_iff]
  constructor
  · rintro ⟨_, hknown, h⟩
    obtain ⟨_, hopen, h⟩ := bind_eq_ok_iff.1 h
    exact ⟨hknown, hopen, (Except.ok.inj h).symm⟩
  · rintro ⟨hknown, hopen, rfl⟩
    exact ⟨(), hknown, bind_eq_ok_iff.2 ⟨(), hopen, rfl⟩⟩

/-- Constructors are given for interfaces and where one of them is open to a subclass. -/
theorem constructorStubs_eq_ok {className : String} {stubs : List Stub}
    (h : u.constructorStubs className t = .ok stubs) :
    (u.get t).isInterface = true ∨ ∃ c ∈ (u.get t).constructors, c.isPrivate = false := by
  rw [constructorStubs] at h
  by_cases hi : (u.get t).isInterface = true
  · exact Or.inl hi
  · rw [if_neg hi] at h
    cases hopen : (u.get t).constructors.filter fun m => !m.isPrivate with
    | nil =>
        rw [hopen] at h
        exact absurd h nofun
    | cons c rest =>
        have hc : c ∈ (u.get t).constructors.filter fun m => !m.isPrivate :=
          hopen ▸ List.mem_cons_self
        obtain ⟨hmem, hprivate⟩ := List.mem_filter.1 hc
        exact Or.inr ⟨c, hmem, by simpa using hprivate⟩

end Universe

variable {settings : Settings} {u : Universe} {t : TypeId} {text : String}

/-- A type is accepted if the gate, the checks of its ancestors and the stubs all go through. -/
theorem Settings.synthesize_eq_ok_iff : settings.synthesize u t = .ok text ↔
    u.checkImplementable t = .ok () ∧ u.checkAncestors t = .ok () ∧
      ∃ members stubs constructors, u.abstractMethods t = .ok members ∧
        members.mapM u.methodStub? = .ok stubs ∧
        u.constructorStubs (settings.className (u.get t)) t = .ok constructors ∧
        settings.assemble (u.get t) (constructors.map Stub.text) (stubs.map Stub.text) = text := by
  rw [Settings.synthesize, bind_eq_ok_iff]
  constructor
  · rintro ⟨_, hgate, h⟩
    obtain ⟨_, hancestors, h⟩ := bind_eq_ok_iff.1 h
    obtain ⟨members, hmembers, h⟩ := bind_eq_ok_iff.1 h
    obtain ⟨stubs, hstubs, h⟩ := bind_eq_ok_iff.1 h
    obtain ⟨constructors, hconstructors, h⟩ := bind_eq_ok_iff.1 h
    exact ⟨hgate, hancestors, members, stubs, constructors, hmembers, hstubs, hconstructors,
      Except.ok.inj h⟩
  · rintro ⟨hgate, hancestors, members, stubs, constructors, hmembers, hstubs, hconstructors, rfl⟩
    refine ⟨(), hgate, bind_eq_ok_iff.2 ⟨(), hancestors, ?_⟩⟩
    refine bind_eq_ok_iff.2 ⟨members, hmembers, bind_eq_ok_iff.2 ⟨stubs, hstubs, ?_⟩⟩
    exact bind_eq_ok_iff.2 ⟨constructors, hconstructors, rfl⟩

namespace Universe

/-- Accepted types are interfaces or have constructors, so they stand in the universe. -/
theorem lt_size_of_synthesize (h : settings.synthesize u t = .ok text) : t < u.size := by
  obtain ⟨-, -, -, -, constructors, -, -, hconstructors, -⟩ := Settings.synthesize_eq_ok_iff.1 h
  -- behind the universe stands a class without constructors
  by_contra hle
  have hblank := get_of_size_le (Nat.le_of_not_lt hle)
  rcases constructorStubs_eq_ok hconstructors with hi | ⟨c, hc, -⟩
  · rw [hblank] at hi
    exact absurd hi (by decide)
  · rw [hblank] at hc
    exact absurd hc List.not_mem_nil

/-- The abstract methods of an accepted type are its obligations, and its chain and supertypes have
passed the checks. -/
theorem abstractMethods_of_synthesize (h : settings.synthesize u t = .ok text) :
    u.abstractMethods t = .ok (u.obligations t) := by
  obtain ⟨-, -, members, -, -, hmembers, -⟩ := Settings.synthesize_eq_ok_iff.1 h
  obtain ⟨-, -, rfl⟩ := abstractMethods_eq_ok_iff.1 hmembers
  exact hmembers

end Universe

end Skeletal
