import Skeletal.Proofs.Load.Offered
import Skeletal.Proofs.Load.Retained
import Skeletal.Proofs.Load.WellFormed

/-!
# Result types

All methods of a universe of loaded types have result types, those of arrays and views among them:
whatever is added while the types are realized has methods with result types or none, and the loaded
types are filled in with such methods (`hasResults_of_offers`). So generating the source of an
offered type does not fail for want of a result type (`Settings.generateSource_ne_noResultType`),
and that of a class without interfaces is given if the class passes the stages before
(`Settings.exists_generateSource`).
-/

set_option autoImplicit false

namespace Skeletal

/-- The methods of the descriptor have result types. -/
def Descriptor.HasResults (d : Descriptor) : Prop := ∀ m ∈ d.methods, m.result ≠ none

/-- All methods have result types. -/
def Universe.HasResults (u : Universe) : Prop := ∀ t, (u.get t).HasResults

variable {u : Universe} {d : Descriptor} {t : TypeId}

theorem Descriptor.hasResults_of_methods_eq_nil (h : d.methods = []) : d.HasResults := by
  intro m hm
  rw [h] at hm
  exact absurd hm List.not_mem_nil

theorem hasResults_standard : standard.HasResults := by
  have hall : ∀ t < standard.size, ∀ m ∈ (standard.get t).methods, m.result ≠ none := by
    decide +kernel
  exact Universe.forall_get hall (Descriptor.hasResults_of_methods_eq_nil rfl)

namespace Load

variable {layout : Layout} {known : List Declared}

/-- Arrays have no methods, and those of a view have results where those of the generic type have
some. -/
theorem derives_hasResults : Derives Descriptor.HasResults where
  array _ _ := Descriptor.hasResults_of_methods_eq_nil rfl
  view u place generic arguments h := by
    intro m hm
    obtain ⟨m', hm', rfl⟩ := List.mem_map.1 hm
    simpa using h m' hm'

/-- What a linked type is realized to has methods with result types. -/
theorem Realizes.hasResults {isLoaded : String → Bool} {d : Declared} {descriptor : Descriptor}
    (h : Realizes layout (link isLoaded d) descriptor u) : descriptor.HasResults := by
  intro m' hm'
  obtain ⟨m, hm, hmm'⟩ := exists_mem_of_forall₂ h.methods hm'
  obtain ⟨-, -, hresult, -⟩ := method_of_mem hm
  rw [← Option.isSome_iff_ne_none, isSome_eq_of_rel hmm'.result, hresult]

theorem hasResults_realizeAll (h : WellDeclared known) :
    (realizeAll (linkAll known)).HasResults :=
  all_realizeAll h derives_hasResults hasResults_standard
    (fun _ _ _ => Descriptor.hasResults_of_methods_eq_nil rfl)
    (fun _ => Descriptor.hasResults_of_methods_eq_nil rfl) fun _ _ _ _ hd => hd.hasResults

end Load

open Load

/-- In the universe of an offered type all methods have result types. -/
theorem Registry.hasResults_of_offers {strict : Bool} {units : List SourceUnit} {r : Registry}
    (h : load strict units = .ok r) (ht : r.Offers t u) : u.HasResults := by
  obtain ⟨known, skipped, hunits, rfl⟩ := exists_of_read (read_of_load h)
  have hworld := hasResults_realizeAll (wellDeclared_of_readUnits hunits)
  rcases ht with ⟨-, rfl⟩ | ⟨name, hresolve⟩
  · exact hworld
  · rcases cases_of_resolve hresolve with ⟨-, rfl⟩ | ⟨component, dimensions, -, harray⟩
    · exact hworld
    · have hkept := retains_arrayOf derives_hasResults component (dimensions + 1) _ hworld
      rwa [← show (arrayOf Standard.object component (dimensions + 1) _).2 = u from
        congrArg Prod.snd harray]

/-- Where all methods have result types, no source fails for want of one. -/
theorem Settings.generateSource_ne_noResultType (s : Settings) (hu : u.HasResults) (t : TypeId)
    (method : String) : s.generateSource u t ≠ .error (.noResultType method) := by
  obtain ⟨stubs, hstubs⟩ := Universe.exists_mapM_methodStub? (t := t) fun c _ => hu c
  intro h
  have hsynthesize : s.synthesize u t = .error (.noResultType method) := by
    rw [generateSource] at h
    cases hsynthesize : s.synthesize u t with
    | ok text =>
        rw [hsynthesize] at h
        cases h
    | error e =>
        rw [hsynthesize] at h
        exact congrArg _ (Except.error.inj h)
  -- none of the stages fails like this
  rw [synthesize_eq_stages hstubs, check_eq_error_iff, check_eq_error_iff, check_eq_error_iff,
    Universe.checkImplementable_eq_error_iff, Universe.checkMembersKnown_eq_error_iff,
    bind_eq_error_iff, Universe.constructorStubs_eq_error_iff] at hsynthesize
  rcases hsynthesize with ⟨_, -, h⟩ | ⟨-, h | ⟨-, ⟨_, -, h⟩ | ⟨-, ⟨-, h⟩ | ⟨_, -, h⟩⟩⟩⟩
  · cases h
  · rw [Universe.checkOpenChain] at h
    split at h
    · cases h
    · cases h
  · cases h
  · cases h
  · cases h

/-- A chain without interfaces holds all supertypes. -/
theorem Universe.supertypes_eq_ancestors (h : ∀ c ∈ u.ancestors t, (u.get c).interfaces = []) :
    u.supertypes t = u.ancestors t := by
  have hnone : ((u.ancestors t).flatMap fun c => (u.get c).interfaces) = [] := by
    simpa [List.flatMap_eq_nil_iff] using h
  rw [supertypes, hnone, breadthFirst, List.append_nil]

/-- Whether a type passes all stages and has no interface in its chain. This can be computed without
a walk through the interfaces. -/
def Settings.generatesPlain (s : Settings) (u : Universe) (t : TypeId) : Bool :=
  u.checkImplementable t == .ok () && u.checkOpenChain t == .ok () &&
    (u.ancestors t).all (fun c => (u.get c).interfaces.isEmpty && !(u.get c).membersUnknown) &&
    (u.constructorStubs (s.className (u.get t)) t).isOk

theorem Settings.exists_generateSource {s : Settings} (hu : u.HasResults)
    (h : s.generatesPlain u t = true) : ∃ source, s.generateSource u t = .ok source := by
  simp only [generatesPlain, Bool.and_eq_true, beq_iff_eq, List.all_eq_true, List.isEmpty_iff,
    Bool.not_eq_true'] at h
  obtain ⟨⟨⟨hgate, hopen⟩, hchain⟩, hconstructors⟩ := h
  have hknown : u.checkMembersKnown t = .ok () := by
    rw [Universe.checkMembersKnown_eq_ok_iff,
      Universe.supertypes_eq_ancestors fun c hc => (hchain c hc).1]
    exact fun c hc => (hchain c hc).2
  obtain ⟨stubs, hstubs⟩ := Universe.exists_mapM_methodStub? (t := t) fun c _ => hu c
  rw [generateSource, synthesize_eq_stages hstubs, hgate, hopen, hknown]
  cases hmade : u.constructorStubs (s.className (u.get t)) t with
  | error e =>
      rw [hmade] at hconstructors
      cases hconstructors
  | ok constructors => exact ⟨_, rfl⟩

end Skeletal
