import Skeletal.Proofs.Synthesis.Obligation
import Skeletal.Universe.Standard

/-!
# Result types of overrides

An override answers all abstract declarations of its signature at once, so that its result type has
to be a subtype of the result types of all of them. The stub takes the result type of the one
declaration that is met first. It fits exactly if that declaration is a narrowest one wherever
there is a narrowest one (`resultsFit_iff_firstDeclared`). A narrower redeclaration that is met
later is ignored (`narrowedLate_not_resultsFit`).
-/

set_option autoImplicit false

namespace Skeletal.Universe

/-- Canonical name of the type that all reference types are subtypes of. -/
def rootName : String := "java.lang.Object"

/-- A result of type `a` can stand for one of type `b`: the types are the same, `a` reaches `b`, or
`a` is a reference type and `b` the root of all. -/
def ResultFits (u : Universe) (a b : TypeId) : Prop :=
  Relation.ReflTransGen u.Inherits a b ∨ (u.get a).isPrimitive = false ∧ u.canonical b = rootName

/-- The result type of `m` fits that of `o`. -/
def AnswersResult (u : Universe) (m o : Member) : Prop :=
  ∃ a b, m.result = some a ∧ o.result = some b ∧ u.ResultFits a b

/-- `o` is one of the abstract declarations that an override of the signature answers. -/
def IsRival (u : Universe) (t : TypeId) (sig : Signature) (o : Member) : Prop :=
  ∃ d ∈ u.supertypes t, o ∈ (u.get d).methods ∧ o.isAbstract = true ∧ o.isStatic = false ∧
    u.signature o = sig

/-- The result type of `m` fits those of all rivals of its signature. -/
def Narrowest (u : Universe) (t : TypeId) (m : Member) : Prop :=
  ∀ o, u.IsRival t (u.signature m) o → u.AnswersResult m o

/-- The stub for `m` fits all rivals, if any of them does. -/
def ResultFitsRivals (u : Universe) (t : TypeId) (m : Member) : Prop :=
  (∃ o, u.IsRival t (u.signature m) o ∧ u.Narrowest t o) → u.Narrowest t m

/-- The first public declaration of a signature along the listing. -/
def firstPublic? (u : Universe) (t : TypeId) (sig : Signature) : Option Member :=
  (u.listing t).findSome? (u.contribution? t sig)

/-- `m` is the declaration of its signature that is met first: the first public one in the listing
if that is abstract, else the first hidden one of a signature that the chain leaves open. -/
def FirstDeclared (u : Universe) (t : TypeId) (m : Member) : Prop :=
  u.firstPublic? t (u.signature m) = some m ∧ m.isAbstract = true ∨
    (∀ o, u.firstPublic? t (u.signature m) = some o → o.isAbstract = false) ∧
      u.LeavesOpen t (u.signature m) ∧ u.firstHidden? t (u.signature m) = some m

variable {u : Universe} {t : TypeId} {m : Member} {sig : Signature}

/-! ## First declarations -/

theorem signature_of_firstPublic? (h : u.firstPublic? t sig = some m) : u.signature m = sig := by
  obtain ⟨-, d, -, -, hd, -⟩ := List.findSome?_eq_some_iff.1 h
  exact (signature_of_contribution? hd).2

theorem mem_publicMethods_iff_firstPublic? (hu : u.Acyclic) :
    m ∈ u.publicMethods t ↔ u.firstPublic? t (u.signature m) = some m := by
  rw [mem_publicMethods_iff, supertypes_eq_firstMet hu, findSome?_firstMet (by simp)]
  rfl

theorem not_exposesAbstract_iff (hu : u.Acyclic) : ¬ u.ExposesAbstract t sig ↔
    ∀ o, u.firstPublic? t sig = some o → o.isAbstract = false := by
  constructor
  · intro hnot o ho
    have hsig := signature_of_firstPublic? ho
    have hmem := (mem_publicMethods_iff_firstPublic? hu).2 (hsig.symm ▸ ho)
    by_contra habs
    exact hnot ⟨o, hmem, hsig, eq_true_of_ne_false habs⟩
  · rintro hall ⟨o, hmem, rfl, habs⟩
    have ho := (mem_publicMethods_iff_firstPublic? hu).1 hmem
    exact Bool.false_ne_true ((hall o ho).symm.trans habs)

/-- What the chain leaves open is its first hidden declaration. -/
theorem openHidden?_ancestors_eq_some_iff (hu : u.Acyclic) :
    u.openHidden? sig (u.ancestors t) = some m ↔
      u.LeavesOpen t sig ∧ u.firstHidden? t sig = some m := by
  rw [← exists_openHidden?_ancestors_iff hu]
  constructor
  · intro h
    exact ⟨⟨m, h⟩, find?_of_openHidden? h⟩
  · rintro ⟨⟨o, ho⟩, hfirst⟩
    -- whatever the chain leaves open of the signature is its first hidden declaration, which is `m`
    have hfirst' : u.firstHidden? t sig = some o := find?_of_openHidden? ho
    rw [hfirst] at hfirst'
    rwa [Option.some.inj hfirst']

/-- The obligations are the declarations that are met first. -/
theorem mem_obligations_iff_firstDeclared (hu : u.Acyclic) :
    m ∈ u.obligations t ↔ u.FirstDeclared t m := by
  rw [mem_obligations_iff, mem_publicObligations_iff, mem_publicMethods_iff_firstPublic? hu,
    mem_map_publicObligations_iff, not_exposesAbstract_iff hu,
    openHidden?_ancestors_eq_some_iff hu, FirstDeclared]

/-! ## Fitting result types -/

/-- The stubs of an accepted type fit all declarations they answer, wherever a declaration does,
exactly if each signature that has a narrowest declaration has one that is met first. -/
theorem resultsFit_iff_firstDeclared {settings : Settings} {text : String} (hu : u.Acyclic)
    (haccepted : settings.synthesize u t = .ok text) :
    (∃ members, u.abstractMethods t = .ok members ∧ ∀ m ∈ members, u.ResultFitsRivals t m) ↔
      ∀ m o, u.FirstDeclared t m → u.IsRival t (u.signature m) o → u.Narrowest t o →
        u.Narrowest t m := by
  have hmembers := abstractMethods_of_synthesize haccepted
  constructor
  · rintro ⟨members, h, hfits⟩ m o hfirst hrival hnarrow
    obtain rfl : u.obligations t = members := Except.ok.inj (hmembers.symm.trans h)
    exact hfits m ((mem_obligations_iff_firstDeclared hu).2 hfirst) ⟨o, hrival, hnarrow⟩
  · intro hfirst
    refine ⟨u.obligations t, hmembers, ?_⟩
    rintro m hm ⟨o, hrival, hnarrow⟩
    exact hfirst m o ((mem_obligations_iff_firstDeclared hu).1 hm) hrival hnarrow

/-- An interface whose method gives an object, a subinterface that narrows the result to a string,
and an interface that lists the two in this order. -/
def narrowedLate : Universe :=
  ⟨#[{ name := "Object", canonical := rootName },
     { name := "String", canonical := "String", superclass := some 0 },
     { name := "I", canonical := "I", kind := .interfaceType
       methods := [{ name := "f", modifiers := ["public", "abstract"], result := some 0,
                     declaring := some 2 }] },
     { name := "J", canonical := "J", kind := .interfaceType, interfaces := [2]
       methods := [{ name := "f", modifiers := ["public", "abstract"], result := some 1,
                     declaring := some 3 }] },
     { name := "T", canonical := "T", kind := .interfaceType, interfaces := [2, 3] }]⟩

theorem acyclic_narrowedLate : narrowedLate.Acyclic := acyclic_of_lt (by decide)

theorem synthesize_narrowedLate : Settings.synthesize {} narrowedLate 4 =
    .ok ("class TImpl implements T \x7b\n\n" ++
      "public java.lang.Object f() \x7b return null; \x7d\n\n\x7d") := by
  cbv

/-- Listed in the order of `narrowedLate`, the stub gives an object where the subinterface asks for
a string, although the declaration of the subinterface fits both. -/
theorem narrowedLate_not_resultsFit :
    narrowedLate.Acyclic ∧ (∃ text, Settings.synthesize {} narrowedLate 4 = .ok text) ∧
      ¬ ∃ members, narrowedLate.abstractMethods 4 = .ok members ∧
        ∀ m ∈ members, narrowedLate.ResultFitsRivals 4 m := by
  refine ⟨acyclic_narrowedLate, ⟨_, synthesize_narrowedLate⟩, ?_⟩
  rintro ⟨members, hmembers, hfits⟩
  have hobligations : narrowedLate.abstractMethods 4 =
      .ok [{ name := "f", modifiers := ["public", "abstract"], result := some 0,
             declaring := some 2 }] := by cbv
  have hlisted : narrowedLate.supertypes 4 = [4, 2, 3] := by cbv
  obtain rfl := Except.ok.inj (hobligations.symm.trans hmembers)
  have hstring : ∀ o, narrowedLate.IsRival 4 ⟨"f", []⟩ o →
      o.result = some 0 ∨ o.result = some 1 := by
    rintro o ⟨d, hd, ho, -⟩
    rw [hlisted] at hd
    have hresults : ∀ d ∈ [4, 2, 3], ∀ o ∈ (narrowedLate.get d).methods,
        o.result = some 0 ∨ o.result = some 1 := by decide
    exact hresults d hd o ho
  -- the declaration of the subinterface fits all, so that of the superinterface would have to
  have hnarrow := hfits _ List.mem_cons_self
    ⟨{ name := "f", modifiers := ["public", "abstract"], result := some 1, declaring := some 3 },
      ⟨3, by simp [hlisted], List.mem_cons_self, by decide, by decide, by decide⟩, fun o ho => ?_⟩
  · obtain ⟨a, b, ha, hb, hfit⟩ := hnarrow
      { name := "f", modifiers := ["public", "abstract"], result := some 1, declaring := some 3 }
      ⟨3, by simp [hlisted], List.mem_cons_self, by decide, by decide, by decide⟩
    obtain rfl : 0 = a := Option.some.inj ha
    obtain rfl : 1 = b := Option.some.inj hb
    -- an object is no string: it reaches nothing, and a string is not the root
    rcases hfit with hreach | ⟨-, hroot⟩
    · rcases Relation.ReflTransGen.cases_head hreach with h | ⟨c, hc, -⟩
      · exact absurd h (by decide)
      · exact absurd hc List.not_mem_nil
    · exact absurd hroot (by decide)
  · rcases hstring o ho with hobject | hstring
    · exact ⟨1, 0, rfl, hobject, Or.inl (Relation.ReflTransGen.single List.mem_cons_self)⟩
    · exact ⟨1, 1, rfl, hstring, Or.inl Relation.ReflTransGen.refl⟩

/-- The criterion at `narrowedLate`, which is accepted: the first declaration is that of the
superinterface. -/
theorem resultsFit_narrowedLate_iff :
    narrowedLate.Acyclic ∧ (∃ text, Settings.synthesize {} narrowedLate 4 = .ok text) ∧
      ((∃ members, narrowedLate.abstractMethods 4 = .ok members ∧
          ∀ m ∈ members, narrowedLate.ResultFitsRivals 4 m) ↔
        ∀ m o, narrowedLate.FirstDeclared 4 m →
          narrowedLate.IsRival 4 (narrowedLate.signature m) o → narrowedLate.Narrowest 4 o →
            narrowedLate.Narrowest 4 m) :=
  ⟨acyclic_narrowedLate, ⟨_, synthesize_narrowedLate⟩,
    resultsFit_iff_firstDeclared acyclic_narrowedLate synthesize_narrowedLate⟩

end Skeletal.Universe
