import Skeletal.Proofs.Universe.Winner
import Skeletal.Proofs.Universe.Walks

/-!
# Public methods, signature by signature

Of each signature a type has at most one public method. There is one exactly if a supertype declares
the signature, and it is the first declaration along the supertypes
(`filter_publicMethods`). The superclass chain stands in front of the interfaces, so a class of the
chain that declares the signature keeps every interface from it, and the most derived such class
wins (`publicMethods_enumerates`).
-/

set_option autoImplicit false

namespace Skeletal.Universe

open Relation (TransGen)

variable {u : Universe} {t l : TypeId} {classes : List TypeId} {m : Member} {sig : Signature}

/-- The public methods of a signature are the first declaration along the supertypes, if any. -/
theorem filter_publicMethods (u : Universe) (t : TypeId) (sig : Signature) :
    (u.publicMethods t).filter (fun m => u.signature m = sig) =
      ((u.supertypes t).findSome? (u.contribution? t sig)).toList := by
  rw [publicMethods, filter_firstOfSignature_eq, List.find?_flatMap]
  rfl

/-- The public method of a signature is found where nothing in front declares the signature. -/
theorem filter_publicMethods_of_split {before after : List TypeId}
    (hsplit : u.supertypes t = before ++ l :: after)
    (hbefore : ∀ c ∈ before, ¬ u.Declares t c sig) (hm : u.contribution? t sig l = some m) :
    (u.publicMethods t).filter (fun o => u.signature o = sig) = [m] := by
  have hfirst : (u.supertypes t).findSome? (u.contribution? t sig) = some m := by
    apply List.findSome?_eq_some_iff.2
    refine ⟨before, l, after, hsplit, hm, ?_⟩
    intro c hc
    exact contribution?_eq_none_iff.2 (hbefore c hc)
  rw [filter_publicMethods, hfirst, Option.toList_some]

theorem exists_contribution? (h : u.Declares t l sig) : ∃ m, u.contribution? t sig l = some m := by
  apply Option.ne_none_iff_exists'.1
  intro hnone
  exact contribution?_eq_none_iff.1 hnone h

/-- A most derived class among those that declare a signature has none of them in front of it. -/
theorem exists_split_of_mem_ancestors (hl : l ∈ u.ancestors t)
    (hbelow : ∀ k ∈ u.ancestors t, TransGen u.Extends k l → ¬ u.Declares t k sig) :
    ∃ before after, u.supertypes t = before ++ l :: after ∧
      ∀ c ∈ before, ¬ u.Declares t c sig := by
  obtain ⟨before, after, hsplit⟩ := List.append_of_mem hl
  have hderived := pairwise_ancestors u t
  rw [hsplit, List.pairwise_append] at hderived
  refine ⟨before, after ++ _, by rw [supertypes, hsplit, List.append_assoc, List.cons_append], ?_⟩
  intro k hk
  apply hbelow k
  · rw [hsplit]
    exact List.mem_append_left _ hk
  · exact hderived.2.2 k hk l List.mem_cons_self

/-- What the public methods of a type are whose superclass chain ends: the one pass over its
supertypes has exactly one result. Of a signature that no supertype declares it has no member. Of
any other it has exactly one, the first declaration in the order of the supertypes, and where a
class of the chain declares the signature, that of the most derived such class. -/
theorem publicMethods_enumerates (h : u.AncestorsRun t classes) :
    (∀ result, u.PublicMethodsRun t result ↔ result = u.publicMethods t) ∧
    ∀ sig,
      ((∀ d ∈ u.supertypes t, ¬ u.Declares t d sig) →
        (u.publicMethods t).filter (fun o => u.signature o = sig) = []) ∧
      ((∃ d ∈ u.supertypes t, u.Declares t d sig) →
        ∃ before d after m, u.supertypes t = before ++ d :: after ∧
          (∀ c ∈ before, ¬ u.Declares t c sig) ∧ u.contribution? t sig d = some m ∧
          (u.publicMethods t).filter (fun o => u.signature o = sig) = [m]) ∧
      ∀ l ∈ classes, u.Declares t l sig →
        (∀ k ∈ classes, TransGen u.Extends k l → ¬ u.Declares t k sig) →
          ∃ m, u.contribution? t sig l = some m ∧
            (u.publicMethods t).filter (fun o => u.signature o = sig) = [m] := by
  obtain rfl := h.ancestors_eq
  refine ⟨?_, ?_⟩
  · intro result
    constructor
    · rintro ⟨supertypes, hrun, rfl⟩
      rw [hrun.unique h.supertypesRun, publicMethods]
    · rintro rfl
      exact ⟨_, h.supertypesRun, rfl⟩
  intro sig
  refine ⟨?_, ?_, ?_⟩
  · intro hnone
    have hmiss : (u.supertypes t).findSome? (u.contribution? t sig) = none := by
      apply List.findSome?_eq_none_iff.2
      intro d hd
      exact contribution?_eq_none_iff.2 (hnone d hd)
    rw [filter_publicMethods, hmiss, Option.toList_none]
  · rintro ⟨d, hd, hdecl⟩
    -- the search along the supertypes ends at the first one that declares the signature
    have hfound : ((u.supertypes t).findSome? (u.contribution? t sig)).isSome = true := by
      obtain ⟨o, ho⟩ := exists_contribution? hdecl
      exact List.findSome?_isSome_iff.2 ⟨d, hd, by rw [ho, Option.isSome_some]⟩
    obtain ⟨m, hm⟩ := Option.isSome_iff_exists.1 hfound
    obtain ⟨before, d, after, hsplit, hd, hbefore⟩ := List.findSome?_eq_some_iff.1 hm
    have hundeclared : ∀ c ∈ before, ¬ u.Declares t c sig := by
      intro c hc
      exact contribution?_eq_none_iff.1 (hbefore c hc)
    exact ⟨before, d, after, m, hsplit, hundeclared, hd,
      filter_publicMethods_of_split hsplit hundeclared hd⟩
  · intro l hl hdecl hbelow
    obtain ⟨before, after, hsplit, hbefore⟩ := exists_split_of_mem_ancestors hl hbelow
    obtain ⟨m, hm⟩ := exists_contribution? hdecl
    exact ⟨m, hm, filter_publicMethods_of_split hsplit hbefore hm⟩

/-- A class whose superclass has a method with a body. An interface of the class declares the method
as well, and a static method that stays with it. -/
def hidingClass : Universe :=
  ⟨#[{ name := "I", canonical := "I", kind := .interfaceType
       methods :=
         [{ name := "f", modifiers := ["public", "abstract"], declaring := some 0 },
           { name := "g", modifiers := ["public", "static"], declaring := some 0 }] },
     { name := "B", canonical := "B"
       methods :=
         [{ name := "f", modifiers := ["protected"], parameters := [0], declaring := some 1 },
           { name := "f", modifiers := ["public"], declaring := some 1 }] },
     { name := "C", canonical := "C", superclass := some 1, interfaces := [0] }]⟩

/-- The superclass wins the method, and of the static method nothing is left. -/
theorem publicMethods_hidingClass :
    hidingClass.AncestorsRun 2 [2, 1] ∧
      (hidingClass.publicMethods 2).filter (fun o => hidingClass.signature o = ⟨"f", []⟩) =
        [{ name := "f", modifiers := ["public"], declaring := some 1 }] ∧
      (hidingClass.publicMethods 2).filter (fun o => hidingClass.signature o = ⟨"g", []⟩) = [] := by
  have hchain : hidingClass.AncestorsRun 2 [2, 1] := .next rfl (.root rfl)
  have hlisted : hidingClass.supertypes 2 = [2, 1, 0] := by cbv
  obtain ⟨-, hmethods⟩ := publicMethods_enumerates hchain
  -- the class itself declares nothing, and the superclass is not below itself
  have hbelow : ∀ k ∈ [2, 1], TransGen hidingClass.Extends k 1 →
      ¬ hidingClass.Declares 2 k ⟨"f", []⟩ := by
    intro k hk hbelow
    rcases List.mem_pair.1 hk with rfl | rfl
    · rintro ⟨m, hm, -⟩
      exact List.not_mem_nil hm
    · have hroot : hidingClass.AncestorsRun 1 [1] := .root rfl
      exact absurd hbelow hroot.not_extends_self
  have hdecl : hidingClass.Declares 2 1 ⟨"f", []⟩ :=
    ⟨_, List.mem_cons_of_mem _ List.mem_cons_self, by decide⟩
  have hfirst : hidingClass.contribution? 2 ⟨"f", []⟩ 1 =
      some { name := "f", modifiers := ["public"], declaring := some 1 } := by cbv
  refine ⟨hchain, ?_, ?_⟩
  · obtain ⟨m, hm, hf⟩ := (hmethods ⟨"f", []⟩).2.2 1 (by decide) hdecl hbelow
    rw [hf, Option.some.inj (hm.symm.trans hfirst)]
  · apply (hmethods ⟨"g", []⟩).1
    intro d hd
    rw [hlisted] at hd
    rw [declares_iff]
    revert d
    decide

end Skeletal.Universe
