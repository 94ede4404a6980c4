import Skeletal.Proofs.Synthesis.Obligation
import Skeletal.Proofs.Universe.SameLineage

/-!
# Discharging an obligation

A type that is given one more public method with a body has its old obligations without that of the
method's signature, in their old order (`abstractMethods_addMethod`). The method stands first in the
lineage, so it wins its signature among the public methods and implements it for the levels above.
Of both walks only the members of that signature are touched: leaving the signature out of the
result comes to the same as counting it as settled from the start (`filter_hiddenObligations`).
-/

set_option autoImplicit false

namespace Skeletal.Universe

/-- Universe in which one type declares one more method, behind those that it has. -/
def addMethod (u : Universe) (t : TypeId) (m : Member) : Universe :=
  u.set t { u.get t with methods := (u.get t).methods ++ [m] }

variable {u : Universe} {t s l : TypeId} {m o : Member} {sig : Signature}
  {settled settled' : List Signature} {levels : List TypeId}

/-! ## Signatures that are settled -/

/-- A level is looked at for the signatures of its own methods. -/
theorem hiddenAt_congr
    (h : ∀ o ∈ (u.get l).methods, u.signature o ∈ settled ↔ u.signature o ∈ settled') :
    u.hiddenAt settled l = u.hiddenAt settled' l := by
  rw [hiddenAt, hiddenAt]
  congr 1
  apply List.filter_congr
  intro o ho
  rw [List.contains_eq_mem, List.contains_eq_mem, decide_eq_decide.2 (h o ho)]

/-- The order in which signatures were settled does not matter. -/
theorem hiddenObligations_congr (h : ∀ sig, sig ∈ settled ↔ sig ∈ settled') :
    u.hiddenObligations settled levels = u.hiddenObligations settled' levels := by
  induction levels generalizing settled settled' with
  | nil => rfl
  | cons l above ih =>
      have hlevel : u.hiddenAt settled l = u.hiddenAt settled' l :=
        hiddenAt_congr fun o _ => h (u.signature o)
      rw [hiddenObligations, hiddenObligations, hlevel]
      congr 1
      apply ih
      intro sig
      simp only [List.mem_append, h sig]

/-- What a level yields without a signature is what it yields if the signature is settled. -/
theorem filter_hiddenAt (u : Universe) (settled : List Signature) (l : TypeId) (sig : Signature) :
    (u.hiddenAt settled l).filter (fun o => u.signature o ≠ sig) =
      u.hiddenAt (sig :: settled) l := by
  have hcomm := filter_firstOfSignature u (fun s => s ≠ sig)
  rw [hiddenAt, hiddenAt, hcomm, List.filter_filter]
  congr 1
  apply List.filter_congr
  intro o _
  by_cases ho : u.signature o = sig <;> simp [ho]

theorem mem_map_signature_filter {members : List Member} {other : Signature} :
    other ∈ (members.filter fun o => u.signature o ≠ sig).map u.signature ↔
      other ≠ sig ∧ other ∈ members.map u.signature := by
  simp only [List.mem_map, List.mem_filter, decide_eq_true_eq]
  constructor
  · rintro ⟨o, ⟨ho, hne⟩, rfl⟩
    exact ⟨hne, o, ho, rfl⟩
  · rintro ⟨hne, o, ho, rfl⟩
    exact ⟨o, ⟨ho, hne⟩, rfl⟩

/-- What a chain yields without a signature is what it yields if the signature is settled. -/
theorem filter_hiddenObligations (u : Universe) (settled : List Signature) (levels : List TypeId)
    (sig : Signature) :
    (u.hiddenObligations settled levels).filter (fun o => u.signature o ≠ sig) =
      u.hiddenObligations (sig :: settled) levels := by
  induction levels generalizing settled with
  | nil => rfl
  | cons l above ih =>
      rw [hiddenObligations, hiddenObligations, List.filter_append, ih, filter_hiddenAt]
      congr 1
      -- the signature is settled on both sides, whether the level yields it or not
      apply hiddenObligations_congr
      intro other
      rw [← filter_hiddenAt]
      simp only [List.mem_cons, List.mem_append, mem_map_signature_filter]
      tauto

/-! ## The added method -/

section

variable (ht : t < u.size)

include ht

theorem get_addMethod (m : Member) (s : TypeId) : (u.addMethod t m).get s =
    if s = t then { u.get t with methods := (u.get t).methods ++ [m] } else u.get s :=
  get_set u _ ht s

/-- What does not speak of methods stays as it is. -/
theorem same_addMethod {α : Type} (f : Descriptor → α)
    (hf : ∀ d methods, f { d with methods } = f d) (m : Member) (s : TypeId) :
    f ((u.addMethod t m).get s) = f (u.get s) := by
  rw [get_addMethod ht]
  split_ifs with h
  · rw [hf, h]
  · rfl

theorem sameLineage_addMethod (m : Member) : u.SameLineage (u.addMethod t m) where
  size := size_set u t _
  canonical := funext (same_addMethod ht Descriptor.canonical (fun _ _ => rfl) m)
  superclass := same_addMethod ht Descriptor.superclass (fun _ _ => rfl) m
  interfaces := same_addMethod ht Descriptor.interfaces (fun _ _ => rfl) m

theorem methods_addMethod (m : Member) (s : TypeId) : ((u.addMethod t m).get s).methods =
    (u.get s).methods ++ if s = t then [m] else [] := by
  rw [get_addMethod ht]
  split_ifs with h
  · rw [h]
  · rw [List.append_nil]

/-- A public method is a public method of its own type, be it static or not. -/
theorem publicMethodsFrom_addMethod (hpublic : m.isPublic = true) (s : TypeId) :
    (u.addMethod t m).publicMethodsFrom t s =
      u.publicMethodsFrom t s ++ if s = t then [m] else [] := by
  have hinterface : ((u.addMethod t m).get s).isInterface = (u.get s).isInterface :=
    same_addMethod ht Descriptor.isInterface (fun _ _ => rfl) m s
  rw [publicMethodsFrom, publicMethodsFrom, methods_addMethod ht, hinterface, List.filter_append]
  split_ifs with h
  · simp [h, hpublic]
  · rfl

theorem mem_implementedAt_addMethod (hbody : m.isAbstract = false) :
    sig ∈ (u.addMethod t m).implementedAt l ↔
      sig ∈ u.implementedAt l ∨ l = t ∧ sig = u.signature m := by
  rw [implementedAt, implementedAt, methods_addMethod ht, (sameLineage_addMethod ht m).signature,
    List.filter_append, List.map_append, List.mem_append]
  split_ifs with h <;> simp [h, hbody]

/-- A method with a body is none that a level hides. -/
theorem hiddenAt_addMethod (hbody : m.isAbstract = false) (settled : List Signature) (l : TypeId) :
    (u.addMethod t m).hiddenAt settled l = u.hiddenAt settled l := by
  have hsame := sameLineage_addMethod ht m
  rw [hiddenAt, hiddenAt, methods_addMethod ht, hsame.signature, hsame.firstOfSignature,
    List.filter_append]
  split_ifs <;> simp [hbody]

/-! ## Public methods -/

/-- The added method wins its signature, if its type does not declare that already. -/
theorem eq_of_mem_publicMethods_addMethod (hpublic : m.isPublic = true)
    (hnew : ∀ o ∈ (u.get t).methods, u.signature o ≠ u.signature m)
    (ho : o ∈ (u.addMethod t m).publicMethods t) (hsig : u.signature o = u.signature m) :
    o = m := by
  have hsame := sameLineage_addMethod ht m
  obtain ⟨rest, hrest⟩ : ∃ rest, u.supertypes t = t :: rest := by
    rw [supertypes, ancestors, chain_succ, List.cons_append]
    exact ⟨_, rfl⟩
  have hfirst : (u.addMethod t m).contribution? t (u.signature m) t = some m := by
    have hnone : (u.publicMethodsFrom t t).find? (fun o => u.signature o = u.signature m) = none := by
      simp only [List.find?_eq_none, decide_eq_true_eq]
      intro o ho
      exact hnew o (mem_publicMethodsFrom_iff.1 ho).1
    rw [contribution?, publicMethodsFrom_addMethod ht hpublic, if_pos rfl, hsame.signature,
      List.find?_append, hnone]
    simp
  rw [mem_publicMethods_iff, hsame.supertypes, hsame.signature, hsig, hrest, List.findSome?_cons,
    hfirst] at ho
  exact (Option.some.inj ho).symm

/-- Of the other signatures the public methods are the same. -/
theorem filter_publicMethods_addMethod (hpublic : m.isPublic = true) :
    ((u.addMethod t m).publicMethods t).filter (fun o => u.signature o ≠ u.signature m) =
      (u.publicMethods t).filter fun o => u.signature o ≠ u.signature m := by
  have hsame := sameLineage_addMethod ht m
  have hcomm := filter_firstOfSignature u (fun s => s ≠ u.signature m)
  rw [publicMethods, publicMethods, hsame.firstOfSignature, hsame.supertypes, hcomm, hcomm,
    List.filter_flatMap, List.filter_flatMap]
  congr 1
  apply List.flatMap_congr
  intro s _
  rw [publicMethodsFrom_addMethod ht hpublic, List.filter_append]
  split_ifs <;> simp

/-- Of the public obligations that of the signature is gone. -/
theorem publicObligations_addMethod (hpublic : m.isPublic = true) (hbody : m.isAbstract = false)
    (hnew : ∀ o ∈ (u.get t).methods, u.signature o ≠ u.signature m) :
    (u.addMethod t m).publicObligations t =
      (u.publicObligations t).filter fun o => u.signature o ≠ u.signature m := by
  -- of the signature only the added method is public, and it is not abstract
  have hothers : (u.addMethod t m).publicObligations t =
      ((u.addMethod t m).publicObligations t).filter fun o => u.signature o ≠ u.signature m := by
    apply Eq.symm
    apply List.filter_eq_self.2
    intro o ho
    obtain ⟨hmem, habs⟩ := mem_publicObligations_iff.1 ho
    apply decide_eq_true
    intro hsig
    obtain rfl := eq_of_mem_publicMethods_addMethod ht hpublic hnew hmem hsig
    exact Bool.false_ne_true (hbody.symm.trans habs)
  rw [hothers, publicObligations, List.filter_comm, filter_publicMethods_addMethod ht hpublic,
    List.filter_comm, publicObligations]

/-! ## The chain -/

/-- Once its signature is settled, the added method changes nothing for a chain. -/
theorem hiddenObligations_addMethod_of_mem (hbody : m.isAbstract = false)
    (hsettled : u.signature m ∈ settled) :
    (u.addMethod t m).hiddenObligations settled levels = u.hiddenObligations settled levels := by
  have hsignature := (sameLineage_addMethod ht m).signature
  induction levels generalizing settled with
  | nil => rfl
  | cons l above ih =>
      rw [hiddenObligations, hiddenObligations, hiddenAt_addMethod ht hbody, hsignature]
      congr 1
      rw [ih (by simp [hsettled])]
      apply hiddenObligations_congr
      intro sig
      simp only [List.mem_append, mem_implementedAt_addMethod ht hbody]
      constructor
      · rintro (h | h | ⟨-, rfl⟩)
        · exact Or.inl h
        · exact Or.inr h
        · exact Or.inl (Or.inl hsettled)
      · rintro (h | h)
        · exact Or.inl h
        · exact Or.inr (Or.inl h)

/-- The type settles the signature of the added method for the levels above. -/
theorem hiddenObligations_addMethod (hbody : m.isAbstract = false)
    (hnew : ∀ o ∈ (u.get t).methods, u.signature o ≠ u.signature m) :
    (u.addMethod t m).hiddenObligations settled (t :: levels) =
      u.hiddenObligations (u.signature m :: settled) (t :: levels) := by
  have hsignature := (sameLineage_addMethod ht m).signature
  have hlevel : u.hiddenAt settled t = u.hiddenAt (u.signature m :: settled) t := by
    apply hiddenAt_congr
    intro o ho
    simp [hnew o ho]
  rw [hiddenObligations, hiddenObligations, hiddenAt_addMethod ht hbody, hsignature, ← hlevel]
  congr 1
  have hsettled : u.signature m ∈ settled ++ (u.hiddenAt settled t).map u.signature ++
      (u.addMethod t m).implementedAt t := by
    apply List.mem_append_right
    exact (mem_implementedAt_addMethod ht hbody).2 (Or.inr ⟨rfl, rfl⟩)
  rw [hiddenObligations_addMethod_of_mem ht hbody hsettled]
  apply hiddenObligations_congr
  intro sig
  simp only [List.mem_append, List.mem_cons, mem_implementedAt_addMethod ht hbody, true_and]
  tauto

/-! ## All obligations -/

theorem obligations_addMethod (hpublic : m.isPublic = true) (hbody : m.isAbstract = false)
    (hnew : ∀ o ∈ (u.get t).methods, u.signature o ≠ u.signature m) :
    (u.addMethod t m).obligations t =
      (u.obligations t).filter fun o => u.signature o ≠ u.signature m := by
  have hsame := sameLineage_addMethod ht m
  obtain ⟨above, habove⟩ : ∃ above, u.ancestors t = t :: above := by
    rw [ancestors, chain_succ]
    exact ⟨_, rfl⟩
  rw [obligations, obligations, publicObligations_addMethod ht hpublic hbody hnew, hsame.ancestors,
    hsame.signature, List.filter_append, filter_hiddenObligations, habove,
    hiddenObligations_addMethod ht hbody hnew]
  congr 1
  -- the signature counts as settled in both walks, so its public obligation makes no difference
  apply hiddenObligations_congr
  intro sig
  simp only [List.mem_cons, mem_map_signature_filter]
  tauto

end

/-- Behind the universe there is nothing to implement. -/
theorem obligations_of_size_le (h : u.size ≤ t) : u.obligations t = [] := by
  rw [List.eq_nil_iff_forall_not_mem]
  intro o ho
  obtain ⟨s, hs, hmem⟩ := exists_mem_supertypes_of_mem_obligations ho
  rw [supertypes_of_size_le h, List.mem_singleton] at hs
  rw [hs, get_of_size_le h] at hmem
  exact List.not_mem_nil hmem

/-- A type that is given a public method with a body, of a signature that it does not declare
itself, is left with the abstract methods that it had, in their order, but for that of the
signature. -/
theorem abstractMethods_addMethod {members : List Member} (h : u.abstractMethods t = .ok members)
    (hpublic : m.isPublic = true) (hbody : m.isAbstract = false)
    (hnew : ∀ o ∈ (u.get t).methods, u.signature o ≠ u.signature m) :
    (u.addMethod t m).abstractMethods t =
      .ok (members.filter fun o => u.signature o ≠ u.signature m) := by
  obtain ⟨hknown, hopen, rfl⟩ := abstractMethods_eq_ok_iff.1 h
  by_cases ht : t < u.size
  · have hsame := sameLineage_addMethod ht m
    apply abstractMethods_eq_ok_iff.2
    rw [hsame.supertypes, hsame.ancestors, obligations_addMethod ht hpublic hbody hnew]
    refine ⟨?_, ?_, rfl⟩
    · intro s hs
      rw [same_addMethod ht Descriptor.membersUnknown (fun _ _ => rfl)]
      exact hknown s hs
    · intro l hl
      rw [same_addMethod ht Descriptor.isPrivate (fun _ _ => rfl)]
      exact hopen l hl
  · -- no type is there to be given a method, and nothing is abstract
    have hsize := Nat.not_lt.1 ht
    have hsame : u.addMethod t m = u := by
      rw [addMethod, set, Array.setIfInBounds_eq_of_size_le hsize]
    rw [hsame, h, obligations_of_size_le hsize, List.filter_nil]

/-- The lowest class of `reopenedChain` implements the method of its interface, and so is left with
the methods `f` and `g` of the chain. -/
theorem abstractMethods_addMethod_reopenedChain :
    reopenedChain.abstractMethods 3 =
        .ok [{ name := "h", modifiers := ["public", "abstract"], declaring := some 0 },
          { name := "f", modifiers := ["protected", "abstract"], declaring := some 3 },
          { name := "g", modifiers := ["abstract"], declaring := some 1 }] ∧
      (reopenedChain.addMethod 3
          { name := "h", modifiers := ["public"], declaring := some 3 }).abstractMethods 3 =
        .ok [{ name := "f", modifiers := ["protected", "abstract"], declaring := some 3 },
          { name := "g", modifiers := ["abstract"], declaring := some 1 }] := by
  have hbefore : reopenedChain.abstractMethods 3 =
      .ok [{ name := "h", modifiers := ["public", "abstract"], declaring := some 0 },
        { name := "f", modifiers := ["protected", "abstract"], declaring := some 3 },
        { name := "g", modifiers := ["abstract"], declaring := some 1 }] := by cbv
  exact ⟨hbefore, abstractMethods_addMethod hbefore (by decide) (by decide) (by decide)⟩

end Skeletal.Universe
