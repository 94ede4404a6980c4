import Skeletal.Proofs.Universe.Winner

/-!
# Most derived declarations

The public methods of a type are meant to be its most derived declarations: where a winner is
declared by `s`, no proper subtype of `s` among the supertypes declares the signature as well. The
superclass chain keeps to this, since a class is met before all that it inherits from. Interfaces
are met breadth first, so that an interface can be met before one of its own subinterfaces, and
this is exactly what goes wrong (`mostDerived_iff_metBefore`). A default method that a subinterface
makes abstract again then stays a default method (`lateSubinterface_not_mostDerived`).
-/

set_option autoImplicit false

namespace Skeletal.Universe

/-- No public method of `t` is overridden by a proper subtype of its declaring type: no supertype
below that type declares the signature too. -/
def MostDerived (u : Universe) (t : TypeId) : Prop :=
  ∀ m ∈ u.publicMethods t, ∀ s, m.declaring = some s →
    ∀ d ∈ u.supertypes t, u.ProperSubtype d s → ¬ u.Declares t d (u.signature m)

variable {u : Universe} {t s d : TypeId} {m : Member} {sig : Signature}

/-- A public method is declared by the first type met that declares its signature. -/
theorem declaring_of_mem_publicMethods (hu : u.Acyclic) (hl : u.Linked)
    (hm : m ∈ u.publicMethods t) (hs : m.declaring = some s) :
    s ∈ u.supertypes t ∧ u.Declares t s (u.signature m) ∧
      ∀ c, u.MetBefore t c s → ¬ u.Declares t c (u.signature m) := by
  obtain ⟨before, d, after, hsplit, hd, hbefore⟩ := exists_split_of_mem_publicMethods hm
  have hds : d = s := by
    have h := hl d m (mem_publicMethodsFrom_iff.1 hd).1
    rw [hs] at h
    exact (Option.some.inj h).symm
  subst hds
  refine ⟨by simp [hsplit], declares_iff.2 ⟨m, hd, rfl⟩, ?_⟩
  intro c hc
  apply hbefore
  exact (metBefore_iff_mem_before hu hsplit).1 hc

/-- The first type met that declares a signature declares the public method. -/
theorem exists_mem_publicMethods_of_first (hu : u.Acyclic) (hl : u.Linked)
    (hs : s ∈ u.supertypes t) (hdecl : u.Declares t s sig)
    (hfirst : ∀ c, u.MetBefore t c s → ¬ u.Declares t c sig) :
    ∃ m ∈ u.publicMethods t, m.declaring = some s ∧ u.signature m = sig := by
  obtain ⟨before, after, hsplit⟩ := List.append_of_mem hs
  obtain ⟨m, hm, hfrom, hsig⟩ := exists_mem_publicMethods hsplit hdecl fun c hc =>
    hfirst c ((metBefore_iff_mem_before hu hsplit).2 hc)
  exact ⟨m, hm, hl s m (mem_publicMethodsFrom_iff.1 hfrom).1, hsig⟩

/-- The public methods of `t` are most derived exactly if, wherever a type is listed before one of
its proper subtypes and both declare a signature, a type listed still earlier declares it too. A
subtype that comes too late is never a class of the superclass chain. -/
theorem mostDerived_iff_metBefore (hu : u.Acyclic) (hl : u.Linked) (t : TypeId) :
    u.MostDerived t ↔
      ∀ s d sig, u.ProperSubtype d s → u.MetBefore t s d → d ∈ u.listing t → d ∉ u.ancestors t →
        u.Declares t s sig → u.Declares t d sig →
          ∃ c, u.MetBefore t c s ∧ u.Declares t c sig := by
  constructor
  · intro hmost s d sig hds hbefore hd _ hdeclS hdeclD
    -- nothing earlier declares the signature, so `s` wins it although `d` declares it too
    by_contra hnone
    have hfirst : ∀ c, u.MetBefore t c s → ¬ u.Declares t c sig :=
      fun c hc hdecl => hnone ⟨c, hc, hdecl⟩
    have hs : s ∈ u.supertypes t := (mem_supertypes_iff hu).2 hbefore.mem_listing
    obtain ⟨m, hm, hdeclaring, rfl⟩ := exists_mem_publicMethods_of_first hu hl hs hdeclS hfirst
    exact hmost m hm s hdeclaring d ((mem_supertypes_iff hu).2 hd) hds hdeclD
  · intro horder m hm s hs d hd hds hdecl
    obtain ⟨hmem, hdeclS, hfirst⟩ := declaring_of_mem_publicMethods hu hl hm hs
    have hne : d ≠ s := by
      rintro rfl
      exact hu d hds
    -- a class is met before all that it inherits from, an interface need not be
    by_cases hchain : d ∈ u.ancestors t
    · exact hfirst d (metBefore_of_mem_ancestors hu hchain hds) hdecl
    · have hlisted := (mem_supertypes_iff hu).1 hd
      rcases metBefore_or_metBefore hlisted hne with hfront | hback
      · exact hfirst d hfront hdecl
      · obtain ⟨c, hc, hdeclC⟩ := horder s d _ hds hback hlisted hchain hdeclS hdecl
        exact hfirst c hc hdeclC

/-- An interface with a default method, a subinterface that makes the method abstract again, and an
interface that lists the two in this order. -/
def lateSubinterface : Universe :=
  ⟨#[{ name := "I", canonical := "I", kind := .interfaceType
       methods := [{ name := "f", modifiers := ["public", "default"], declaring := some 0 }] },
     { name := "J", canonical := "J", kind := .interfaceType, interfaces := [0]
       methods := [{ name := "f", modifiers := ["public", "abstract"], declaring := some 1 }] },
     { name := "T", canonical := "T", kind := .interfaceType, interfaces := [0, 1] }]⟩

theorem acyclic_lateSubinterface : lateSubinterface.Acyclic := acyclic_of_lt (by decide)

theorem linked_lateSubinterface : lateSubinterface.Linked := linked_of_lt (by decide)

/-- Listed in the order of `lateSubinterface`, the default method wins over the declaration that
overrides it. -/
theorem lateSubinterface_not_mostDerived :
    lateSubinterface.Acyclic ∧ lateSubinterface.Linked ∧ ¬ lateSubinterface.MostDerived 2 := by
  refine ⟨acyclic_lateSubinterface, linked_lateSubinterface, ?_⟩
  intro hmost
  have hwinner : lateSubinterface.publicMethods 2 =
      [{ name := "f", modifiers := ["public", "default"], declaring := some 0 }] := by cbv
  have hlisted : lateSubinterface.supertypes 2 = [2, 0, 1] := by cbv
  refine hmost _ (hwinner ▸ List.mem_cons_self) 0 rfl 1 (by simp [hlisted])
    (Relation.TransGen.single ?_) ?_
  · exact List.mem_cons_self
  · exact ⟨_, List.mem_cons_self, by decide, by decide, by decide⟩

/-- The condition names what is wrong with `lateSubinterface`: the superinterface is listed before
its subinterface, and nothing before it declares the method. -/
theorem mostDerived_lateSubinterface_iff :
    lateSubinterface.Acyclic ∧ lateSubinterface.Linked ∧
      (lateSubinterface.MostDerived 2 ↔
        ∀ s d sig, lateSubinterface.ProperSubtype d s → lateSubinterface.MetBefore 2 s d →
          d ∈ lateSubinterface.listing 2 → d ∉ lateSubinterface.ancestors 2 →
            lateSubinterface.Declares 2 s sig → lateSubinterface.Declares 2 d sig →
              ∃ c, lateSubinterface.MetBefore 2 c s ∧ lateSubinterface.Declares 2 c sig) :=
  ⟨acyclic_lateSubinterface, linked_lateSubinterface,
    mostDerived_iff_metBefore acyclic_lateSubinterface linked_lateSubinterface 2⟩

end Skeletal.Universe
