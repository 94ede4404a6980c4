import Skeletal.Proofs.Synthesis.Acceptance
import Skeletal.Proofs.Universe.SameLineage
import Skeletal.Proofs.Universe.Winner

/-!
# Obligations signature by signature

The walk along the superclass chain carries the signatures that are settled. For a single signature
the walk comes down to a search: the first level that declares a hidden method of the signature
yields it, unless a level before it implements the signature (`mem_hiddenObligations_iff`). With
the winners among the public methods this gives every obligation its reason and its declaration
(`abstractMethods_characterized`).
-/

set_option autoImplicit false

namespace Skeletal

/-- Abstract methods that are not public, which the public methods do not show. -/
def Member.isHidden (m : Member) : Bool := m.isAbstract && !m.isPublic

theorem Member.isHidden_iff {m : Member} :
    m.isHidden = true ↔ m.isAbstract = true ∧ m.isPublic = false := by
  simp [Member.isHidden]

namespace Universe

/-- The first hidden method of a signature among the methods of a level. -/
def hiddenIn? (u : Universe) (sig : Signature) (level : TypeId) : Option Member :=
  (u.get level).methods.find? fun m => m.isHidden && u.signature m == sig

/-- The hidden method of a signature that a chain leaves open: the first one declared, unless a
more derived level implements the signature. -/
def openHidden? (u : Universe) (sig : Signature) : List TypeId → Option Member
  | [] => none
  | level :: above =>
    (u.hiddenIn? sig level).or
      (if sig ∈ u.implementedAt level then none else openHidden? u sig above)

variable {u v : Universe} {t l k : TypeId} {m : Member} {sig : Signature}
  {settled : List Signature} {levels : List TypeId}

/-! ## One level -/

theorem hiddenIn?_eq_some (h : u.hiddenIn? sig l = some m) :
    m ∈ (u.get l).methods ∧ m.isHidden = true ∧ u.signature m = sig := by
  have hm := List.find?_some h
  rw [Bool.and_eq_true, beq_iff_eq] at hm
  exact ⟨List.mem_of_find?_eq_some h, hm.1, hm.2⟩

theorem hiddenIn?_eq_none_iff : u.hiddenIn? sig l = none ↔
    ∀ m ∈ (u.get l).methods, m.isHidden = true → u.signature m ≠ sig := by
  simp [hiddenIn?]

theorem not_mem_implementedAt_iff : sig ∉ u.implementedAt l ↔
    ∀ m ∈ (u.get l).methods, u.signature m = sig → m.isAbstract = true := by
  simp only [implementedAt, List.mem_map, List.mem_filter, Bool.not_eq_true', not_exists, not_and,
    and_imp]
  constructor
  · intro h m hm hsig
    by_contra hbody
    exact h m hm (Bool.not_eq_true _ ▸ hbody) hsig
  · intro h m hm hbody hsig
    exact Bool.false_ne_true (hbody.symm.trans (h m hm hsig))

/-- A level yields the first hidden method of each signature that is not settled. -/
theorem mem_hiddenAt_iff : m ∈ u.hiddenAt settled l ↔
    u.signature m ∉ settled ∧ u.hiddenIn? (u.signature m) l = some m := by
  rw [hiddenAt, mem_firstOfSignature_iff, List.find?_filter, hiddenIn?]
  by_cases hset : u.signature m ∈ settled
  · -- the filter of the level keeps no method of a settled signature
    refine iff_of_false (fun h => ?_) fun h => h.1 hset
    have hm := List.find?_some h
    simp [hset] at hm
  · rw [and_iff_right hset]
    have hsame : (fun o : Member => decide ((o.isAbstract && !o.isPublic &&
          !settled.contains (u.signature o)) = true ∧
            decide (u.signature o = u.signature m) = true)) =
        fun o => o.isHidden && u.signature o == u.signature m := by
      funext o
      by_cases ho : u.signature o = u.signature m <;> simp [Member.isHidden, ho, hset]
    rw [hsame]

/-! ## The chain -/

/-- The walk along a chain yields what the chain leaves open of the signatures not settled. -/
theorem mem_hiddenObligations_iff : m ∈ u.hiddenObligations settled levels ↔
    u.signature m ∉ settled ∧ u.openHidden? (u.signature m) levels = some m := by
  induction levels generalizing settled with
  | nil => simp [hiddenObligations, openHidden?]
  | cons level above ih =>
      rw [hiddenObligations, List.mem_append, mem_hiddenAt_iff, ih, openHidden?]
      by_cases hset : u.signature m ∈ settled
      · simp [hset]
      · -- what the level hides or implements of the signature decides whether the walk goes on
        cases hlevel : u.hiddenIn? (u.signature m) level with
        | some o =>
            have hsig := (hiddenIn?_eq_some hlevel).2.2
            have ho : o ∈ u.hiddenAt settled level :=
              mem_hiddenAt_iff.2 ⟨hsig ▸ hset, hsig ▸ hlevel⟩
            have hfound : u.signature m ∈ (u.hiddenAt settled level).map u.signature :=
              List.mem_map.2 ⟨o, ho, hsig⟩
            simp [hset, hfound]
        | none =>
            have hfound : u.signature m ∉ (u.hiddenAt settled level).map u.signature := by
              intro h
              obtain ⟨o, ho, hsig⟩ := List.mem_map.1 h
              have hlevel' := (mem_hiddenAt_iff.1 ho).2
              rw [hsig, hlevel] at hlevel'
              exact absurd hlevel' nofun
            by_cases himp : u.signature m ∈ u.implementedAt level
            · simp [himp]
            · simp only [List.mem_append, hset, hfound, himp, or_self, not_false_eq_true, true_and,
                if_false, Option.none_or, reduceCtorEq, false_or]

/-- The walk along a chain depends on the methods of its types and on names. -/
theorem hiddenObligations_of_sameMethods (hcanonical : v.canonical = u.canonical)
    (hmethods : ∀ t, (v.get t).methods = (u.get t).methods) (settled : List Signature)
    (levels : List TypeId) :
    v.hiddenObligations settled levels = u.hiddenObligations settled levels := by
  induction levels generalizing settled with
  | nil => rfl
  | cons level above ih =>
      simp only [hiddenObligations, hiddenAt, implementedAt, hmethods, signature_congr hcanonical,
        firstOfSignature_congr hcanonical, ih]

theorem nodup_signature_hiddenObligations (u : Universe) (settled : List Signature)
    (levels : List TypeId) : ((u.hiddenObligations settled levels).map u.signature).Nodup := by
  induction levels generalizing settled with
  | nil => exact List.nodup_nil
  | cons level above ih =>
      rw [hiddenObligations, List.map_append, List.nodup_append]
      refine ⟨nodup_signature_firstOfSignature u _, ih _, ?_⟩
      -- what a level yields is settled for the levels above it
      intro a ha b hb hab
      obtain ⟨m, hm, rfl⟩ := List.mem_map.1 hb
      refine (mem_hiddenObligations_iff.1 hm).1 ?_
      exact List.mem_append_left _ (List.mem_append_right _ (hab ▸ ha))

/-- What a chain leaves open is declared by a level before which nothing of the signature is hidden
or implemented. -/
theorem openHidden?_eq_some_iff : u.openHidden? sig levels = some m ↔
    ∃ before l after, levels = before ++ l :: after ∧ u.hiddenIn? sig l = some m ∧
      ∀ k ∈ before, u.hiddenIn? sig k = none ∧ sig ∉ u.implementedAt k := by
  induction levels with
  | nil => simp [openHidden?]
  | cons level above ih =>
      rw [openHidden?]
      constructor
      · intro h
        cases hlevel : u.hiddenIn? sig level with
        | some o =>
            rw [hlevel, Option.some_or] at h
            exact ⟨[], level, above, rfl, hlevel.trans h, by simp⟩
        | none =>
            rw [hlevel, Option.none_or] at h
            split at h
            · exact absurd h nofun
            · rename_i himp
              obtain ⟨before, l, after, rfl, hl, hbefore⟩ := ih.1 h
              refine ⟨level :: before, l, after, rfl, hl, ?_⟩
              intro k hk
              rcases List.mem_cons.1 hk with rfl | hk
              · exact ⟨hlevel, himp⟩
              · exact hbefore k hk
      · rintro ⟨before, l, after, hsplit, hl, hbefore⟩
        cases before with
        | nil =>
            obtain ⟨rfl, -⟩ := List.cons.inj hsplit
            rw [hl, Option.some_or]
        | cons k before =>
            obtain ⟨rfl, rfl⟩ := List.cons.inj hsplit
            obtain ⟨hk, himp⟩ := hbefore level List.mem_cons_self
            rw [hk, Option.none_or, if_neg himp]
            exact ih.2
              ⟨before, l, after, rfl, hl, fun k hk => hbefore k (List.mem_cons_of_mem _ hk)⟩

/-- A chain leaves a signature open exactly if some level hides a method of it and no level before
that implements the signature. -/
theorem exists_openHidden?_iff : (∃ m, u.openHidden? sig levels = some m) ↔
    ∃ before l after, levels = before ++ l :: after ∧
      (∃ m ∈ (u.get l).methods, m.isHidden = true ∧ u.signature m = sig) ∧
        ∀ k ∈ before, sig ∉ u.implementedAt k := by
  induction levels with
  | nil => simp [openHidden?]
  | cons level above ih =>
      constructor
      · rintro ⟨m, hm⟩
        obtain ⟨before, l, after, hsplit, hl, hbefore⟩ := openHidden?_eq_some_iff.1 hm
        exact ⟨before, l, after, hsplit, ⟨m, hiddenIn?_eq_some hl⟩, fun k hk => (hbefore k hk).2⟩
      · rintro ⟨before, l, after, hsplit, ⟨m, hm, hhidden, hsig⟩, hbefore⟩
        rw [openHidden?]
        cases hlevel : u.hiddenIn? sig level with
        | some o => exact ⟨o, Option.some_or⟩
        | none =>
            cases before with
            | nil =>
                obtain ⟨rfl, -⟩ := List.cons.inj hsplit
                exact absurd hsig (hiddenIn?_eq_none_iff.1 hlevel m hm hhidden)
            | cons k before =>
                obtain ⟨rfl, rfl⟩ := List.cons.inj hsplit
                rw [Option.none_or, if_neg (hbefore level List.mem_cons_self)]
                exact ih.2 ⟨before, l, after, rfl, ⟨m, hm, hhidden, hsig⟩,
                  fun k hk => hbefore k (List.mem_cons_of_mem _ hk)⟩

/-- What a chain leaves open is the first hidden method of the signature along it. -/
theorem find?_of_openHidden? (h : u.openHidden? sig levels = some m) :
    (levels.flatMap fun l => (u.get l).methods).find?
      (fun o => o.isHidden && u.signature o == sig) = some m := by
  obtain ⟨before, l, after, hsplit, hl, hbefore⟩ := openHidden?_eq_some_iff.1 h
  rw [List.find?_flatMap, List.findSome?_eq_some_iff]
  exact ⟨before, l, after, hsplit, hl, fun k hk => (hbefore k hk).1⟩

/-! ## All obligations -/

theorem mem_publicObligations_iff :
    m ∈ u.publicObligations t ↔ m ∈ u.publicMethods t ∧ m.isAbstract = true :=
  List.mem_filter

theorem mem_obligations_iff : m ∈ u.obligations t ↔
    m ∈ u.publicObligations t ∨ u.signature m ∉ (u.publicObligations t).map u.signature ∧
      u.openHidden? (u.signature m) (u.ancestors t) = some m := by
  rw [obligations, List.mem_append, mem_hiddenObligations_iff]

theorem nodup_signature_obligations (u : Universe) (t : TypeId) :
    ((u.obligations t).map u.signature).Nodup := by
  rw [obligations, List.map_append, List.nodup_append]
  refine ⟨(nodup_signature_publicMethods u t).sublist (List.filter_sublist.map _),
    nodup_signature_hiddenObligations u _ _, ?_⟩
  intro a ha b hb hab
  obtain ⟨m, hm, rfl⟩ := List.mem_map.1 hb
  exact (mem_hiddenObligations_iff.1 hm).1 (hab ▸ ha)

/-- Every obligation is declared by a supertype. -/
theorem exists_mem_supertypes_of_mem_obligations (h : m ∈ u.obligations t) :
    ∃ s ∈ u.supertypes t, m ∈ (u.get s).methods := by
  rcases mem_obligations_iff.1 h with h | ⟨-, h⟩
  · obtain ⟨before, d, after, hsplit, hd, -⟩ :=
      exists_split_of_mem_publicMethods (mem_publicObligations_iff.1 h).1
    exact ⟨d, by simp [hsplit], (mem_publicMethodsFrom_iff.1 hd).1⟩
  · obtain ⟨before, l, after, hsplit, hl, -⟩ := openHidden?_eq_some_iff.1 h
    have hmem : l ∈ u.ancestors t := hsplit ▸ by simp
    exact ⟨l, List.mem_append_left _ hmem, (hiddenIn?_eq_some hl).1⟩

theorem exists_mem_methods_of_mem_obligations (h : m ∈ u.obligations t) :
    ∃ s, m ∈ (u.get s).methods := by
  obtain ⟨s, -, hm⟩ := exists_mem_supertypes_of_mem_obligations h
  exact ⟨s, hm⟩

/-- Obligations are told apart by their signatures. -/
theorem eq_of_mem_obligations {o : Member} (hm : m ∈ u.obligations t) (ho : o ∈ u.obligations t)
    (h : u.signature m = u.signature o) : m = o :=
  List.inj_on_of_nodup_map (nodup_signature_obligations u t) hm ho h

/-! ## The characterization -/

/-- The public method of the signature is abstract. -/
def ExposesAbstract (u : Universe) (t : TypeId) (sig : Signature) : Prop :=
  ∃ m ∈ u.publicMethods t, u.signature m = sig ∧ m.isAbstract = true

/-- A class of the superclass chain hides a method of the signature, and no more derived class of
the chain implements the signature. -/
def LeavesOpen (u : Universe) (t : TypeId) (sig : Signature) : Prop :=
  ∃ l, Relation.ReflTransGen u.Extends t l ∧
    (∃ m ∈ (u.get l).methods, m.isAbstract = true ∧ m.isPublic = false ∧ u.signature m = sig) ∧
      ∀ k, Relation.ReflTransGen u.Extends t k → Relation.TransGen u.Extends k l →
        ∀ m ∈ (u.get k).methods, u.signature m = sig → m.isAbstract = true

/-- The first method of the signature along the superclass chain that is abstract and not
public. -/
def firstHidden? (u : Universe) (t : TypeId) (sig : Signature) : Option Member :=
  ((u.ancestors t).flatMap fun l => (u.get l).methods).find? fun m =>
    m.isHidden && u.signature m == sig

theorem mem_map_publicObligations_iff :
    sig ∈ (u.publicObligations t).map u.signature ↔ u.ExposesAbstract t sig := by
  simp only [List.mem_map, mem_publicObligations_iff, ExposesAbstract]
  constructor
  · rintro ⟨m, ⟨hm, habs⟩, hsig⟩
    exact ⟨m, hm, hsig, habs⟩
  · rintro ⟨m, hm, hsig, habs⟩
    exact ⟨m, ⟨hm, habs⟩, hsig⟩

/-- In an acyclic universe the levels before an ancestor are the classes below it, so that the
chain leaves open what the relation says. -/
theorem exists_openHidden?_ancestors_iff (hu : u.Acyclic) :
    (∃ m, u.openHidden? sig (u.ancestors t) = some m) ↔ u.LeavesOpen t sig := by
  rw [exists_openHidden?_iff]
  constructor
  · rintro ⟨before, l, after, hsplit, ⟨m, hm, hhidden, hsig⟩, hbefore⟩
    obtain ⟨habs, hpub⟩ := Member.isHidden_iff.1 hhidden
    refine ⟨l, (mem_ancestors_iff hu).1 (by simp [hsplit]), ⟨m, hm, habs, hpub, hsig⟩, ?_⟩
    intro k htk hkl
    have hk := (mem_before_iff_extends hu hsplit).2 ⟨(mem_ancestors_iff hu).2 htk, hkl⟩
    exact not_mem_implementedAt_iff.1 (hbefore k hk)
  · rintro ⟨l, htl, ⟨m, hm, habs, hpub, hsig⟩, hbelow⟩
    obtain ⟨before, after, hsplit⟩ := List.append_of_mem ((mem_ancestors_iff hu).2 htl)
    refine ⟨before, l, after, hsplit, ⟨m, hm, Member.isHidden_iff.2 ⟨habs, hpub⟩, hsig⟩, ?_⟩
    intro k hk
    obtain ⟨hmem, hkl⟩ := (mem_before_iff_extends hu hsplit).1 hk
    exact not_mem_implementedAt_iff.2 (hbelow k ((mem_ancestors_iff hu).1 hmem) hkl)

/-- The abstract methods of a type, signature by signature. The public methods that are abstract
come first. Behind them stands, for each other signature that the superclass chain leaves open, the
first hidden declaration of the chain. -/
theorem abstractMethods_characterized (hu : u.Acyclic)
    (hknown : ∀ s ∈ u.supertypes t, (u.get s).membersUnknown = false)
    (hopen : ∀ l, Relation.ReflTransGen u.Extends t l → (u.get l).isPrivate = false) :
    ∃ exposed hidden, u.abstractMethods t = .ok (exposed ++ hidden) ∧
      ((exposed ++ hidden).map u.signature).Nodup ∧
      (∀ sig, sig ∈ (exposed ++ hidden).map u.signature ↔
        u.ExposesAbstract t sig ∨ u.LeavesOpen t sig) ∧
      (∀ m ∈ exposed, m ∈ u.publicMethods t ∧ m.isAbstract = true) ∧
      (∀ m ∈ hidden, ¬ u.ExposesAbstract t (u.signature m) ∧
        u.firstHidden? t (u.signature m) = some m) := by
  refine ⟨u.publicObligations t, u.hiddenObligations ((u.publicObligations t).map u.signature)
    (u.ancestors t), ?_, nodup_signature_obligations u t, ?_, ?_, ?_⟩
  · exact abstractMethods_eq_ok_iff.2
      ⟨hknown, fun l hl => hopen l ((mem_ancestors_iff hu).1 hl), rfl⟩
  · intro sig
    rw [List.map_append, List.mem_append, mem_map_publicObligations_iff,
      ← exists_openHidden?_ancestors_iff hu]
    -- an exposed signature is settled before the walk along the chain starts
    by_cases hexp : u.ExposesAbstract t sig
    · simp only [hexp, true_or]
    · rw [or_iff_right hexp, or_iff_right hexp, List.mem_map]
      constructor
      · rintro ⟨m, hm, rfl⟩
        exact ⟨m, (mem_hiddenObligations_iff.1 hm).2⟩
      · rintro ⟨m, hm⟩
        obtain ⟨-, l, -, -, hl, -⟩ := openHidden?_eq_some_iff.1 hm
        obtain ⟨-, -, rfl⟩ := hiddenIn?_eq_some hl
        have hnew := mt mem_map_publicObligations_iff.1 hexp
        exact ⟨m, mem_hiddenObligations_iff.2 ⟨hnew, hm⟩, rfl⟩
  · intro m hm
    exact mem_publicObligations_iff.1 hm
  · intro m hm
    obtain ⟨hexp, hm⟩ := mem_hiddenObligations_iff.1 hm
    exact ⟨mt mem_map_publicObligations_iff.2 hexp, find?_of_openHidden? hm⟩

/-- A chain of three classes: the lowest declares the hidden method `f` anew that the one above it
implements, and the hidden `h` is made public by an interface. -/
def reopenedChain : Universe :=
  ⟨#[{ name := "I", canonical := "I", kind := .interfaceType
       methods := [{ name := "h", modifiers := ["public", "abstract"], declaring := some 0 }] },
     { name := "A", canonical := "A"
       methods :=
         [{ name := "f", modifiers := ["protected", "abstract"], declaring := some 1 },
           { name := "g", modifiers := ["abstract"], declaring := some 1 },
           { name := "h", modifiers := ["abstract"], declaring := some 1 }] },
     { name := "B", canonical := "B", superclass := some 1
       methods := [{ name := "f", modifiers := ["protected"], declaring := some 2 }] },
     { name := "C", canonical := "C", superclass := some 2, interfaces := [0]
       methods := [{ name := "f", modifiers := ["protected", "abstract"], declaring := some 3 }] }]⟩

/-- The hypotheses hold of `reopenedChain`, whose obligations are `h` of the interface, `f` of the
lowest class and `g` of the highest. -/
theorem abstractMethods_reopenedChain :
    reopenedChain.Acyclic ∧
      (∀ s ∈ reopenedChain.supertypes 3, (reopenedChain.get s).membersUnknown = false) ∧
      (∀ l, Relation.ReflTransGen reopenedChain.Extends 3 l →
        (reopenedChain.get l).isPrivate = false) ∧
      ∃ exposed hidden, reopenedChain.abstractMethods 3 = .ok (exposed ++ hidden) ∧
        ((exposed ++ hidden).map reopenedChain.signature).Nodup ∧
        (∀ sig, sig ∈ (exposed ++ hidden).map reopenedChain.signature ↔
          reopenedChain.ExposesAbstract 3 sig ∨ reopenedChain.LeavesOpen 3 sig) ∧
        (∀ m ∈ exposed, m ∈ reopenedChain.publicMethods 3 ∧ m.isAbstract = true) ∧
        (∀ m ∈ hidden, ¬ reopenedChain.ExposesAbstract 3 (reopenedChain.signature m) ∧
          reopenedChain.firstHidden? 3 (reopenedChain.signature m) = some m) := by
  have hacyclic : reopenedChain.Acyclic := acyclic_of_lt (by decide)
  have hsupertypes : reopenedChain.supertypes 3 = [3, 2, 1, 0] := by cbv
  have hancestors : reopenedChain.ancestors 3 = [3, 2, 1] := by decide
  have hknown : ∀ s ∈ reopenedChain.supertypes 3, (reopenedChain.get s).membersUnknown = false := by
    rw [hsupertypes]
    decide
  have hclasses : ∀ l ∈ [3, 2, 1], (reopenedChain.get l).isPrivate = false := by decide
  have hopen : ∀ l, Relation.ReflTransGen reopenedChain.Extends 3 l →
      (reopenedChain.get l).isPrivate = false := by
    intro l hl
    exact hclasses l (hancestors ▸ (mem_ancestors_iff hacyclic).2 hl)
  exact ⟨hacyclic, hknown, hopen, abstractMethods_characterized hacyclic hknown hopen⟩

end Universe

end Skeletal
