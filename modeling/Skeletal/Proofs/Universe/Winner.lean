import Skeletal.Proofs.Universe.Hierarchy

/-!
# Winning declarations

For one signature the public method of a type is the first declaration that its supertypes
contribute (`mem_publicMethods_iff`): it stands in the first listed type that declares the
signature, and no type that is met before declares it (`exists_split_of_mem_publicMethods`).
Conversely the first type that declares a signature wins it (`exists_mem_publicMethods`).
-/

set_option autoImplicit false

namespace Skeletal.Universe

/-- `d` declares a public method of this signature that counts for `t`. Static methods of an
interface count for the interface alone. -/
def Declares (u : Universe) (t d : TypeId) (sig : Signature) : Prop :=
  ∃ m ∈ (u.get d).methods, m.isPublic = true ∧ u.signature m = sig ∧
    ¬ (m.isStatic = true ∧ (u.get d).isInterface = true ∧ d ≠ t)

variable {u : Universe} {t s d : TypeId} {m : Member} {sig : Signature}

/-! ## One member for each signature -/

/-- Of each signature the first member is kept. -/
theorem mem_firstOfSignature_iff {l : List Member} :
    m ∈ u.firstOfSignature l ↔ l.find? (fun o => u.signature o = u.signature m) = some m := by
  induction l with
  | nil => simp [firstOfSignature]
  | cons a rest ih =>
      rw [firstOfSignature, List.mem_cons, List.mem_filter, ih]
      -- if `a` has the signature it is found first, and the filter drops the others that have it
      by_cases ha : u.signature a = u.signature m
      · rw [List.find?_cons_of_pos (by simpa using ha), Option.some.injEq]
        constructor
        · rintro (h | ⟨-, h⟩)
          · exact h.symm
          · exact absurd ha.symm (of_decide_eq_true h)
        · intro h
          exact Or.inl h.symm
      · rw [List.find?_cons_of_neg (by simpa using ha)]
        constructor
        · rintro (h | ⟨h, -⟩)
          · exact absurd (congrArg u.signature h.symm) ha
          · exact h
        · intro h
          exact Or.inr ⟨h, decide_eq_true (Ne.symm ha)⟩

theorem nodup_signature_firstOfSignature (u : Universe) (l : List Member) :
    ((u.firstOfSignature l).map u.signature).Nodup := by
  induction l with
  | nil => exact List.nodup_nil
  | cons a rest ih =>
      rw [firstOfSignature, List.map_cons, List.nodup_cons]
      constructor
      · intro h
        obtain ⟨b, hb, hab⟩ := List.mem_map.1 h
        exact of_decide_eq_true (List.mem_filter.1 hb).2 hab
      · exact ih.sublist (List.filter_sublist.map u.signature)

/-- Leaving out signatures and keeping the first member of each may be done in any order. -/
theorem filter_firstOfSignature (u : Universe) (keep : Signature → Bool) (l : List Member) :
    (u.firstOfSignature l).filter (fun m => keep (u.signature m)) =
      u.firstOfSignature (l.filter fun m => keep (u.signature m)) := by
  induction l with
  | nil => rfl
  | cons a rest ih =>
      rw [firstOfSignature]
      by_cases ha : keep (u.signature a) = true
      · rw [List.filter_cons_of_pos (by exact ha), List.filter_cons_of_pos (by exact ha),
          List.filter_comm, ih, firstOfSignature]
      · rw [List.filter_cons_of_neg (by exact ha), List.filter_cons_of_neg (by exact ha),
          List.filter_comm, ih, List.filter_eq_self]
        -- the signature of `a` is left out, so its other members are gone already
        intro m hm
        rw [← ih] at hm
        have hkept : keep (u.signature m) = true := (List.mem_filter.1 hm).2
        apply decide_eq_true
        intro heq
        rw [heq] at hkept
        exact ha hkept

/-- Of one signature the first member is left. -/
theorem filter_firstOfSignature_eq (u : Universe) (sig : Signature) (l : List Member) :
    (u.firstOfSignature l).filter (fun m => u.signature m = sig) =
      (l.find? fun m => u.signature m = sig).toList := by
  induction l with
  | nil => rfl
  | cons a rest ih =>
      rw [firstOfSignature]
      by_cases ha : u.signature a = sig
      · rw [List.filter_cons_of_pos (by simpa using ha), List.find?_cons_of_pos (by simpa using ha),
          Option.toList_some, List.filter_filter, List.cons.injEq, List.filter_eq_nil_iff]
        refine ⟨rfl, ?_⟩
        intro m _ hm
        rw [ha] at hm
        simp at hm
      · rw [List.filter_cons_of_neg (by simpa using ha), List.find?_cons_of_neg (by simpa using ha),
          ← ih, List.filter_filter]
        -- the members of another signature are not affected by `a`
        apply List.filter_congr
        intro m _
        by_cases hm : u.signature m = sig
        · simp [hm, Ne.symm ha]
        · simp [hm]

/-! ## Public methods -/

theorem mem_publicMethodsFrom_iff : m ∈ u.publicMethodsFrom t d ↔
    m ∈ (u.get d).methods ∧ m.isPublic = true ∧
      ¬ (m.isStatic = true ∧ (u.get d).isInterface = true ∧ d ≠ t) := by
  rw [publicMethodsFrom, List.mem_filter, Bool.and_eq_true, Bool.not_eq_true', ← Bool.not_eq_true,
    Bool.and_eq_true, Bool.and_eq_true, bne_iff_ne, and_assoc]

theorem declares_iff : u.Declares t d sig ↔ ∃ m ∈ u.publicMethodsFrom t d, u.signature m = sig := by
  simp only [Declares, mem_publicMethodsFrom_iff]
  constructor
  · rintro ⟨m, hm, hpub, hsig, hstatic⟩
    exact ⟨m, ⟨hm, hpub, hstatic⟩, hsig⟩
  · rintro ⟨m, ⟨hm, hpub, hstatic⟩, hsig⟩
    exact ⟨m, hm, hpub, hsig, hstatic⟩

/-- The declaration that a type contributes for a signature. -/
def contribution? (u : Universe) (t : TypeId) (sig : Signature) (d : TypeId) : Option Member :=
  (u.publicMethodsFrom t d).find? fun m => u.signature m = sig

theorem contribution?_eq_none_iff : u.contribution? t sig d = none ↔ ¬ u.Declares t d sig := by
  rw [contribution?, List.find?_eq_none, declares_iff]
  simp

theorem signature_of_contribution? (h : u.contribution? t sig d = some m) :
    m ∈ u.publicMethodsFrom t d ∧ u.signature m = sig :=
  ⟨List.mem_of_find?_eq_some h, by simpa using List.find?_some h⟩

/-- The public methods are the first contributions along the supertypes. -/
theorem mem_publicMethods_iff : m ∈ u.publicMethods t ↔
    (u.supertypes t).findSome? (u.contribution? t (u.signature m)) = some m := by
  rw [publicMethods, mem_firstOfSignature_iff, List.find?_flatMap]
  rfl

/-- A public method stands in the first supertype that declares its signature. -/
theorem exists_split_of_mem_publicMethods (h : m ∈ u.publicMethods t) :
    ∃ before d after, u.supertypes t = before ++ d :: after ∧ m ∈ u.publicMethodsFrom t d ∧
      ∀ c ∈ before, ¬ u.Declares t c (u.signature m) := by
  obtain ⟨before, d, after, hsplit, hd, hbefore⟩ :=
    List.findSome?_eq_some_iff.1 (mem_publicMethods_iff.1 h)
  exact ⟨before, d, after, hsplit, (signature_of_contribution? hd).1,
    fun c hc => contribution?_eq_none_iff.1 (hbefore c hc)⟩

/-- The first supertype that declares a signature wins it. -/
theorem exists_mem_publicMethods {before after : List TypeId}
    (hsplit : u.supertypes t = before ++ d :: after) (hd : u.Declares t d sig)
    (hbefore : ∀ c ∈ before, ¬ u.Declares t c sig) :
    ∃ m ∈ u.publicMethods t, m ∈ u.publicMethodsFrom t d ∧ u.signature m = sig := by
  obtain ⟨m, hm⟩ := Option.ne_none_iff_exists'.1 fun h => contribution?_eq_none_iff.1 h hd
  obtain ⟨hmem, hsig⟩ := signature_of_contribution? hm
  refine ⟨m, mem_publicMethods_iff.2 (List.findSome?_eq_some_iff.2 ⟨before, d, after, hsplit, ?_⟩),
    hmem, hsig⟩
  rw [hsig]
  exact ⟨hm, fun c hc => contribution?_eq_none_iff.2 (hbefore c hc)⟩

theorem nodup_signature_publicMethods (u : Universe) (t : TypeId) :
    ((u.publicMethods t).map u.signature).Nodup :=
  nodup_signature_firstOfSignature u _

end Skeletal.Universe
