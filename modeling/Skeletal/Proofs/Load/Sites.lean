import Skeletal.Proofs.Load.Units

/-!
# Declaration sites

All type declarations of source units, whether they are kept or dropped, in the order of their
texts. A declaration is known by its path, so that two of one name are told apart. Of the
declarations of one name that are nested in no dropped one the first is kept
(`Keeps.mem_iff_first`), and what is kept is what the units declare (`exists_keeps`).
-/

set_option autoImplicit false

namespace Skeletal

namespace Load

open Source (TypeDeclaration)

/-- A declaration at its place in the texts. The path leads there from the inside: the number of
the declaration among those beside it, then the numbers of those around it, and the number of the
unit last. -/
structure Site where
  path : List Nat
  declared : Declared

namespace Site

/-- Canonical name that the declaration claims. -/
def canonical (s : Site) : String := s.declared.canonical

/-- The first declaration is nested in the second one, at any depth. -/
def Inside (s o : Site) : Prop := o.path <:+ s.path ∧ o.path ≠ s.path

/-- The declaration is nested in no dropped one. -/
def Reached (sites kept : List Site) (s : Site) : Prop := ∀ o ∈ sites, s.Inside o → o ∈ kept

theorem not_inside_self (s : Site) : ¬ s.Inside s := fun h => h.2 rfl

theorem Inside.asymm {s o : Site} (h : s.Inside o) : ¬ o.Inside s := by
  intro h'
  exact h.2 (h.1.eq_of_length_le h'.1.length_le)

/-- What is below different numbers of one path is apart. -/
theorem apart_of_suffix {path : List Nat} {i j : Nat} (hij : i ≠ j) {s o : Site}
    (hs : (i :: path) <:+ s.path) (ho : (j :: path) <:+ o.path) :
    s ≠ o ∧ ¬ s.Inside o ∧ ¬ o.Inside s := by
  have hne : ∀ {p : List Nat}, (i :: path) <:+ p → ¬ (j :: path) <:+ p := by
    intro p hi hj
    have heq : i :: path = j :: path :=
      (List.suffix_of_suffix_length_le hi hj (by simp)).eq_of_length (by simp)
    exact hij (List.cons.inj heq).1
  refine ⟨?_, fun h => hne hs (ho.trans h.1), fun h => hne (hs.trans h.1) ho⟩
  rintro rfl
  exact hne hs ho

end Site

/-! ## Sites of declarations -/

mutual

/-- Sites of a declaration and of those nested in it, outer ones first. -/
def sitesOf (file : FileScope) (origin : Option String) (outer : Option Declared)
    (path : List Nat) : TypeDeclaration → List Site
  | .mk header nested =>
    let d := Declared.ofHeader file origin outer header
    ⟨path, d⟩ :: sitesOfAll file origin (some d) path 0 nested

/-- Sites of several declarations, numbered from `index` on. -/
def sitesOfAll (file : FileScope) (origin : Option String) (outer : Option Declared)
    (path : List Nat) (index : Nat) : List TypeDeclaration → List Site
  | [] => []
  | declaration :: rest =>
    sitesOf file origin outer (index :: path) declaration ++
      sitesOfAll file origin outer path (index + 1) rest

end

variable {file : FileScope} {origin : Option String} {outer : Option Declared}
  {known : List Declared} {path : List Nat} {index : Nat} {s d : Site}
  {sites sites' kept kept' before after : List Site} {taken : List String}

mutual

theorem suffix_of_mem_sitesOf (outer : Option Declared) (path : List Nat)
    (declaration : TypeDeclaration) (h : s ∈ sitesOf file origin outer path declaration) :
    path <:+ s.path := by
  match declaration with
  | .mk header nested =>
      rcases List.mem_cons.1 h with rfl | h
      · exact List.suffix_rfl
      · obtain ⟨i, -, hi⟩ := suffix_of_mem_sitesOfAll _ path 0 nested h
        exact (List.suffix_cons i path).trans hi

theorem suffix_of_mem_sitesOfAll (outer : Option Declared) (path : List Nat) (index : Nat)
    (declarations : List TypeDeclaration)
    (h : s ∈ sitesOfAll file origin outer path index declarations) :
    ∃ i, index ≤ i ∧ (i :: path) <:+ s.path := by
  match declarations with
  | [] => exact absurd h List.not_mem_nil
  | declaration :: rest =>
      rcases List.mem_append.1 h with h | h
      · exact ⟨index, Nat.le_refl index, suffix_of_mem_sitesOf outer _ declaration h⟩
      · obtain ⟨i, hi, hs⟩ := suffix_of_mem_sitesOfAll outer path _ rest h
        exact ⟨i, Nat.le_of_succ_le hi, hs⟩

end

/-- What a declaration nests is inside it. -/
theorem inside_of_mem_sitesOfAll {declarations : List TypeDeclaration} {declared : Declared}
    (h : s ∈ sitesOfAll file origin outer path index declarations) :
    s.Inside ⟨path, declared⟩ := by
  obtain ⟨i, -, hs⟩ := suffix_of_mem_sitesOfAll outer path index declarations h
  refine ⟨(List.suffix_cons i path).trans hs, fun heq => ?_⟩
  have hlength := hs.length_le
  rw [← heq, List.length_cons] at hlength
  exact Nat.not_succ_le_self _ hlength

/-! ## Kept declarations -/

/-- Declarations that are kept of some others: those in no dropped one whose names are new. A name
is not new if it was taken before or is that of a kept declaration before. -/
structure Keeps (taken : List String) (sites kept : List Site) : Prop where
  sublist : kept.Sublist sites
  mem_iff : ∀ before s after, sites = before ++ s :: after →
    (s ∈ kept ↔ s.Reached sites kept ∧ s.canonical ∉ taken ∧
      ∀ e ∈ before, e ∈ kept → e.canonical ≠ s.canonical)

theorem keeps_nil (taken : List String) : Keeps taken [] [] where
  sublist := List.Sublist.refl _
  mem_iff before s after h := by simp at h

/-- A declaration with a new name is kept, and so are those in it whose names are new as well. -/
theorem Keeps.cons (hnew : d.canonical ∉ taken) (hinside : ∀ s ∈ sites, s.Inside d)
    (h : Keeps (taken ++ [d.canonical]) sites kept) : Keeps taken (d :: sites) (d :: kept) where
  sublist := h.sublist.cons_cons d
  mem_iff before s after hsplit := by
    have hne : ∀ e ∈ sites, e ≠ d := fun e he heq => d.not_inside_self (heq ▸ hinside e he)
    rcases List.cons_eq_append_iff.1 hsplit with ⟨rfl, hs⟩ | ⟨before, rfl, hrest⟩
    · obtain ⟨rfl, rfl⟩ := List.cons.inj hs
      refine iff_of_true List.mem_cons_self ⟨?_, hnew, fun e he => absurd he List.not_mem_nil⟩
      intro o ho hinside'
      rcases List.mem_cons.1 ho with rfl | ho
      · exact List.mem_cons_self
      · exact absurd hinside' (hinside o ho).asymm
    · have hs : s ∈ sites := by rw [hrest]; simp
      have hbefore : ∀ e ∈ before, e ∈ sites := fun e he => by rw [hrest]; simp [he]
      simp only [List.mem_cons, hne s hs, false_or, h.mem_iff before s after hrest,
        List.mem_append, List.not_mem_nil, or_false, not_or]
      constructor
      · rintro ⟨hreached, ⟨htaken, hd⟩, hfirst⟩
        refine ⟨?_, htaken, ?_⟩
        · intro o ho hso
          rcases List.mem_cons.1 ho with rfl | ho
          · exact List.mem_cons_self
          · exact List.mem_cons_of_mem d (hreached o ho hso)
        · rintro e (rfl | he) hkept
          · exact Ne.symm hd
          · exact hfirst e he (hkept.resolve_left (hne e (hbefore e he)))
      · rintro ⟨hreached, htaken, hfirst⟩
        refine ⟨fun o ho hso => ?_, ⟨htaken, ?_⟩, fun e he hkept => ?_⟩
        · have hkept := hreached o (List.mem_cons_of_mem d ho) hso
          exact (List.mem_cons.1 hkept).resolve_left (hne o ho)
        · exact (hfirst d (Or.inl rfl) (Or.inl rfl)).symm
        · exact hfirst e (Or.inr he) (Or.inr hkept)

/-- A declaration whose name is taken is dropped with all that is inside it. -/
theorem keeps_dropped (htaken : d.canonical ∈ taken) (hinside : ∀ s ∈ sites, s.Inside d) :
    Keeps taken (d :: sites) [] where
  sublist := List.nil_sublist _
  mem_iff before s after hsplit := by
    refine iff_of_false List.not_mem_nil ?_
    rintro ⟨hreached, hnew, -⟩
    have hs : s ∈ d :: sites := by rw [hsplit]; simp
    rcases List.mem_cons.1 hs with rfl | hs
    · exact hnew htaken
    · exact List.not_mem_nil (hreached d List.mem_cons_self (hinside s hs))

/-- No declaration of the first list is one of the second, inside one of them or around one. -/
def ApartSites (sites sites' : List Site) : Prop :=
  ∀ s ∈ sites, ∀ o ∈ sites', s ≠ o ∧ ¬ s.Inside o ∧ ¬ o.Inside s

namespace ApartSites

theorem mem_left (hapart : ApartSites sites sites') (hkept : kept' ⊆ sites') (hs : s ∈ sites) :
    s ∈ kept ++ kept' ↔ s ∈ kept := by
  rw [List.mem_append, or_iff_left]
  exact fun hs' => (hapart s hs s (hkept hs')).1 rfl

theorem mem_right (hapart : ApartSites sites sites') (hkept : kept ⊆ sites) (hs : s ∈ sites') :
    s ∈ kept ++ kept' ↔ s ∈ kept' := by
  rw [List.mem_append, or_iff_right]
  exact fun hs' => (hapart s (hkept hs') s hs).1 rfl

end ApartSites

/-- Whether a declaration of the first list is kept does not depend on the second list. -/
theorem Keeps.mem_iff_left (h : Keeps taken sites kept) (hkept : kept' ⊆ sites')
    (hapart : ApartSites sites sites') (hsplit : sites = before ++ s :: after) :
    s ∈ kept ++ kept' ↔ s.Reached (sites ++ sites') (kept ++ kept') ∧
      s.canonical ∉ taken ∧ ∀ e ∈ before, e ∈ kept ++ kept' → e.canonical ≠ s.canonical := by
  have hs : s ∈ sites := by simp [hsplit]
  rw [hapart.mem_left hkept hs, h.mem_iff before s after hsplit]
  refine and_congr ?_ (and_congr_right fun _ => forall₂_congr fun e he => ?_)
  · constructor
    · intro hreached o ho hso
      rcases List.mem_append.1 ho with ho | ho
      · exact List.mem_append_left _ (hreached o ho hso)
      · exact absurd hso (hapart s hs o ho).2.1
    · intro hreached o ho hso
      exact (hapart.mem_left hkept ho).1 (hreached o (List.mem_append_left _ ho) hso)
  · rw [hapart.mem_left hkept (by simp [hsplit, he])]

/-- For a declaration of the second list the names kept in the first are taken. -/
theorem Keeps.mem_iff_right (h : Keeps (taken ++ kept.map Site.canonical) sites' kept')
    (hkept : kept ⊆ sites) (hapart : ApartSites sites sites')
    (hsplit : sites' = before ++ s :: after) :
    s ∈ kept ++ kept' ↔ s.Reached (sites ++ sites') (kept ++ kept') ∧ s.canonical ∉ taken ∧
        ∀ e ∈ sites ++ before, e ∈ kept ++ kept' → e.canonical ≠ s.canonical := by
  have hs : s ∈ sites' := by simp [hsplit]
  have hbefore : ∀ e ∈ before, e ∈ sites' := fun e he => by simp [hsplit, he]
  rw [hapart.mem_right hkept hs, h.mem_iff before s after hsplit, List.mem_append, not_or]
  constructor
  · rintro ⟨hreached, ⟨htaken, hnew⟩, hfirst⟩
    refine ⟨fun o ho hso => ?_, htaken, fun e he he' hname => ?_⟩
    · rcases List.mem_append.1 ho with ho | ho
      · exact absurd hso (hapart o ho s hs).2.2
      · exact List.mem_append_right _ (hreached o ho hso)
    · rcases List.mem_append.1 he with he | he
      · have hkept' := (hapart.mem_left h.sublist.subset he).1 he'
        exact hnew (List.mem_map.2 ⟨e, hkept', hname⟩)
      · exact hfirst e he ((hapart.mem_right hkept (hbefore e he)).1 he') hname
  · rintro ⟨hreached, htaken, hfirst⟩
    refine ⟨fun o ho hso => ?_, ⟨htaken, ?_⟩, fun e he he' => ?_⟩
    · exact (hapart.mem_right hkept ho).1 (hreached o (List.mem_append_right _ ho) hso)
    · rw [List.mem_map]
      rintro ⟨e, he, hname⟩
      exact hfirst e (List.mem_append_left _ (hkept he)) (List.mem_append_left _ he) hname
    · exact hfirst e (List.mem_append_right _ he) (List.mem_append_right _ he')

/-- Declarations that are apart are kept one after another. -/
theorem Keeps.append (h : Keeps taken sites kept)
    (h' : Keeps (taken ++ kept.map Site.canonical) sites' kept')
    (hapart : ApartSites sites sites') : Keeps taken (sites ++ sites') (kept ++ kept') where
  sublist := h.sublist.append h'.sublist
  mem_iff before s after hsplit := by
    rcases List.append_eq_append_iff.1 hsplit with ⟨mid, rfl, hmid⟩ | ⟨mid, hmid, hrest⟩
    · exact h'.mem_iff_right h.sublist.subset hapart hmid
    · rcases List.cons_eq_append_iff.1 hrest with ⟨rfl, hnil⟩ | ⟨mid, rfl, -⟩
      · rw [List.append_nil] at hmid
        subst hmid
        have hsites : sites' = [] ++ s :: after := hnil
        have hright := h'.mem_iff_right h.sublist.subset hapart hsites
        rwa [List.append_nil] at hright
      · exact h.mem_iff_left h'.sublist.subset hapart hmid

/-- A declaration is kept if it is in no dropped one and the first of its name to be in none. -/
theorem Keeps.mem_iff_first (h : Keeps [] sites kept) (hsplit : sites = before ++ s :: after) :
    s ∈ kept ↔ s.Reached sites kept ∧
      ∀ e ∈ before, e.Reached sites kept → e.canonical ≠ s.canonical := by
  rw [h.mem_iff before s after hsplit]
  refine and_congr_right fun _ => ?_
  constructor
  · rintro ⟨-, hfirst⟩ e he hreached hname
    obtain ⟨before', after', hbefore⟩ := List.append_of_mem he
    have hsplit' : sites = before' ++ e :: (after' ++ s :: after) := by simp [hsplit, hbefore]
    -- if it is not kept itself, its name is that of a kept one before it
    have hkept : e ∉ kept := fun hkept => hfirst e he hkept hname
    rw [h.mem_iff before' e _ hsplit', not_and, not_and, not_forall₂] at hkept
    obtain ⟨e', he', hname'⟩ := hkept hreached List.not_mem_nil
    rw [not_forall, exists_prop, not_not] at hname'
    exact hfirst e' (by simp [hbefore, he']) hname'.1 (hname'.2.trans hname)
  · refine fun hfirst => ⟨List.not_mem_nil, fun e he hkept => hfirst e he ?_⟩
    obtain ⟨before', after', hbefore⟩ := List.append_of_mem he
    have hsplit' : sites = before' ++ e :: (after' ++ s :: after) := by simp [hsplit, hbefore]
    exact ((h.mem_iff before' e _ hsplit').1 hkept).1

/-! ## What is declared -/

/-- Canonical names of known types with those of kept declarations. -/
theorem map_canonical_append (known : List Declared) (kept : List Site) :
    (known ++ kept.map Site.declared).map Declared.canonical =
      known.map Declared.canonical ++ kept.map Site.canonical := by
  rw [List.map_append, List.map_map]
  rfl

mutual

theorem exists_keeps_sitesOf (outer : Option Declared) (path : List Nat) (known : List Declared)
    (declaration : TypeDeclaration) :
    ∃ kept, Keeps (known.map Declared.canonical) (sitesOf file origin outer path declaration) kept ∧
      declare file origin outer known declaration = known ++ kept.map Site.declared := by
  match declaration with
  | .mk header nested =>
      rw [declare, sitesOf]
      have hinside : ∀ s ∈ sitesOfAll file origin (some (Declared.ofHeader file origin outer header))
          path 0 nested, s.Inside ⟨path, Declared.ofHeader file origin outer header⟩ :=
        fun s hs => inside_of_mem_sitesOfAll hs
      split_ifs with htaken
      · refine ⟨[], keeps_dropped (isTaken_eq_true_iff.1 htaken) hinside, ?_⟩
        rw [List.map_nil, List.append_nil]
      · obtain ⟨kept, hkeeps, hdeclare⟩ := exists_keeps_sitesOfAll
          (some (Declared.ofHeader file origin outer header)) path 0
          (known ++ [Declared.ofHeader file origin outer header]) nested
        rw [List.map_append] at hkeeps
        refine ⟨_, hkeeps.cons (mt isTaken_eq_true_iff.2 htaken) hinside, ?_⟩
        rw [hdeclare, List.append_assoc]
        rfl

theorem exists_keeps_sitesOfAll (outer : Option Declared) (path : List Nat) (index : Nat)
    (known : List Declared) (declarations : List TypeDeclaration) :
    ∃ kept, Keeps (known.map Declared.canonical)
        (sitesOfAll file origin outer path index declarations) kept ∧
      declareAll file origin outer known declarations = known ++ kept.map Site.declared := by
  match declarations with
  | [] => exact ⟨[], keeps_nil _, (List.append_nil known).symm⟩
  | declaration :: rest =>
      rw [declareAll, sitesOfAll]
      obtain ⟨kept, hkeeps, hdeclare⟩ := exists_keeps_sitesOf outer (index :: path) known declaration
      obtain ⟨kept', hkeeps', hdeclare'⟩ := exists_keeps_sitesOfAll outer path (index + 1)
        (declare file origin outer known declaration) rest
      rw [hdeclare, map_canonical_append] at hkeeps'
      refine ⟨kept ++ kept', hkeeps.append hkeeps' ?_, ?_⟩
      · intro s hs o ho
        obtain ⟨i, hi, ho⟩ := suffix_of_mem_sitesOfAll outer path _ rest ho
        exact Site.apart_of_suffix (Nat.ne_of_lt hi)
          (suffix_of_mem_sitesOf outer _ declaration hs) ho
      · rw [hdeclare', hdeclare, List.map_append, List.append_assoc]

end

end Load

open Load

namespace SourceUnit

/-- Sites of the declarations of a unit with a number; a unit that does not parse has none. -/
def sites (number : Nat) (unit : SourceUnit) : List Site :=
  match Source.parse unit.code with
  | .ok content =>
    sitesOfAll (FileScope.ofUnit content) unit.origin none [number] 0 content.types
  | .error _ => []

theorem suffix_of_mem_sites {number : Nat} {unit : SourceUnit} {s : Site}
    (h : s ∈ unit.sites number) : [number] <:+ s.path := by
  rw [sites] at h
  split at h
  · obtain ⟨i, -, hi⟩ := suffix_of_mem_sitesOfAll _ _ _ _ h
    exact (List.suffix_cons i _).trans hi
  · exact absurd h List.not_mem_nil

theorem exists_keeps_sites (number : Nat) (unit : SourceUnit) (known : List Declared) :
    ∃ kept, Keeps (known.map Declared.canonical) (unit.sites number) kept ∧
      unit.addTo known = known ++ kept.map Site.declared := by
  rw [addTo, sites]
  cases Source.parse unit.code with
  | ok content => exact exists_keeps_sitesOfAll none _ 0 known content.types
  | error e => exact ⟨[], keeps_nil _, (List.append_nil known).symm⟩

end SourceUnit

/-- Sites of the declarations of all units, which are numbered from `number` on. -/
def sitesFrom (number : Nat) : List SourceUnit → List Site
  | [] => []
  | unit :: rest => unit.sites number ++ sitesFrom (number + 1) rest

theorem suffix_of_mem_sitesFrom {number : Nat} {units : List SourceUnit} {s : Site}
    (h : s ∈ sitesFrom number units) : ∃ i, number ≤ i ∧ [i] <:+ s.path := by
  induction units generalizing number with
  | nil => exact absurd h List.not_mem_nil
  | cons unit rest ih =>
      rcases List.mem_append.1 h with h | h
      · exact ⟨number, Nat.le_refl number, SourceUnit.suffix_of_mem_sites h⟩
      · obtain ⟨i, hi, hs⟩ := ih h
        exact ⟨i, Nat.le_of_succ_le hi, hs⟩

/-- What is known after a reading are the kept declarations of the units. -/
theorem exists_keeps (number : Nat) (units : List SourceUnit) (known : List Declared) :
    ∃ kept, Keeps (known.map Declared.canonical) (sitesFrom number units) kept ∧
      units.foldl SourceUnit.addTo known = known ++ kept.map Site.declared := by
  induction units generalizing number known with
  | nil => exact ⟨[], keeps_nil _, (List.append_nil known).symm⟩
  | cons unit rest ih =>
      obtain ⟨kept, hkeeps, hunit⟩ := unit.exists_keeps_sites number known
      obtain ⟨kept', hkeeps', hrest⟩ := ih (number + 1) (unit.addTo known)
      rw [hunit, map_canonical_append] at hkeeps'
      refine ⟨kept ++ kept', hkeeps.append hkeeps' ?_, ?_⟩
      · intro s hs o ho
        obtain ⟨i, hi, ho⟩ := suffix_of_mem_sitesFrom ho
        exact Site.apart_of_suffix (Nat.ne_of_lt hi) (SourceUnit.suffix_of_mem_sites hs) ho
      · rw [List.foldl_cons, hrest, hunit, List.map_append, List.append_assoc]

end Skeletal
