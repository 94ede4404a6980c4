import Mathlib.Data.List.Nodup
import Skeletal.Load.Declared

/-!
# Declared types

Declaring types only adds to the known ones, each under a name that is not taken and inside a type
that is known (`declareAll_invariant`). So canonical names are all different, and what a list of
declarations adds does not depend on types known before under other names (`declareAll_append`).
-/

set_option autoImplicit false

namespace Skeletal.Load

open Source (CompilationUnit TypeDeclaration TypeHeader)

variable {file : FileScope} {origin : Option String} {outer : Option Declared}
  {known acc : List Declared} {canonical : String}

theorem isTaken_eq_true_iff :
    isTaken known canonical = true ↔ canonical ∈ known.map Declared.canonical := by
  rw [isTaken, List.any_eq_true, List.mem_map]
  simp only [beq_iff_eq]

theorem isTaken_append :
    isTaken (known ++ acc) canonical = (isTaken known canonical || isTaken acc canonical) :=
  List.any_append

/-! ## Invariants -/

/-- The type is known and may surround types of a file with an origin. -/
structure Declared.Surrounds (file : FileScope) (origin : Option String) (known : List Declared)
    (o : Declared) : Prop where
  mem : o ∈ known
  file_eq : o.file = file
  origin_eq : o.origin = origin

theorem Declared.Surrounds.mono {o : Declared} (h : o.Surrounds file origin known)
    (hsubset : known ⊆ acc) : o.Surrounds file origin acc :=
  ⟨hsubset h.mem, h.file_eq, h.origin_eq⟩

theorem surrounds_ofHeader (file : FileScope) (origin : Option String) (known : List Declared)
    (outer : Option Declared) (header : TypeHeader) :
    ∀ o ∈ some (Declared.ofHeader file origin outer header),
      o.Surrounds file origin (known ++ [Declared.ofHeader file origin outer header]) := by
  intro o ho
  obtain rfl := Option.some.inj ho
  exact ⟨by simp, rfl, rfl⟩

/-- `P` is kept when a type is added whose name is not taken and whose surroundings are known. -/
def KeptByAddition (P : List Declared → Prop) : Prop :=
  ∀ file origin outer known header, (∀ o ∈ outer, o.Surrounds file origin known) → P known →
    isTaken known (Declared.ofHeader file origin outer header).canonical = false →
      P (known ++ [Declared.ofHeader file origin outer header])

mutual

theorem declare_invariant {P : List Declared → Prop} (hP : KeptByAddition P)
    (outer : Option Declared) (known : List Declared)
    (houter : ∀ o ∈ outer, o.Surrounds file origin known) (h : P known)
    (declaration : TypeDeclaration) :
    P (declare file origin outer known declaration) ∧
      known <+: declare file origin outer known declaration := by
  match declaration with
  | .mk header nested =>
      rw [declare]
      split_ifs with htaken
      · exact ⟨h, List.prefix_rfl⟩
      · have hadded := hP file origin outer known header houter h (Bool.eq_false_iff.2 htaken)
        obtain ⟨hall, hprefix⟩ := declareAll_invariant hP
          (some (Declared.ofHeader file origin outer header)) _
          (surrounds_ofHeader file origin known outer header) hadded nested
        exact ⟨hall, (List.prefix_append _ _).trans hprefix⟩

theorem declareAll_invariant {P : List Declared → Prop} (hP : KeptByAddition P)
    (outer : Option Declared) (known : List Declared)
    (houter : ∀ o ∈ outer, o.Surrounds file origin known) (h : P known)
    (declarations : List TypeDeclaration) :
    P (declareAll file origin outer known declarations) ∧
      known <+: declareAll file origin outer known declarations := by
  match declarations with
  | [] => exact ⟨h, List.prefix_rfl⟩
  | declaration :: rest =>
      obtain ⟨hfirst, hprefix⟩ := declare_invariant hP outer known houter h declaration
      obtain ⟨hall, hprefix'⟩ := declareAll_invariant hP outer _
        (fun o ho => (houter o ho).mono hprefix.subset) hfirst rest
      exact ⟨hall, hprefix.trans hprefix'⟩

end

/-- Types with different names, each declared at the top of its unit or inside one of them that is
of the same file. -/
structure WellDeclared (known : List Declared) : Prop where
  nodup : (known.map Declared.canonical).Nodup
  ofHeader : ∀ d ∈ known, ∃ outer header, d = Declared.ofHeader d.file d.origin outer header ∧
    ∀ o ∈ outer, o.Surrounds d.file d.origin known

theorem wellDeclared_nil : WellDeclared [] where
  nodup := List.nodup_nil
  ofHeader := fun _ hd => absurd hd List.not_mem_nil

theorem WellDeclared.enclosing (h : WellDeclared known) {d : Declared} (hd : d ∈ known) :
    ∀ name ∈ d.enclosing, name ∈ known.map Declared.canonical := by
  obtain ⟨outer, header, heq, houter⟩ := h.ofHeader d hd
  intro name hname
  rw [heq] at hname
  obtain ⟨o, ho, rfl⟩ := Option.map_eq_some_iff.1 hname
  exact List.mem_map_of_mem (houter o ho).mem

theorem WellDeclared.kind_eq (h : WellDeclared known) {d : Declared} (hd : d ∈ known) :
    d.kind = kindOf d.header.kind := by
  obtain ⟨outer, header, heq, -⟩ := h.ofHeader d hd
  rw [heq]
  rfl

theorem keptByAddition_wellDeclared : KeptByAddition WellDeclared := by
  intro file origin outer known header houter hknown hfree
  have hfree' := mt isTaken_eq_true_iff.2 (Bool.eq_false_iff.1 hfree)
  constructor
  · rw [List.map_append, List.nodup_append]
    refine ⟨hknown.nodup, List.nodup_singleton _, ?_⟩
    rintro name hname _ hlast rfl
    obtain rfl := List.mem_singleton.1 hlast
    exact hfree' hname
  · intro d hd
    have hsubset : known ⊆ known ++ [Declared.ofHeader file origin outer header] :=
      List.subset_append_left _ _
    rcases List.mem_append.1 hd with hd | hd
    · obtain ⟨outer', header', heq, houter'⟩ := hknown.ofHeader d hd
      exact ⟨outer', header', heq, fun o ho => (houter' o ho).mono hsubset⟩
    · obtain rfl := List.mem_singleton.1 hd
      exact ⟨outer, header, rfl, fun o ho => (houter o ho).mono hsubset⟩

theorem WellDeclared.declareUnit (h : WellDeclared known) (origin : Option String)
    (unit : CompilationUnit) : WellDeclared (declareUnit known origin unit) :=
  (declareAll_invariant keptByAddition_wellDeclared none known nofun h unit.types).1

/-! ## Declarations under other names -/

/-- No name of the added types is taken by a known one. -/
def Apart (known added : List Declared) : Prop :=
  ∀ d ∈ added, isTaken known d.canonical = false

/-- Declaring types keeps the known ones. -/
theorem prefix_declareAll (houter : ∀ o ∈ outer, o.Surrounds file origin known)
    (declarations : List TypeDeclaration) :
    known <+: declareAll file origin outer known declarations :=
  (declareAll_invariant (P := fun _ => True) (fun _ _ _ _ _ _ _ _ => trivial) outer known houter
    trivial declarations).2

theorem prefix_declare (houter : ∀ o ∈ outer, o.Surrounds file origin known)
    (declaration : TypeDeclaration) :
    known <+: declare file origin outer known declaration :=
  prefix_declareAll houter [declaration]

mutual

theorem declare_append (outer : Option Declared) (acc : List Declared)
    (declaration : TypeDeclaration)
    (h : Apart known (declare file origin outer acc declaration)) :
    declare file origin outer (known ++ acc) declaration =
      known ++ declare file origin outer acc declaration := by
  match declaration with
  | .mk header nested =>
      simp only [declare, isTaken_append] at h ⊢
      by_cases htaken : isTaken acc (Declared.ofHeader file origin outer header).canonical = true
      · rw [if_pos htaken, if_pos (by simp [htaken])]
      · rw [if_neg htaken] at h ⊢
        have hadded := surrounds_ofHeader file origin acc outer header
        -- the type itself is among the added ones
        have hfree := h _ ((prefix_declareAll hadded nested).subset (hadded _ rfl).mem)
        rw [if_neg (by simp [htaken, hfree]), List.append_assoc]
        exact declareAll_append _ _ hadded nested h

theorem declareAll_append (outer : Option Declared) (acc : List Declared)
    (houter : ∀ o ∈ outer, o.Surrounds file origin acc) (declarations : List TypeDeclaration)
    (h : Apart known (declareAll file origin outer acc declarations)) :
    declareAll file origin outer (known ++ acc) declarations =
      known ++ declareAll file origin outer acc declarations := by
  match declarations with
  | [] => rfl
  | declaration :: rest =>
      have houter' := fun o ho => (houter o ho).mono (prefix_declare houter declaration).subset
      have hfirst := declare_append outer acc declaration fun d hd =>
        h d ((prefix_declareAll houter' rest).subset hd)
      rw [declareAll, declareAll, hfirst]
      exact declareAll_append outer _ houter' rest h

end

/-- A unit adds the same types to any others that are apart from them. -/
theorem declareUnit_eq_append {unit : CompilationUnit}
    (h : Apart known (declareUnit [] origin unit)) :
    declareUnit known origin unit = known ++ declareUnit [] origin unit := by
  have happend := declareAll_append none [] nofun unit.types h
  rwa [List.append_nil] at happend

end Skeletal.Load
