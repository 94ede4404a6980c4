import Mathlib.Data.List.DropRight
import Skeletal.Proofs.Load.Resolution
import Skeletal.Proofs.Load.Spelling

/-!
# Names of loaded types

Where simple names have no dollar sign, the binary name of a type determines its canonical name: it
is read with points for the dollar signs after its last point (`WellDeclared.dotted_binary`), which
leaves a canonical name as it is. So a binary name is that of one type only, and no other type has
it as its canonical name. Both names are resolved to the type, and with pairs of brackets to arrays
over it, in whatever way they are spelled; the name of such an array is resolved to its like
(`Registry.resolve_spelling`).
-/

set_option autoImplicit false

namespace Skeletal

open Load
open Text (isAllBlank)

variable {known : List Declared} {skipped : List SkippedSource} {d e : Declared} {name : String}
  {cs : List Char}

namespace Load

/-! ## Induction on the depth -/

/-- What holds of the types at the top of their units, and of a type nested in one that it holds of,
holds of all types. -/
theorem WellDeclared.induction (h : WellDeclared known) {P : Declared → Prop}
    (top : ∀ d ∈ known, d.canonical = qualify d.file.package d.header.name →
      d.binary = d.canonical → P d)
    (nested : ∀ d ∈ known, ∀ o ∈ known, P o → d.canonical = o.canonical ++ "." ++ d.header.name →
      d.binary = o.binary ++ "$" ++ d.header.name → P d) :
    ∀ d ∈ known, P d := by
  -- a type has one level more than the type around it
  have hlevels : ∀ n, ∀ d ∈ known, d.levels.length = n → P d := by
    intro n
    induction n using Nat.strong_induction_on with
    | h n ih =>
        intro d hd hn
        obtain ⟨outer, header, heq, houter⟩ := h.ofHeader d hd
        cases outer with
        | none => exact top d hd (by rw [heq]; rfl) (by rw [heq]; rfl)
        | some o =>
            have hlt : o.levels.length < n := by
              rw [← hn, heq]
              exact Nat.lt_succ_self _
            exact nested d hd o (houter o rfl).mem (ih _ hlt o (houter o rfl).mem rfl)
              (by rw [heq]; rfl) (by rw [heq]; rfl)
  exact fun d hd => hlevels _ d hd rfl

/-- Canonical and binary names are solid. -/
theorem WellDeclared.isSolid (h : WellDeclared known) :
    ∀ d ∈ known, Registry.IsSolid d.canonical ∧ Registry.IsSolid d.binary := by
  have hname : ∀ d : Declared, Registry.IsSolid d.header.name :=
    fun d => Registry.isSolid_of_isIdentifier d.header.isIdentifier_name
  have hafter : ∀ {o separator : String} {d : Declared}, Registry.IsSolid o →
      (∀ c ∈ separator.toList, Registry.IsSolidChar c) →
        Registry.IsSolid (o ++ separator ++ d.header.name) := by
    intro o separator d ho hseparator
    refine (hname d).append fun c hc => ?_
    rw [String.toList_append, List.mem_append] at hc
    exact hc.elim (ho.chars c) (hseparator c)
  refine h.induction ?_ ?_
  · intro d hd hcanonical hbinary
    have hsolid : Registry.IsSolid d.canonical := by
      rw [hcanonical, qualify]
      split_ifs
      · exact hname d
      · refine (hname d).append fun c hc => ?_
        rw [String.toList_append, List.mem_append] at hc
        rcases hc with hc | hc
        · exact Registry.isSolidChar_of_mem_package d.file.isPackageName_package c hc
        · rw [List.mem_singleton.1 hc]
          exact Registry.isSolidChar_point
    exact ⟨hsolid, hbinary ▸ hsolid⟩
  · rintro d hd o - ⟨hcanonical, hbinary⟩ heq heq'
    -- a name is continued by a separator, which is solid in both kinds of names
    rw [heq, heq']
    refine ⟨hafter hcanonical ?_, hafter hbinary ?_⟩
    · intro c hc
      rw [List.mem_singleton.1 hc]
      exact Registry.isSolidChar_point
    · intro c hc
      rw [List.mem_singleton.1 hc]
      exact Registry.isSolidChar_of_isIdentifierPart (by decide +kernel)

/-! ## Binary names read as canonical ones -/

/-- A point for the dollar sign. -/
def pointForDollar (c : Char) : Char := if c = '$' then '.' else c

/-- Characters of a name with points for the dollar signs after the last point. -/
def dotted (cs : List Char) : List Char :=
  cs.rdropWhile (· ≠ '.') ++ (cs.rtakeWhile (· ≠ '.')).map pointForDollar

theorem map_pointForDollar (h : '$' ∉ cs) : cs.map pointForDollar = cs := by
  refine (List.map_congr_left fun c hc => ?_).trans (List.map_id cs)
  rw [pointForDollar, if_neg]
  · rfl
  · rintro rfl
    exact h hc

theorem dotted_append {word : List Char} (h : '.' ∉ word) (cs : List Char) :
    dotted (cs ++ word) = dotted cs ++ word.map pointForDollar := by
  have hall : ∀ c ∈ word.reverse, decide (c ≠ '.') = true := by
    intro c hc
    rw [decide_eq_true_eq]
    rintro rfl
    exact h (List.mem_reverse.1 hc)
  simp only [dotted, List.rdropWhile, List.rtakeWhile, List.reverse_append,
    List.dropWhile_append_of_pos hall, List.takeWhile_append_of_pos hall, List.reverse_reverse,
    List.map_append, List.append_assoc]

theorem dotted_point (cs : List Char) : dotted (cs ++ ['.']) = cs ++ ['.'] := by
  simp [dotted, List.rdropWhile, List.rtakeWhile]

/-- A name that ends in a word without points and dollar signs keeps the word. -/
theorem dotted_append_plain {word : List Char} (hpoint : '.' ∉ word) (hplain : '$' ∉ word)
    (cs : List Char) : dotted (cs ++ word) = dotted cs ++ word := by
  rw [dotted_append hpoint, map_pointForDollar hplain]

/-- A word after a dollar sign is read as a word after a point. -/
theorem dotted_append_dollar {word : List Char} (hpoint : '.' ∉ word) (hplain : '$' ∉ word)
    (cs : List Char) : dotted (cs ++ ['$'] ++ word) = dotted cs ++ ['.'] ++ word := by
  rw [dotted_append_plain hpoint hplain, dotted_append (by decide)]
  rfl

section

variable (h : WellDeclared known) (hplain : ∀ d ∈ known, '$' ∉ d.header.name.toList)

include h hplain

/-- A canonical name is read as itself, and a binary name as the canonical one. -/
theorem WellDeclared.dotted_binary : ∀ d ∈ known, dotted d.canonical.toList = d.canonical.toList ∧
    dotted d.binary.toList = d.canonical.toList := by
  -- a point is no part of an identifier, so that the last point stands before the simple name
  have hpoint : ∀ d : Declared, '.' ∉ d.header.name.toList := by
    intro d hmem
    have hpart := isIdentifierPart_of_isIdentifier d.header.isIdentifier_name hmem
    exact absurd hpart (by decide +kernel)
  refine h.induction ?_ ?_
  · intro d hd hcanonical hbinary
    have hself : dotted d.canonical.toList = d.canonical.toList := by
      rw [hcanonical, qualify]
      split_ifs
      · exact dotted_append_plain (hpoint d) (hplain d hd) []
      · rw [String.toList_append, String.toList_append,
          dotted_append_plain (hpoint d) (hplain d hd)]
        exact congrArg (· ++ d.header.name.toList) (dotted_point _)
    exact ⟨hself, hbinary ▸ hself⟩
  · rintro d hd o - ⟨-, hbinary⟩ heq heq'
    constructor
    · rw [heq, String.toList_append, String.toList_append,
        dotted_append_plain (hpoint d) (hplain d hd)]
      exact congrArg (· ++ d.header.name.toList) (dotted_point _)
    · rw [heq', heq]
      simp only [String.toList_append]
      exact (dotted_append_dollar (hpoint d) (hplain d hd) _).trans
        (congrArg (· ++ ['.'] ++ d.header.name.toList) hbinary)

/-- Both names of a type are read as its canonical name. -/
theorem WellDeclared.dotted_name (hd : d ∈ known) (hname : name = d.canonical ∨ name = d.binary) :
    dotted name.toList = d.canonical.toList := by
  obtain ⟨hcanonical, hbinary⟩ := h.dotted_binary hplain d hd
  rcases hname with rfl | rfl
  · exact hcanonical
  · exact hbinary

/-- A name is the canonical or the binary one of one type only. -/
theorem WellDeclared.canonical_eq_of_name (hd : d ∈ known) (he : e ∈ known)
    (hname : name = d.canonical ∨ name = d.binary) (hname' : name = e.canonical ∨ name = e.binary) :
    e.canonical = d.canonical :=
  String.toList_injective
    ((h.dotted_name hplain he hname').symm.trans (h.dotted_name hplain hd hname))

/-- Both names of a type refer to it. -/
theorem WellDeclared.named?_eq (hd : d ∈ known) (hname : name = d.canonical ∨ name = d.binary) :
    named? known name = some (.declared d.canonical) := by
  -- canonical names are looked up first, and binary ones from the last type on
  rw [named?]
  cases hcanonical : known.find? fun e => e.canonical == name with
  | some e =>
      have hfound : e.canonical = name := by simpa using List.find?_some hcanonical
      have heq := h.canonical_eq_of_name hplain hd (List.mem_of_find?_eq_some hcanonical) hname
        (Or.inl hfound.symm)
      exact congrArg (some ∘ Target.declared) heq
  | none =>
      -- the name is no canonical one, so that it is the binary one
      have hne : name ≠ d.canonical := fun heq =>
        List.find?_eq_none.1 hcanonical d hd (beq_iff_eq.2 heq.symm)
      have hbinary := hname.resolve_left hne
      cases hfind : known.reverse.find? fun e => e.binary == name with
      | none =>
          exact absurd (beq_iff_eq.2 hbinary.symm)
            (List.find?_eq_none.1 hfind d (List.mem_reverse.2 hd))
      | some e =>
          have hfound : e.binary = name := by simpa using List.find?_some hfind
          have heq := h.canonical_eq_of_name hplain hd
            (List.mem_reverse.1 (List.mem_of_find?_eq_some hfind)) hname (Or.inr hfound.symm)
          exact congrArg (some ∘ Target.declared) heq

end

end Load

namespace Registry

variable {strict : Bool} {units : List SourceUnit} {r : Registry} {t a : TypeId} {w : Universe}

/-! ## Resolution -/

/-- The text is resolved to an array of some dimensions over the type, and for none to the type
itself. Arrays are added to the universe, and what stood in it is kept. -/
structure ResolvesOver (r : Registry) (text : String) (t : TypeId) (dimensions : Nat) (a : TypeId)
    (w : Universe) : Prop where
  resolve : r.resolve text = .ok (a, w)
  arrayOver : ArrayOver w t dimensions a
  itself : dimensions = 0 → a = t ∧ w = r.world
  kept : ∀ s < r.world.size, w.get s = r.world.get s

/-- A loaded type is found by both its names, with white space and brackets. -/
theorem exists_resolvesOver (h : WellDeclared known)
    (hplain : ∀ d ∈ known, '$' ∉ d.header.name.toList) (hd : d ∈ known)
    (hname : name = d.canonical ∨ name = d.binary) {before after : String} {blanks : List String}
    (hbefore : isAllBlank before = true) (hblanks : ∀ blank ∈ blanks, isAllBlank blank = true)
    (hafter : isAllBlank after = true) (skipped : List SkippedSource) :
    ∃ a w, (ofDeclared known skipped).ResolvesOver (before ++ name ++ bracketPairs blanks ++ after)
      ((layoutOf known).loadedPlace d.canonical) blanks.length a w ∧
        w.canonical a = d.canonical ++ brackets blanks.length := by
  have hsolid : IsSolid name := by
    obtain ⟨hcanonical, hbinary⟩ := h.isSolid d hd
    rcases hname with rfl | rfl
    · exact hcanonical
    · exact hbinary
  have hcovers : (layoutOf known).Covers (.declared d.canonical) := mem_loaded_layoutOf hd
  have hresolve := resolve_ofDeclared h skipped (before ++ name ++ bracketPairs blanks ++ after)
  rw [splitPairs_spelling hsolid hbefore hblanks hafter, h.named?_eq hplain hd hname] at hresolve
  rcases harray : arrayOf Standard.object ((layoutOf known).place (.declared d.canonical))
    blanks.length (realizeAll (linkAll known)) with ⟨a, w⟩
  have hgrowth := growth_arrayOf h.founded ((layoutOf known).place (.declared d.canonical))
    blanks.length
  obtain ⟨-, hkept⟩ := get_arrayOf Standard.object
    ((layoutOf known).place (.declared d.canonical)) blanks.length (realizeAll (linkAll known))
  rw [harray] at hgrowth hkept
  refine ⟨a, w, ⟨hresolve.trans (congrArg Except.ok harray), ?_, ?_, hkept⟩,
    canonical_arrayOf h hcovers _ harray⟩
  · exact (hgrowth.value w (Continues.refl _ _) (h.founded.place_lt hcovers)).2
  · intro hzero
    rw [hzero] at harray
    obtain ⟨rfl, rfl⟩ := Prod.mk.inj harray
    exact ⟨rfl, rfl⟩

theorem brackets_eq_bracketPairs (dimensions : Nat) :
    brackets dimensions = bracketPairs (List.replicate dimensions "") := by
  induction dimensions with
  | zero => rfl
  | succ dimensions ih =>
      rw [brackets, ih, List.replicate_succ', bracketPairs_concat, String.empty_append]

/-- Names resolve back to their types. Where no simple name has a dollar sign, the canonical name
and the binary name of a loaded type, in any white space and with any pairs of brackets, are
resolved to an array over the type, to the type itself without brackets. The canonical name of what
was found is resolved to an array of the same name over the same type. -/
theorem resolve_spelling (h : load strict units = .ok r)
    (hplain : ∀ s ∈ r.types, '$' ∉ (r.world.get s).name.toList) (ht : t ∈ r.types) :
    ∃ binary, (r.world.get t).binary = some binary ∧
      ∀ name ∈ [r.world.canonical t, binary], ∀ before blanks after, isAllBlank before = true →
        (∀ blank ∈ blanks, isAllBlank blank = true) → isAllBlank after = true →
          ∃ a w, r.ResolvesOver (before ++ name ++ bracketPairs blanks ++ after) t blanks.length
              a w ∧
            ∃ a' w', r.ResolvesOver (w.canonical a) t blanks.length a' w' ∧
              w'.canonical a' = w.canonical a := by
  obtain ⟨known, skipped, hunits, rfl⟩ := exists_of_read (read_of_load h)
  have hdeclared := wellDeclared_of_readUnits hunits
  rw [types_ofDeclared hdeclared, List.mem_map] at ht
  obtain ⟨d, hd, rfl⟩ := ht
  have hplain' : ∀ e ∈ known, '$' ∉ e.header.name.toList := by
    intro e he
    rw [← (hasShell_loadedPlace hdeclared he skipped).name]
    refine hplain _ ?_
    rw [types_ofDeclared hdeclared]
    exact List.mem_map_of_mem he
  refine ⟨d.binary, (hasShell_loadedPlace hdeclared hd skipped).binary, ?_⟩
  intro name hname before blanks after hbefore hblanks hafter
  rw [canonical_loadedPlace hdeclared hd, List.mem_cons, List.mem_singleton] at hname
  obtain ⟨a, w, hresolves, hcanonical⟩ :=
    exists_resolvesOver hdeclared hplain' hd hname hbefore hblanks hafter skipped
  -- the name of what was found is a spelling without white space
  have hblanks' : ∀ blank ∈ List.replicate blanks.length "", isAllBlank blank = true := by
    intro blank hblank
    rw [List.eq_of_mem_replicate hblank]
    rfl
  have hempty : isAllBlank "" = true := rfl
  obtain ⟨a', w', hresolves', hcanonical'⟩ :=
    exists_resolvesOver hdeclared hplain' hd (Or.inl rfl) hempty hblanks' hempty skipped
  rw [← brackets_eq_bracketPairs, String.empty_append, String.append_empty, ← hcanonical,
    List.length_replicate] at hresolves'
  rw [List.length_replicate, ← hcanonical] at hcanonical'
  exact ⟨a, w, hresolves, a', w', hresolves', hcanonical'⟩

/-- A class with a class nested in it. -/
def orderUnits : List SourceUnit :=
  [{ code := "package shop; public class Order \x7b public static class Line \x7b \x7d \x7d" }]

/-- The nested class is found by its binary name, with tabs and blanks and two pairs of brackets. -/
theorem resolve_spelling_orderUnits :
    ∃ r t, load true orderUnits = .ok r ∧ (∀ s ∈ r.types, '$' ∉ (r.world.get s).name.toList) ∧
      t ∈ r.types ∧ r.world.canonical t = "shop.Order.Line" ∧
        ∃ a w, r.ResolvesOver "\tshop.Order$Line [] [] " t 2 a w ∧
          ∃ a' w', r.ResolvesOver (w.canonical a) t 2 a' w' ∧ w'.canonical a' = w.canonical a := by
  have hloads : loadsTo true orderUnits (fun r =>
      decide ((∀ s ∈ r.types, '$' ∉ (r.world.get s).name.toList) ∧
        ∃ t ∈ r.types, r.world.canonical t = "shop.Order.Line" ∧
          (r.world.get t).binary = some "shop.Order$Line")) = true := by
    decide +kernel
  obtain ⟨r, hload, htest⟩ := exists_of_loadsTo hloads
  obtain ⟨hplain, t, ht, hcanonical, hbinary⟩ := of_decide_eq_true htest
  obtain ⟨binary, hbinary', hnames⟩ := resolve_spelling hload hplain ht
  obtain rfl := Option.some.inj (hbinary.symm.trans hbinary')
  exact ⟨r, t, hload, hplain, ht, hcanonical,
    hnames "shop.Order$Line" (by simp) "\t" [" ", " "] " " (by decide) (by decide) (by decide)⟩

end Registry

end Skeletal
