import Mathlib.Data.List.Induction
import Skeletal.Proofs.FileTree.NullFree
import Skeletal.Proofs.Load.Offered

/-!
# Names with white space and brackets

White space may stand around a name and before each pair of brackets after it. A solid name, one
without white space and closing brackets, is found again from such a spelling together with the
number of the pairs (`splitPairs_spelling`). No character of an identifier is white space, so that
identifiers with points between them are solid.
-/

set_option autoImplicit false

namespace Skeletal.Registry

open Text (isBlank isAllBlank isIdentifierPart)

variable {before after name blank : String} {blanks : List String} {cs : List Char} {c : Char}

/-! ## White space -/

/-- Code points of white space. -/
def blankPoints : List Nat :=
  [9, 10, 11, 12, 13, 28, 29, 30, 31, 32, 0x85, 0xA0, 0x1680, 0x2000, 0x2001, 0x2002, 0x2003,
    0x2004, 0x2005, 0x2006, 0x2007, 0x2008, 0x2009, 0x200A, 0x2028, 0x2029, 0x202F, 0x205F, 0x3000]

theorem toNat_mem_blankPoints (h : isBlank c = true) : c.toNat ∈ blankPoints := by
  simp only [isBlank, Bool.or_eq_true, Bool.and_eq_true, decide_eq_true_eq, beq_iff_eq] at h
  simp only [blankPoints, List.mem_cons, List.not_mem_nil, or_false]
  -- white space is given by ranges of code points, and the list has each of them
  omega

/-- White space is no part of an identifier. -/
theorem isBlank_of_isIdentifierPart (h : isIdentifierPart c = true) : isBlank c = false := by
  have hpoints : ∀ n ∈ blankPoints, isIdentifierPart (Char.ofNat n) = false := by
    decide +kernel
  rw [← Bool.not_eq_true]
  intro hblank
  have hpart := hpoints _ (toNat_mem_blankPoints hblank)
  rw [Char.ofNat_toNat, h] at hpart
  exact absurd hpart nofun

theorem isBlank_of_mem (h : isAllBlank blank = true) : ∀ c ∈ blank.toList, isBlank c = true :=
  List.all_eq_true.1 h

theorem isBlank_of_mem_reverse (h : isAllBlank blank = true) :
    ∀ c ∈ blank.toList.reverse, isBlank c = true :=
  fun c hc => isBlank_of_mem h c (List.mem_reverse.1 hc)

/-- Nothing is dropped of characters whose first is no white space. -/
theorem dropWhile_isBlank_eq_self (h : ∀ c ∈ cs.head?, isBlank c = false) :
    cs.dropWhile isBlank = cs := by
  cases cs with
  | nil => rfl
  | cons c rest => rw [List.dropWhile_cons, h c rfl, if_neg Bool.false_ne_true]

/-! ## Solid names -/

/-- The character is neither white space nor a closing bracket. -/
def IsSolidChar (c : Char) : Prop := isBlank c = false ∧ c ≠ ']'

theorem isSolidChar_point : IsSolidChar '.' := ⟨by decide, by decide⟩

theorem isSolidChar_of_isIdentifierPart (h : isIdentifierPart c = true) : IsSolidChar c := by
  refine ⟨isBlank_of_isIdentifierPart h, ?_⟩
  rintro rfl
  exact absurd h (by decide +kernel)

/-- The name has characters, and all of them are solid. -/
structure IsSolid (name : String) : Prop where
  ne_nil : name.toList ≠ []
  chars : ∀ c ∈ name.toList, IsSolidChar c

theorem isSolid_of_isIdentifier (h : Source.isIdentifier name = true) : IsSolid name where
  ne_nil := by
    intro hnil
    rw [Source.isIdentifier, hnil] at h
    exact Bool.false_ne_true h
  chars _ hc := isSolidChar_of_isIdentifierPart (isIdentifierPart_of_isIdentifier h hc)

/-- What has only solid characters may stand before a solid name. -/
theorem IsSolid.append (h : IsSolid name) (hbefore : ∀ c ∈ before.toList, IsSolidChar c) :
    IsSolid (before ++ name) where
  ne_nil := by
    rw [String.toList_append]
    exact List.append_ne_nil_of_right_ne_nil _ h.ne_nil
  chars c hc := by
    rw [String.toList_append, List.mem_append] at hc
    exact hc.elim (hbefore c) (h.chars c)

/-- The characters of a package name are solid. -/
theorem isSolidChar_of_mem_package (h : Source.IsPackageName name) :
    ∀ c ∈ name.toList, IsSolidChar c := by
  obtain ⟨names, rfl⟩ := h
  intro c hc
  by_cases hpoint : c = '.'
  · rw [hpoint]
    exact isSolidChar_point
  · obtain ⟨word, hword, hc⟩ := (Text.mem_toList_intercalate_iff hpoint).1 hc
    obtain ⟨name, -, rfl⟩ := List.mem_map.1 hword
    exact (isSolid_of_isIdentifier name.property).chars c hc

theorem IsSolid.dropWhile_append (h : IsSolid name) (cs : List Char) :
    (name.toList ++ cs).dropWhile isBlank = name.toList ++ cs := by
  refine dropWhile_isBlank_eq_self fun c hc => ?_
  rw [List.head?_append, List.head?_eq_some_head h.ne_nil] at hc
  obtain rfl := Option.some.inj hc
  exact (h.chars _ (List.head_mem h.ne_nil)).1

theorem IsSolid.dropWhile_reverse (h : IsSolid name) :
    name.toList.reverse.dropWhile isBlank = name.toList.reverse := by
  refine dropWhile_isBlank_eq_self fun c hc => ?_
  exact (h.chars c (List.mem_reverse.1 (List.mem_of_mem_head? hc))).1

theorem IsSolid.dropPairs_reverse (h : IsSolid name) :
    dropPairs name.toList.reverse = (0, name.toList.reverse) := by
  rw [dropPairs]
  intro rest hrest
  have hmem : ']' ∈ name.toList.reverse := hrest ▸ List.mem_cons_self
  exact (h.chars ']' (List.mem_reverse.1 hmem)).2 rfl

/-! ## Pairs of brackets -/

/-- Pairs of brackets, each after its white space. -/
def bracketPairs : List String → String
  | [] => ""
  | blank :: rest => blank ++ "[]" ++ bracketPairs rest

theorem bracketPairs_concat (blanks : List String) (blank : String) :
    bracketPairs (blanks ++ [blank]) = bracketPairs blanks ++ (blank ++ "[]") := by
  induction blanks with
  | nil => simp [bracketPairs]
  | cons first rest ih => rw [List.cons_append, bracketPairs, ih, bracketPairs, ← String.append_assoc]

/-- The pairs are counted from the last one on. -/
theorem dropPairs_bracketPairs (hname : IsSolid name)
    (hblanks : ∀ blank ∈ blanks, isAllBlank blank = true) :
    dropPairs ((name ++ bracketPairs blanks).toList.reverse.dropWhile isBlank) =
      (blanks.length, name.toList.reverse) := by
  induction blanks using List.reverseRecOn with
  | nil =>
      rw [bracketPairs, String.append_empty, hname.dropWhile_reverse, hname.dropPairs_reverse]
      rfl
  | append_singleton blanks blank ih =>
      have hrest := ih fun other hother => hblanks other (List.mem_append_left _ hother)
      have hblank := isBlank_of_mem_reverse
        (hblanks blank (List.mem_append_right _ (List.mem_singleton_self blank)))
      -- read backwards, the last pair comes first, and then its white space
      have hreverse : (name ++ bracketPairs (blanks ++ [blank])).toList.reverse =
          ']' :: '[' :: (blank.toList.reverse ++ (name ++ bracketPairs blanks).toList.reverse) := by
        rw [bracketPairs_concat]
        simp
      rw [hreverse, dropWhile_isBlank_eq_self (by rintro c ⟨⟩; decide), dropPairs,
        List.dropWhile_append_of_pos hblank, hrest, List.length_append]
      rfl

/-- A solid name is found again, whatever white space and pairs of brackets it is spelled with. -/
theorem splitPairs_spelling (hname : IsSolid name) (hbefore : isAllBlank before = true)
    (hblanks : ∀ blank ∈ blanks, isAllBlank blank = true) (hafter : isAllBlank after = true) :
    splitPairs (before ++ name ++ bracketPairs blanks ++ after) = (blanks.length, name) := by
  -- both ends lose their white space before pairs are looked for
  have hdropped : (Text.dropBlanks (before ++ name ++ bracketPairs blanks ++ after).toList).reverse =
      (name ++ bracketPairs blanks).toList.reverse.dropWhile isBlank := by
    have hleft : (before ++ name ++ bracketPairs blanks ++ after).toList.dropWhile isBlank =
        (name ++ bracketPairs blanks).toList ++ after.toList := by
      simp only [String.toList_append, List.append_assoc]
      rw [List.dropWhile_append_of_pos (isBlank_of_mem hbefore), hname.dropWhile_append]
    rw [Text.dropBlanks, Text.dropBlanksRight, hleft, List.reverse_reverse, List.reverse_append,
      List.dropWhile_append_of_pos (isBlank_of_mem_reverse hafter)]
  rw [splitPairs, hdropped, dropPairs_bracketPairs hname hblanks]
  simp

end Skeletal.Registry
