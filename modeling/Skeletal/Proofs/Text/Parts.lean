import Mathlib.Data.List.Basic
import Mathlib.Data.String.Basic

/-!
# Parts of a text between separators

Paths are split at slashes and packages at points. No part of a text has the separator
(`not_mem_of_mem_partsAt`), and joining the parts by it gives the text again
(`intercalate_partsAt`), so different texts have different parts. Parts that are joined are found
again if none of them has the separator (`partsAt_intercalate`).
-/

set_option autoImplicit false

namespace Skeletal.Text

variable {separator : Char} {text part first : String} {parts rest : List String}

/-! ## Characters of joined parts -/

theorem mem_intercalate_iff {α : Type} {separator a : α} {parts : List (List α)}
    (h : a ≠ separator) : a ∈ [separator].intercalate parts ↔ ∃ part ∈ parts, a ∈ part := by
  induction parts with
  | nil => simp [List.intercalate]
  | cons part rest ih =>
      cases rest with
      | nil => simp [List.intercalate]
      | cons next rest =>
          have hcons : [separator].intercalate (part :: next :: rest) =
              part ++ separator :: [separator].intercalate (next :: rest) := by
            simp [List.intercalate]
          rw [hcons, List.mem_append, List.mem_cons, ih]
          simp [h]

theorem toList_intercalate_singleton (separator : Char) (parts : List String) :
    ((String.singleton separator).intercalate parts).toList =
      [separator].intercalate (parts.map String.toList) := by
  rw [String.toList_intercalate, String.toList_singleton]

/-- A character other than the separator stands in a join if it stands in a part. -/
theorem mem_toList_intercalate_iff {c : Char} (h : c ≠ separator) :
    c ∈ ((String.singleton separator).intercalate parts).toList ↔ ∃ part ∈ parts, c ∈ part.toList := by
  rw [toList_intercalate_singleton, mem_intercalate_iff h]
  simp

/-! ## Splitting at a character -/

/-- Parts of a text between the occurrences of a separator. -/
def partsAt (separator : Char) (text : String) : List String :=
  (text.toList.splitOn separator).map String.ofList

theorem partsAt_ne_nil (separator : Char) (text : String) : partsAt separator text ≠ [] := by
  rw [partsAt, Ne, List.map_eq_nil_iff]
  exact List.splitOn_ne_nil separator text.toList

/-- A separator between two texts divides them. -/
theorem partsAt_append (separator : Char) (text rest : String) :
    partsAt separator (text ++ String.singleton separator ++ rest) =
      partsAt separator text ++ partsAt separator rest := by
  have hlist : (text ++ String.singleton separator ++ rest).toList =
      text.toList ++ separator :: rest.toList := by
    simp
  rw [partsAt, hlist, List.splitOn_append_cons_self, List.map_append, partsAt, partsAt]

theorem intercalate_partsAt (separator : Char) (text : String) :
    (String.singleton separator).intercalate (partsAt separator text) = text := by
  rw [← String.toList_inj, toList_intercalate_singleton, partsAt, List.map_map]
  simp [Function.comp_def]

theorem partsAt_injective (separator : Char) : Function.Injective (partsAt separator) := by
  intro text other h
  rw [← intercalate_partsAt separator text, h, intercalate_partsAt]

theorem not_mem_splitOn (separator : Char) (l : List Char) :
    ∀ part ∈ l.splitOn separator, separator ∉ part := by
  induction l with
  | nil => simp
  | cons c rest ih =>
      rw [List.splitOn_cons_eq_if_modifyHead]
      split_ifs with hc
      · exact List.forall_mem_cons.2 ⟨List.not_mem_nil, ih⟩
      · cases hparts : rest.splitOn separator with
        | nil => simp
        | cons first more =>
            rw [hparts, List.forall_mem_cons] at ih
            refine List.forall_mem_cons.2 ⟨?_, ih.2⟩
            rw [List.mem_cons, not_or]
            exact ⟨fun heq => hc (beq_iff_eq.2 heq.symm), ih.1⟩

theorem not_mem_of_mem_partsAt (h : part ∈ partsAt separator text) : separator ∉ part.toList := by
  obtain ⟨chars, hchars, rfl⟩ := List.mem_map.1 h
  rw [String.toList_ofList]
  exact not_mem_splitOn separator _ chars hchars

/-- The characters of a part are characters of the text. -/
theorem mem_of_mem_partsAt {c : Char} (h : part ∈ partsAt separator text) (hc : c ∈ part.toList) :
    c ∈ text.toList := by
  have hne : c ≠ separator := by
    rintro rfl
    exact not_mem_of_mem_partsAt h hc
  rw [← intercalate_partsAt separator text]
  exact (mem_toList_intercalate_iff hne).2 ⟨part, h, hc⟩

/-- Parts without the separator are found again in their join. -/
theorem partsAt_intercalate (hparts : parts ≠ []) (h : ∀ part ∈ parts, separator ∉ part.toList) :
    partsAt separator ((String.singleton separator).intercalate parts) = parts := by
  rw [partsAt, toList_intercalate_singleton,
    List.splitOn_intercalate separator (by simpa using h) (by simpa using hparts)]
  simp [Function.comp_def]

theorem partsAt_of_not_mem (h : separator ∉ text.toList) : partsAt separator text = [text] := by
  rw [partsAt, List.splitOn_eq_singleton h, List.map_singleton, String.ofList_toList]

/-- What stands before the first separator grows by a text that has none. -/
theorem partsAt_append_of_not_mem {before : String} (h : separator ∉ before.toList)
    (htext : partsAt separator text = first :: rest) :
    partsAt separator (before ++ text) = (before ++ first) :: rest := by
  have hparts : ∀ part ∈ first :: rest, separator ∉ part.toList :=
    fun part hpart => not_mem_of_mem_partsAt (htext ▸ hpart)
  rw [List.forall_mem_cons] at hparts
  have hfirst : separator ∉ (before ++ first).toList := by
    rw [String.toList_append, List.mem_append]
    exact not_or.2 ⟨h, hparts.1⟩
  rw [← intercalate_partsAt separator text, htext, ← String.intercalate_cons_append]
  exact partsAt_intercalate (by simp) (List.forall_mem_cons.2 ⟨hfirst, hparts.2⟩)

end Skeletal.Text
