import Mathlib.Data.List.Basic
import Skeletal.Text.Basic

/-!
# Joining and splitting

Joins of joins come down to one join of all parts (`joinNonempty_flatten`): an empty part or an
empty group leaves no separator behind at any level. Splitting at the separator gives back the
parts that were joined, if they are not empty and share no character with the separator
(`splitOn_joinNonempty`). A text is of one line if its parts are.
-/

set_option autoImplicit false

namespace Skeletal.Text

/-- Stretches of a text between the occurrences of a separator, which are looked for from the
left. -/
def pieces (separator : List Char) : List Char → List (List Char)
  | [] => [[]]
  | c :: rest =>
    if separator <+: c :: rest then [] :: pieces separator (rest.drop (separator.length - 1))
    else (pieces separator rest).modifyHead (c :: ·)
termination_by text => text.length
decreasing_by
  · simp only [List.length_drop, List.length_cons]
    omega
  · simp only [List.length_cons]
    omega

/-- A text split at every occurrence of a separator. -/
def splitOn (separator text : String) : List String :=
  (pieces separator.toList text.toList).map String.ofList

variable {separator : String} {first : Char} {tail block rest : List Char}
  {blocks others : List (List Char)}

/-! ## Splitting -/

/-- A separator starts at its first character alone. -/
theorem pieces_cons_of_ne {c : Char} (hc : c ≠ first) (rest : List Char) :
    pieces (first :: tail) (c :: rest) = (pieces (first :: tail) rest).modifyHead (c :: ·) := by
  have hstart : ¬ first :: tail <+: c :: rest := by
    rw [List.cons_prefix_cons]
    intro h
    exact hc h.1.symm
  rw [pieces, if_neg hstart]

theorem pieces_separator_append (rest : List Char) :
    pieces (first :: tail) (first :: tail ++ rest) = [] :: pieces (first :: tail) rest := by
  rw [List.cons_append, pieces, if_pos (by simp)]
  simp

theorem pieces_of_not_mem (h : first ∉ block) : pieces (first :: tail) block = [block] := by
  induction block with
  | nil => rw [pieces]
  | cons c block ih =>
      rw [List.mem_cons, not_or] at h
      rw [pieces_cons_of_ne (Ne.symm h.1), ih h.2]
      rfl

theorem pieces_append_separator (h : first ∉ block) (rest : List Char) :
    pieces (first :: tail) (block ++ (first :: tail ++ rest)) =
      block :: pieces (first :: tail) rest := by
  induction block with
  | nil => exact pieces_separator_append rest
  | cons c block ih =>
      rw [List.mem_cons, not_or] at h
      rw [List.cons_append, pieces_cons_of_ne (Ne.symm h.1), ih h.2]
      rfl

/-- The separator ends the first block. -/
theorem append_separator_inj {other x y : List Char} (hblock : first ∉ block)
    (hother : first ∉ other) (h : block ++ (first :: tail ++ x) = other ++ (first :: tail ++ y)) :
    block = other ∧ x = y := by
  have hpieces := congrArg (pieces (first :: tail)) h
  rw [pieces_append_separator hblock, pieces_append_separator hother] at hpieces
  obtain rfl := (List.cons.inj hpieces).1
  exact ⟨rfl, List.append_cancel_left (List.append_cancel_left h)⟩

theorem pieces_intercalate (hblocks : blocks ≠ []) (h : ∀ block ∈ blocks, first ∉ block) :
    pieces (first :: tail) ((first :: tail).intercalate blocks) = blocks := by
  induction blocks with
  | nil => exact absurd rfl hblocks
  | cons block rest ih =>
      have hblock := h block List.mem_cons_self
      cases rest with
      -- no separator follows the last block
      | nil => simpa using pieces_of_not_mem hblock
      | cons next rest =>
          rw [List.intercalate_cons_cons, List.append_assoc, pieces_append_separator hblock,
            ih (by simp) fun b hb => h b (List.mem_cons_of_mem block hb)]

/-- Blocks are known by their join, if none is empty or has the first character of the
separator. -/
theorem blocks_eq_of_intercalate_eq (hblocks : ∀ block ∈ blocks, block ≠ [] ∧ first ∉ block)
    (hothers : ∀ block ∈ others, block ≠ [] ∧ first ∉ block)
    (h : (first :: tail).intercalate blocks = (first :: tail).intercalate others) :
    blocks = others := by
  have hpieces := congrArg (pieces (first :: tail)) h
  -- the join of no blocks has one piece, which is empty
  have hnone : pieces (first :: tail) ((first :: tail).intercalate []) = [[]] := by
    rw [List.intercalate_nil, pieces]
  by_cases hleft : blocks = []
  · by_cases hright : others = []
    · rw [hleft, hright]
    · rw [hleft, hnone, pieces_intercalate hright fun b hb => (hothers b hb).2] at hpieces
      exact absurd rfl (hothers [] (hpieces ▸ List.mem_cons_self)).1
  · rw [pieces_intercalate hleft fun b hb => (hblocks b hb).2] at hpieces
    by_cases hright : others = []
    · rw [hright, hnone] at hpieces
      exact absurd rfl (hblocks [] (hpieces ▸ List.mem_cons_self)).1
    · rw [hpieces, pieces_intercalate hright fun b hb => (hothers b hb).2]

theorem intercalate_inj {parts others : List String} (hseparator : separator.toList = first :: tail)
    (hparts : ∀ part ∈ parts, part ≠ "" ∧ first ∉ part.toList)
    (hothers : ∀ part ∈ others, part ≠ "" ∧ first ∉ part.toList)
    (h : separator.intercalate parts = separator.intercalate others) : parts = others := by
  have hlists := congrArg String.toList h
  rw [String.toList_intercalate, String.toList_intercalate, hseparator] at hlists
  apply List.map_injective_iff.2 fun _ _ => String.toList_injective
  apply blocks_eq_of_intercalate_eq _ _ hlists
  · simpa using hparts
  · simpa using hothers

/-- Splitting undoes joining. -/
theorem splitOn_intercalate {parts : List String} (hne : separator ≠ "") (hparts : parts ≠ [])
    (h : ∀ part ∈ parts, ∀ c ∈ part.toList, c ∉ separator.toList) :
    splitOn separator (separator.intercalate parts) = parts := by
  have hcons : separator.toList ≠ [] := by simpa using hne
  obtain ⟨first, tail, hseparator⟩ := List.exists_cons_of_ne_nil hcons
  rw [splitOn, String.toList_intercalate, hseparator, pieces_intercalate (by simpa using hparts)]
  · simp [Function.comp_def]
  · intro block hblock
    obtain ⟨part, hpart, rfl⟩ := List.mem_map.1 hblock
    intro hfirst
    exact h part hpart first hfirst (hseparator ▸ List.mem_cons_self)

theorem takeWhile_append_cons {stop : Char} (h : stop ∉ block) (rest : List Char) :
    (block ++ stop :: rest).takeWhile (· ≠ stop) = block := by
  have hall : ∀ c ∈ block, decide (c ≠ stop) = true := by
    intro c hc
    refine decide_eq_true ?_
    rintro rfl
    exact h hc
  rw [List.takeWhile_append_of_pos hall]
  simp

/-! ## Joining -/

@[simp] theorem joinNonempty_singleton (part : String) : joinNonempty separator [part] = part := by
  by_cases h : part = "" <;> simp [joinNonempty, h]

theorem joinNonempty_of_nonempty {parts : List String} (h : ∀ part ∈ parts, part ≠ "") :
    joinNonempty separator parts = separator.intercalate parts := by
  rw [joinNonempty, List.filter_eq_self.2 (by simpa using h)]

/-- The characters of a join are those of its parts and of the separator. -/
theorem forall_mem_intercalate {P : Char → Prop} {parts : List String}
    (hsep : ∀ c ∈ separator.toList, P c) (h : ∀ part ∈ parts, ∀ c ∈ part.toList, P c) :
    ∀ c ∈ (separator.intercalate parts).toList, P c := by
  induction parts with
  | nil => simp
  | cons first others ih =>
      have hfirst := h first List.mem_cons_self
      cases others with
      | nil => simpa using hfirst
      | cons next others =>
          rw [String.intercalate_cons_cons, String.toList_append, String.toList_append,
            List.forall_mem_append, List.forall_mem_append]
          exact ⟨⟨hfirst, hsep⟩, ih fun part hp => h part (List.mem_cons_of_mem first hp)⟩

theorem not_mem_intercalate {c : Char} {parts : List String} (hsep : c ∉ separator.toList)
    (h : ∀ part ∈ parts, c ∉ part.toList) : c ∉ (separator.intercalate parts).toList := by
  have hall : ∀ d ∈ (separator.intercalate parts).toList, ¬ d = c :=
    forall_mem_intercalate (fun d hd heq => hsep (heq ▸ hd))
      fun part hpart d hd heq => h part hpart (heq ▸ hd)
  exact fun hmem => hall c hmem rfl

/-- A join is empty if there is nothing to join. -/
theorem joinNonempty_eq_empty_iff {parts : List String} :
    joinNonempty separator parts = "" ↔ (parts.filter fun part => part ≠ "") = [] := by
  rw [joinNonempty]
  constructor
  · intro h
    by_contra hne
    obtain ⟨first, others, hparts⟩ := List.exists_cons_of_ne_nil hne
    have hfirst : first ≠ "" := by
      have hmem : first ∈ parts.filter fun part => part ≠ "" := hparts ▸ List.mem_cons_self
      simpa using (List.mem_filter.1 hmem).2
    -- a first part that is not empty stands at the start of the join
    rw [hparts] at h
    cases others with
    | nil => exact hfirst (by simpa using h)
    | cons next others =>
        rw [String.intercalate_cons_cons, String.append_eq_empty_iff,
          String.append_eq_empty_iff] at h
        exact hfirst h.1.1
  · intro h
    rw [h, String.intercalate_nil]

theorem intercalate_eq_empty_iff {parts : List String} (h : ∀ part ∈ parts, part ≠ "") :
    separator.intercalate parts = "" ↔ parts = [] := by
  rw [← joinNonempty_of_nonempty h, joinNonempty_eq_empty_iff, List.filter_eq_self.2]
  simpa using h

theorem joinNonempty_pair (a b : String) : joinNonempty separator [a, b] =
    if a = "" then b else if b = "" then a else a ++ separator ++ b := by
  by_cases ha : a = "" <;> by_cases hb : b = "" <;>
    simp [joinNonempty, ha, hb, String.intercalate_cons_cons]

/-- Two groups may be joined apart. -/
theorem joinNonempty_append (parts others : List String) :
    joinNonempty separator (parts ++ others) =
      joinNonempty separator [joinNonempty separator parts, joinNonempty separator others] := by
  rw [joinNonempty_pair]
  split_ifs with hparts hothers
  · rw [joinNonempty, List.filter_append, joinNonempty_eq_empty_iff.1 hparts, List.nil_append,
      joinNonempty]
  · rw [joinNonempty, List.filter_append, joinNonempty_eq_empty_iff.1 hothers, List.append_nil,
      joinNonempty]
  · rw [joinNonempty, List.filter_append, String.intercalate_append_of_ne_nil
      (mt joinNonempty_eq_empty_iff.2 hparts) (mt joinNonempty_eq_empty_iff.2 hothers),
      joinNonempty, joinNonempty]

/-- What a join of parts puts in front of a further part. -/
def leading (separator : String) (parts : List String) : String :=
  if joinNonempty separator parts = "" then "" else joinNonempty separator parts ++ separator

/-- A join goes on behind its first parts with what leads to the others. -/
theorem joinNonempty_append_of_ne {parts others : List String}
    (h : joinNonempty separator others ≠ "") : joinNonempty separator (parts ++ others) =
      leading separator parts ++ joinNonempty separator others := by
  rw [joinNonempty_append, joinNonempty_pair, leading]
  split_ifs
  · rw [String.empty_append]
  · rfl

theorem leading_singleton (part : String) :
    leading separator [part] = if part = "" then "" else part ++ separator := by
  rw [leading, joinNonempty_singleton]

theorem leading_singleton_inj {part other : String}
    (h : leading separator [part] = leading separator [other]) : part = other := by
  rw [leading_singleton, leading_singleton] at h
  split_ifs at h with hpart hother
  · rw [hpart, hother]
  · exact absurd (String.append_eq_empty_iff.1 h.symm).1 hother
  · exact absurd (String.append_eq_empty_iff.1 h).1 hpart
  · exact (String.append_left_inj separator).1 h

/-- Joins of groups come down to one join. -/
theorem joinNonempty_flatten (separator : String) (groups : List (List String)) :
    joinNonempty separator (groups.map (joinNonempty separator)) =
      joinNonempty separator groups.flatten := by
  induction groups with
  | nil => rfl
  | cons group groups ih =>
      calc joinNonempty separator ((group :: groups).map (joinNonempty separator))
          = joinNonempty separator ([joinNonempty separator group] ++
              groups.map (joinNonempty separator)) := rfl
        _ = joinNonempty separator [joinNonempty separator group,
              joinNonempty separator groups.flatten] := by
            rw [joinNonempty_append, joinNonempty_singleton, ih]
        _ = joinNonempty separator (group :: groups).flatten := by
            rw [← joinNonempty_append, List.flatten_cons]

/-- Splitting undoes the joining of parts that share no character with the separator. -/
theorem splitOn_joinNonempty {parts : List String} (hne : separator ≠ "") (hparts : parts ≠ [])
    (hnonempty : ∀ part ∈ parts, part ≠ "")
    (h : ∀ part ∈ parts, ∀ c ∈ part.toList, c ∉ separator.toList) :
    splitOn separator (joinNonempty separator parts) = parts := by
  rw [joinNonempty_of_nonempty hnonempty, splitOn_intercalate hne hparts h]

/-! ## Labels -/

theorem labelled_of_ne {label text : String} (hlabel : label ≠ "") (htext : text ≠ "") :
    labelled label text = label ++ " " ++ text := by
  rw [labelled, if_neg htext, spaced, joinNonempty_pair, if_neg hlabel, if_neg htext]

theorem labelled_inj {label text other : String} (hlabel : label ≠ "")
    (h : labelled label text = labelled label other) : text = other := by
  have hempty : ∀ t, labelled label t = "" → t = "" := by
    intro t ht
    by_contra hne
    rw [labelled_of_ne hlabel hne] at ht
    exact hne (String.append_eq_empty_iff.1 ht).2
  by_cases htext : text = ""
  · rw [htext, labelled, if_pos rfl] at h
    rw [htext, hempty other h.symm]
  · by_cases hother : other = ""
    · rw [hother, labelled.eq_def label "", if_pos rfl] at h
      exact absurd (hempty text h) htext
    · rw [labelled_of_ne hlabel htext, labelled_of_ne hlabel hother, String.append_right_inj] at h
      exact h

/-! ## Texts of one line -/

/-- Characters that end a line. -/
def lineBreaks : List Char := ['\r', '\n']

/-- Texts without a line break. -/
def OneLine (text : String) : Prop := ∀ c ∈ text.toList, c ∉ lineBreaks

instance (text : String) : Decidable (OneLine text) :=
  List.decidableBAll (fun c => c ∉ lineBreaks) text.toList

variable {a b : String} {parts : List String}

theorem oneLine_append : OneLine (a ++ b) ↔ OneLine a ∧ OneLine b := by
  simp only [OneLine, String.toList_append, List.forall_mem_append]

theorem OneLine.append (ha : OneLine a) (hb : OneLine b) : OneLine (a ++ b) :=
  oneLine_append.2 ⟨ha, hb⟩

theorem OneLine.intercalate (hsep : OneLine separator) (h : ∀ part ∈ parts, OneLine part) :
    OneLine (separator.intercalate parts) :=
  forall_mem_intercalate hsep h

theorem OneLine.joinNonempty (hsep : OneLine separator) (h : ∀ part ∈ parts, OneLine part) :
    OneLine (joinNonempty separator parts) :=
  hsep.intercalate fun part hp => h part (List.mem_filter.1 hp).1

theorem oneLine_spaced (h : ∀ part ∈ parts, OneLine part) : OneLine (spaced parts) :=
  OneLine.joinNonempty (by decide) h

theorem oneLine_labelled (ha : OneLine a) (hb : OneLine b) : OneLine (labelled a b) := by
  rw [labelled]
  split_ifs
  · decide
  · exact oneLine_spaced (by simp [ha, hb])

/-- Numbers are written with digits. -/
theorem isDigit_of_mem_toString {n : Nat} {c : Char} (h : c ∈ (toString n).toList) :
    c.isDigit = true := by
  apply Nat.isDigit_of_mem_toDigits (b := 10) (n := n) (by decide) (by decide)
  rwa [← Nat.toList_repr]

theorem oneLine_toString (n : Nat) : OneLine (toString n) := by
  intro c hc hbreak
  have hdigit := isDigit_of_mem_toString hc
  rw [lineBreaks, List.mem_pair] at hbreak
  rcases hbreak with rfl | rfl
  · exact absurd hdigit (by decide)
  · exact absurd hdigit (by decide)

end Skeletal.Text
