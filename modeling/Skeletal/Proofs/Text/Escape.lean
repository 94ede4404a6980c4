import Skeletal.Proofs.Text.CodeUnit
import Skeletal.Text.Escape

/-!
# Unicode escapes and their reading

Escaping a text leaves the escapes that it has of its own as they are, so an escaped text reads like
the text itself (`unescape_escape`). A text that has no escape of its own stands for itself, and no
other does: an escape has more characters than the code unit that it is read as
(`unescape_eq_self_iff`). So escaping is undone by reading exactly for the texts without an escape
of their own (`unescape_escape_iff`).
-/

set_option autoImplicit false

namespace Skeletal.Text

variable {cs rest : List Char} {n : Nat}

/-! ## Hexadecimal digits -/

theorem hexValue?_upperHexDigit {n : Nat} (h : n < 16) : hexValue? (upperHexDigit n) = some n := by
  have hall : ∀ n < 16, hexValue? (upperHexDigit n) = some n := by decide
  exact hall n h

theorem upperHexDigit_lt {n : Nat} (h : n < 16) : (upperHexDigit n).toNat < 128 := by
  have hall : ∀ n < 16, (upperHexDigit n).toNat < 128 := by decide
  exact hall n h

/-- Characters that are hexadecimal digits. -/
def hexDigitChars : List Char := "0123456789ABCDEFabcdef".toList

theorem mem_hexDigitChars_iff {c : Char} : c ∈ hexDigitChars ↔ ∃ v, hexValue? c = some v := by
  constructor
  · intro h
    have hall : hexDigitChars.all (fun c => (hexValue? c).isSome) = true := by decide
    exact Option.isSome_iff_exists.1 (List.all_eq_true.1 hall c h)
  · rintro ⟨v, h⟩
    -- a digit is one of the first code points, which are tried one by one
    have hlt : c.toNat < 103 := by
      rw [hexValue?] at h
      split_ifs at h <;> omega
    have hall : ∀ n < 103, (hexValue? (Char.ofNat n)).isSome = true →
        Char.ofNat n ∈ hexDigitChars := by
      decide
    have hmem := hall c.toNat hlt
    rw [Char.ofNat_toNat, h] at hmem
    exact hmem rfl

theorem hexValue?_lt {c : Char} {v : Nat} (h : hexValue? c = some v) : v < 16 := by
  rw [hexValue?] at h
  split_ifs at h <;> obtain rfl := Option.some.inj h <;> omega

theorem hexNumber?_four {a b c d : Char} : hexNumber? [a, b, c, d] = some n ↔
    ∃ w x y z, hexValue? a = some w ∧ hexValue? b = some x ∧ hexValue? c = some y ∧
      hexValue? d = some z ∧ n = ((w * 16 + x) * 16 + y) * 16 + z := by
  rw [hexNumber?]
  cases ha : hexValue? a <;> cases hb : hexValue? b <;> cases hc : hexValue? c <;>
    cases hd : hexValue? d <;> simp [ha, hb, hc, hd, ofDigits, eq_comm]

theorem hexNumber?_lt {a b c d : Char} (h : hexNumber? [a, b, c, d] = some n) : n < 0x10000 := by
  obtain ⟨w, x, y, z, ha, hb, hc, hd, rfl⟩ := hexNumber?_four.1 h
  have hw := hexValue?_lt ha
  have hx := hexValue?_lt hb
  have hy := hexValue?_lt hc
  have hz := hexValue?_lt hd
  omega

/-! ## Where escapes start -/

/-- The text starts with the escape of a code unit. -/
def StartsEscape (cs : List Char) (unit : Nat) : Prop :=
  ∃ a b c d rest, cs = '\\' :: 'u' :: a :: b :: c :: d :: rest ∧
    hexNumber? [a, b, c, d] = some unit

/-- A backslash, the letter u and four hexadecimal digits stand one after another in the text. -/
def HasEscape (cs : List Char) : Prop :=
  ∃ a b c d, (∀ x ∈ [a, b, c, d], x ∈ hexDigitChars) ∧ ['\\', 'u', a, b, c, d] <:+: cs

theorem not_hasEscape_nil : ¬ HasEscape [] := by
  rintro ⟨a, b, c, d, -, h⟩
  cases List.infix_nil.1 h

/-- An escape stands at the front or further on. -/
theorem hasEscape_cons_iff {c : Char} :
    HasEscape (c :: rest) ↔ (∃ unit, StartsEscape (c :: rest) unit) ∨ HasEscape rest := by
  constructor
  · rintro ⟨w, x, y, z, hdigits, h⟩
    rcases List.infix_cons_iff.1 h with ⟨tail, hfront⟩ | h
    · left
      simp only [List.forall_mem_cons, mem_hexDigitChars_iff] at hdigits
      obtain ⟨⟨_, hw⟩, ⟨_, hx⟩, ⟨_, hy⟩, ⟨_, hz⟩, -⟩ := hdigits
      exact ⟨_, w, x, y, z, tail, hfront.symm,
        hexNumber?_four.2 ⟨_, _, _, _, hw, hx, hy, hz, rfl⟩⟩
    · right
      exact ⟨w, x, y, z, hdigits, h⟩
  · rintro (⟨unit, w, x, y, z, tail, hfront, hnumber⟩ | ⟨w, x, y, z, hdigits, h⟩)
    · obtain ⟨_, _, _, _, hw, hx, hy, hz, -⟩ := hexNumber?_four.1 hnumber
      refine ⟨w, x, y, z, ?_, ?_⟩
      · simp only [List.forall_mem_cons, mem_hexDigitChars_iff]
        exact ⟨⟨_, hw⟩, ⟨_, hx⟩, ⟨_, hy⟩, ⟨_, hz⟩, fun _ h => absurd h List.not_mem_nil⟩
      · rw [hfront]
        exact (List.prefix_append ['\\', 'u', w, x, y, z] tail).isInfix
    · exact ⟨w, x, y, z, hdigits, h.trans (List.infix_cons List.infix_rfl)⟩

theorem escapeItems_escape {a b c d : Char} (h : hexNumber? [a, b, c, d] = some n)
    (rest : List Char) : escapeItems ('\\' :: 'u' :: a :: b :: c :: d :: rest) =
      .escaped n :: escapeItems rest := by
  rw [escapeItems, h]

theorem escapeItems_plain {c : Char} (h : ∀ unit, ¬ StartsEscape (c :: rest) unit) :
    escapeItems (c :: rest) = .plain c :: escapeItems rest := by
  rw [escapeItems.eq_def]
  split
  · rename_i heq
    split
    · exact absurd ⟨_, _, _, _, _, heq, ‹_›⟩ (h _)
    · obtain ⟨rfl, rfl⟩ := List.cons.inj heq
      rfl
  · rename_i heq
    obtain ⟨rfl, rfl⟩ := List.cons.inj heq
    rfl
  · rename_i heq
    cases heq

/-- A text is empty, or it starts with an escape, or with a character that starts none. -/
theorem segmentInduction {P : List Char → Prop} (nil : P [])
    (escape : ∀ a b c d rest n, hexNumber? [a, b, c, d] = some n → P rest →
      P ('\\' :: 'u' :: a :: b :: c :: d :: rest))
    (plain : ∀ c rest, (∀ unit, ¬ StartsEscape (c :: rest) unit) → P rest → P (c :: rest))
    (cs : List Char) : P cs := by
  induction cs using escapeItems.induct with
  | case1 a b c d rest n h ih => exact escape a b c d rest n h ih
  | case2 a b c d rest h ih =>
      refine plain _ _ ?_ ih
      rintro unit ⟨_, _, _, _, _, heq, hnumber⟩
      simp only [List.cons.injEq, true_and] at heq
      obtain ⟨rfl, rfl, rfl, rfl, -⟩ := heq
      rw [h] at hnumber
      cases hnumber
  | case3 c rest h ih =>
      refine plain c rest ?_ ih
      rintro unit ⟨_, _, _, _, _, heq, -⟩
      obtain ⟨rfl, rfl⟩ := List.cons.inj heq
      exact h _ _ _ _ _ rfl rfl
  | case4 => exact nil

/-- Code units that a text is read as. -/
def readUnits (cs : List Char) : List Nat := (escapeItems cs).flatMap EscapeItem.units

theorem readUnits_escape {a b c d : Char} (h : hexNumber? [a, b, c, d] = some n)
    (rest : List Char) :
    readUnits ('\\' :: 'u' :: a :: b :: c :: d :: rest) = n :: readUnits rest := by
  rw [readUnits, escapeItems_escape h, List.flatMap_cons]
  rfl

theorem readUnits_plain {c : Char} (h : ∀ unit, ¬ StartsEscape (c :: rest) unit) :
    readUnits (c :: rest) = codeUnits c ++ readUnits rest := by
  rw [readUnits, escapeItems_plain h, List.flatMap_cons]
  rfl

theorem unescape_eq (text : String) :
    unescape text = (decodeUnits 0 (readUnits text.toList)).map String.ofList :=
  rfl

/-! ## Written characters -/

theorem escapeChar_of_lt {c : Char} (h : c.toNat < 128) : escapeChar c = [c] := by
  rw [escapeChar, if_pos h]

theorem escapeChar_of_le {c : Char} (h : 128 ≤ c.toNat) :
    escapeChar c = (codeUnits c).flatMap escapeUnit := by
  rw [escapeChar, if_neg (Nat.not_lt.2 h)]

theorem lt_of_mem_hexDigits {c : Char} {width : Nat}
    (h : c ∈ hexDigits upperHexDigit width n) : c.toNat < 128 := by
  induction width generalizing n with
  | zero => exact absurd h List.not_mem_nil
  | succ width ih =>
      rw [hexDigits, List.mem_append, List.mem_singleton] at h
      rcases h with h | rfl
      · exact ih h
      · exact upperHexDigit_lt (Nat.mod_lt _ (by decide))

theorem lt_of_mem_escapeUnit {c : Char} (h : c ∈ escapeUnit n) : c.toNat < 128 := by
  rw [escapeUnit, List.mem_cons, List.mem_cons] at h
  rcases h with rfl | rfl | h
  · decide
  · decide
  · exact lt_of_mem_hexDigits h

theorem lt_of_mem_escapeChar {c d : Char} (h : d ∈ escapeChar c) : d.toNat < 128 := by
  rw [escapeChar] at h
  split_ifs at h with hlt
  · obtain rfl := List.mem_singleton.1 h
    exact hlt
  · obtain ⟨unit, -, h⟩ := List.mem_flatMap.1 h
    exact lt_of_mem_escapeUnit h

/-- The escape of a code unit is read as the unit. -/
theorem readUnits_escapeUnit (h : n < 0x10000) (rest : List Char) :
    readUnits (escapeUnit n ++ rest) = n :: readUnits rest := by
  have hdigit : ∀ m, hexValue? (upperHexDigit (m % 16)) = some (m % 16) :=
    fun m => hexValue?_upperHexDigit (Nat.mod_lt m (by decide))
  exact readUnits_escape (hexNumber?_four.2 ⟨_, _, _, _, hdigit (n / 16 / 16 / 16),
    hdigit (n / 16 / 16), hdigit (n / 16), hdigit n, by omega⟩) rest

theorem readUnits_flatMap_escapeUnit {units : List Nat} (h : ∀ unit ∈ units, unit < 0x10000)
    (rest : List Char) :
    readUnits (units.flatMap escapeUnit ++ rest) = units ++ readUnits rest := by
  induction units with
  | nil => rfl
  | cons unit units ih =>
      rw [List.flatMap_cons, List.append_assoc, readUnits_escapeUnit (h unit List.mem_cons_self),
        ih fun u hu => h u (List.mem_cons_of_mem unit hu), List.cons_append]

/-! ## Escaping leaves escapes as they are -/

/-- A character other than a backslash is written for itself alone. -/
theorem exists_of_flatMap_escapeChar_eq_cons {x : Char} {tail : List Char} (hx : x ≠ '\\')
    (h : cs.flatMap escapeChar = x :: tail) :
    ∃ others, cs = x :: others ∧ others.flatMap escapeChar = tail := by
  cases cs with
  | nil => cases h
  | cons c others =>
      rw [List.flatMap_cons] at h
      by_cases hc : c.toNat < 128
      · rw [escapeChar_of_lt hc] at h
        obtain ⟨rfl, rfl⟩ := List.cons.inj h
        exact ⟨others, rfl, rfl⟩
      · -- an escape begins with a backslash
        obtain ⟨unit, units, hunits⟩ := List.exists_cons_of_ne_nil (codeUnits_ne_nil c)
        rw [escapeChar_of_le (Nat.not_lt.1 hc), hunits] at h
        exact absurd (List.cons.inj h).1.symm hx

theorem ne_backslash_of_hexValue? {c : Char} {v : Nat} (h : hexValue? c = some v) : c ≠ '\\' := by
  rintro rfl
  have hnone : hexValue? '\\' = none := by decide
  cases hnone.symm.trans h

/-- Escaping what follows a character makes no escape of it. -/
theorem startsEscape_of_escaped {c : Char}
    (h : StartsEscape (c :: rest.flatMap escapeChar) n) : StartsEscape (c :: rest) n := by
  obtain ⟨w, x, y, z, tail, hfront, hnumber⟩ := h
  obtain ⟨_, _, _, _, hw, hx, hy, hz, -⟩ := hexNumber?_four.1 hnumber
  obtain ⟨rfl, hletter⟩ := List.cons.inj hfront
  -- the letter and the digits stand for themselves, one after another
  obtain ⟨r₁, rfl, h₁⟩ := exists_of_flatMap_escapeChar_eq_cons (by decide) hletter
  obtain ⟨r₂, rfl, h₂⟩ :=
    exists_of_flatMap_escapeChar_eq_cons (ne_backslash_of_hexValue? hw) h₁
  obtain ⟨r₃, rfl, h₃⟩ :=
    exists_of_flatMap_escapeChar_eq_cons (ne_backslash_of_hexValue? hx) h₂
  obtain ⟨r₄, rfl, h₄⟩ :=
    exists_of_flatMap_escapeChar_eq_cons (ne_backslash_of_hexValue? hy) h₃
  obtain ⟨r₅, rfl, -⟩ :=
    exists_of_flatMap_escapeChar_eq_cons (ne_backslash_of_hexValue? hz) h₄
  exact ⟨w, x, y, z, r₅, rfl, hnumber⟩

theorem lt_of_hexValue? {c : Char} {v : Nat} (h : hexValue? c = some v) : c.toNat < 128 := by
  rw [hexValue?] at h
  split_ifs at h <;> omega

/-- An escaped text is read as the units that the text itself is read as. -/
theorem readUnits_escaped (cs : List Char) :
    readUnits (cs.flatMap escapeChar) = readUnits cs := by
  induction cs using segmentInduction with
  | nil => rfl
  | escape a b c d rest n h ih =>
      obtain ⟨_, _, _, _, ha, hb, hc, hd, -⟩ := hexNumber?_four.1 h
      simp only [List.flatMap_cons, escapeChar_of_lt (show '\\'.toNat < 128 by decide),
        escapeChar_of_lt (show 'u'.toNat < 128 by decide), escapeChar_of_lt (lt_of_hexValue? ha),
        escapeChar_of_lt (lt_of_hexValue? hb), escapeChar_of_lt (lt_of_hexValue? hc),
        escapeChar_of_lt (lt_of_hexValue? hd), List.singleton_append]
      rw [readUnits_escape h, readUnits_escape h, ih]
  | plain c rest h ih =>
      rw [readUnits_plain h, List.flatMap_cons, ← ih]
      by_cases hc : c.toNat < 128
      · rw [escapeChar_of_lt hc, List.singleton_append,
          readUnits_plain fun unit hstart => h unit (startsEscape_of_escaped hstart)]
      · rw [escapeChar_of_le (Nat.not_lt.1 hc),
          readUnits_flatMap_escapeUnit fun unit hunit => lt_of_mem_codeUnits hunit]

/-- An escaped text stands for what the text itself stands for. -/
theorem unescape_escape (text : String) : unescape (escape text) = unescape text := by
  rw [unescape_eq, unescape_eq, escape, String.toList_ofList, readUnits_escaped]

/-! ## Texts that stand for themselves -/

/-- A text is read as at most as many units as it has, and an escape as fewer. -/
theorem length_units_le (cs : List Char) :
    (readUnits cs).length ≤ (cs.flatMap codeUnits).length ∧
      (HasEscape cs → (readUnits cs).length < (cs.flatMap codeUnits).length) := by
  induction cs using segmentInduction with
  | nil => exact ⟨Nat.le_refl _, fun h => absurd h not_hasEscape_nil⟩
  | escape a b c d rest n h ih =>
      have hunits : ∀ c, 1 ≤ (codeUnits c).length :=
        fun c => List.length_pos_iff.2 (codeUnits_ne_nil c)
      have hbackslash := hunits '\\'
      have hletter := hunits 'u'
      rw [readUnits_escape h]
      simp only [List.flatMap_cons, List.length_append, List.length_cons]
      omega
  | plain c rest h ih =>
      rw [readUnits_plain h, hasEscape_cons_iff]
      simp only [List.flatMap_cons, List.length_append]
      refine ⟨Nat.add_le_add_left ih.1 _, ?_⟩
      rintro (⟨unit, hstart⟩ | hrest)
      · exact absurd hstart (h unit)
      · exact Nat.add_lt_add_left (ih.2 hrest) _

theorem readUnits_of_not_hasEscape (h : ¬ HasEscape cs) : readUnits cs = cs.flatMap codeUnits := by
  induction cs with
  | nil => rfl
  | cons c rest ih =>
      rw [hasEscape_cons_iff, not_or, not_exists] at h
      rw [readUnits_plain h.1, ih h.2, List.flatMap_cons]

theorem lt_of_mem_readUnits {unit : Nat} (h : unit ∈ readUnits cs) : unit < 0x10000 := by
  induction cs using segmentInduction with
  | nil => exact absurd h List.not_mem_nil
  | escape a b c d rest n hnumber ih =>
      rw [readUnits_escape hnumber, List.mem_cons] at h
      rcases h with rfl | h
      · exact hexNumber?_lt hnumber
      · exact ih h
  | plain c rest hplain ih =>
      rw [readUnits_plain hplain, List.mem_append] at h
      rcases h with h | h
      · exact lt_of_mem_codeUnits h
      · exact ih h

/-- A text stands for the one whose units it is read as. -/
theorem unescape_eq_ok_iff {text other : String} :
    unescape text = .ok other ↔ readUnits text.toList = other.toList.flatMap codeUnits := by
  rw [← decodeUnits_eq_ok_iff fun _ => lt_of_mem_readUnits, unescape_eq, map_eq_ok_iff]
  constructor
  · rintro ⟨cs, hcs, rfl⟩
    rwa [String.toList_ofList]
  · intro h
    exact ⟨other.toList, h, String.ofList_toList⟩

/-- A text stands for itself if it has no escape, and only then. -/
theorem unescape_eq_self_iff (text : String) :
    unescape text = .ok text ↔ ¬ HasEscape text.toList := by
  rw [unescape_eq_ok_iff]
  constructor
  · intro h hescape
    exact Nat.ne_of_lt ((length_units_le text.toList).2 hescape) (congrArg List.length h)
  · exact readUnits_of_not_hasEscape

/-- Reading an escaped text gives the text back exactly if a backslash, the letter u and four
hexadecimal digits stand nowhere in it. An escaped text is plain ASCII in any case. -/
theorem unescape_escape_iff (text : String) :
    (unescape (escape text) = .ok text ↔ ¬ HasEscape text.toList) ∧
      ∀ c ∈ (escape text).toList, c.toNat < 128 := by
  constructor
  · rw [unescape_escape, unescape_eq_self_iff]
  · intro c hc
    rw [escape, String.toList_ofList] at hc
    obtain ⟨d, -, hc⟩ := List.mem_flatMap.1 hc
    exact lt_of_mem_escapeChar hc

example : unescape (escape "\\u0041") = .ok "A" := by
  decide

end Skeletal.Text
