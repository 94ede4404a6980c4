import Skeletal.Proofs.Text.Occurrence

/-!
# Texts that escaping writes

A text is what escaping makes of the text it stands for exactly if it is plain ASCII, its escapes
have upper-case digits and stand for units beyond ASCII, and those of surrogates stand in pairs
(`escape_unescape_iff`). Any other escape is written in another way or, if it stands for an ASCII
unit, not as an escape: what is written for the units of a text is then shorter than the text
(`length_written_le`).
-/

set_option autoImplicit false

namespace Skeletal.Text

variable {cs rest before digits after : List Char} {unit : Nat}

/-- What is written for a code unit. -/
def writeUnit (unit : Nat) : List Char :=
  if unit < 128 then [Char.ofNat unit] else escapeUnit unit

/-! ## Writing unit by unit -/

theorem writeUnit_of_lt (h : unit < 128) : writeUnit unit = [Char.ofNat unit] := by
  rw [writeUnit, if_pos h]

theorem writeUnit_of_le (h : 128 ≤ unit) : writeUnit unit = escapeUnit unit := by
  rw [writeUnit, if_neg (Nat.not_lt.2 h)]

/-- The units of a character beyond ASCII are beyond ASCII. -/
theorem le_of_mem_codeUnits {c : Char} (hc : 128 ≤ c.toNat) (h : unit ∈ codeUnits c) :
    128 ≤ unit := by
  rw [codeUnits] at h
  split_ifs at h
  · obtain rfl := List.mem_singleton.1 h
    exact hc
  · simp only [List.mem_cons, List.not_mem_nil, or_false] at h
    omega

theorem escapeChar_eq_flatMap (c : Char) : escapeChar c = (codeUnits c).flatMap writeUnit := by
  by_cases hc : c.toNat < 128
  · rw [escapeChar_of_lt hc, codeUnits_of_lt (Nat.lt_trans hc (by decide)), List.flatMap_singleton,
      writeUnit_of_lt hc, Char.ofNat_toNat]
  · rw [escapeChar_of_le (Nat.not_lt.1 hc)]
    apply List.flatMap_congr
    intro unit hunit
    exact (writeUnit_of_le (le_of_mem_codeUnits (Nat.not_lt.1 hc) hunit)).symm

theorem lt_of_mem_writeUnit {c : Char} (h : c ∈ writeUnit unit) : c.toNat < 128 := by
  rw [writeUnit] at h
  split_ifs at h with hlt
  · obtain rfl := List.mem_singleton.1 h
    rwa [toNat_ofNat (by rw [Nat.isValidChar]; omega)]
  · exact lt_of_mem_escapeUnit h

theorem length_writeUnit_le (unit : Nat) : (writeUnit unit).length ≤ 6 := by
  rw [writeUnit]
  split_ifs
  · rw [List.length_singleton]
    decide
  · exact Nat.le_refl 6

/-- What is written for the units of a text. -/
def written (cs : List Char) : List Char := (readUnits cs).flatMap writeUnit

theorem EscapeAt.written (h : EscapeAt cs before digits after unit) :
    written cs = written before ++ (writeUnit unit ++ written after) := by
  rw [Text.written, h.units, List.flatMap_append, List.flatMap_cons]
  rfl

theorem written_escape {a b c d : Char} (hvalue : hexNumber? [a, b, c, d] = some unit)
    (rest : List Char) :
    written ('\\' :: 'u' :: a :: b :: c :: d :: rest) = writeUnit unit ++ written rest := by
  rw [written, readUnits_escape hvalue, List.flatMap_cons]
  rfl

theorem written_plain {c : Char} (hplain : ∀ unit, ¬ StartsEscape (c :: rest) unit)
    (hc : c.toNat < 128) : written (c :: rest) = c :: written rest := by
  rw [written, readUnits_plain hplain, List.flatMap_append, ← escapeChar_eq_flatMap,
    escapeChar_of_lt hc]
  rfl

/-- A text is escaped again as what is written for its units. -/
theorem exists_escape_eq_iff (text : String) :
    (∃ other, unescape text = .ok other ∧ escape other = text) ↔
      Paired (readUnits text.toList) ∧ written text.toList = text.toList := by
  have hescape : ∀ other, unescape text = .ok other →
      (escape other).toList = written text.toList := by
    intro other hother
    rw [escape, String.toList_ofList, written, unescape_eq_ok_iff.1 hother, List.flatMap_assoc]
    exact List.flatMap_congr fun c _ => escapeChar_eq_flatMap c
  rw [← exists_decodeUnits_iff 0]
  constructor
  · rintro ⟨other, hother, htext⟩
    obtain ⟨cs, hcs, -⟩ := map_eq_ok_iff.1 hother
    refine ⟨⟨cs, hcs⟩, ?_⟩
    rw [← hescape other hother, htext]
  · rintro ⟨⟨cs, hcs⟩, hwritten⟩
    have hother : unescape text = .ok (String.ofList cs) := by
      rw [unescape_eq, hcs]
      rfl
    refine ⟨String.ofList cs, hother, ?_⟩
    rw [← String.toList_inj, hescape _ hother, hwritten]

/-! ## The form of an escape -/

/-- Hexadecimal digits that are written. -/
def upperHexDigitChars : List Char := "0123456789ABCDEF".toList

theorem upperHexDigit_eq_iff {c : Char} {v : Nat} (h : hexValue? c = some v) :
    upperHexDigit v = c ↔ c ∈ upperHexDigitChars := by
  have hall : hexDigitChars.all (fun c => (hexValue? c).all fun v =>
      decide (upperHexDigit v = c ↔ c ∈ upperHexDigitChars)) = true := by
    decide
  have hc := List.all_eq_true.1 hall c (mem_hexDigitChars_iff.2 ⟨v, h⟩)
  rw [h] at hc
  exact of_decide_eq_true hc

theorem hexDigits_eq_iff (hfour : digits.length = 4) (hvalue : hexNumber? digits = some unit) :
    hexDigits upperHexDigit 4 unit = digits ↔ ∀ d ∈ digits, d ∈ upperHexDigitChars := by
  obtain ⟨a, b, c, d, rfl⟩ := exists_of_length_four hfour
  obtain ⟨w, x, y, z, ha, hb, hc, hd, rfl⟩ := hexNumber?_four.1 hvalue
  have hw := hexValue?_lt ha
  have hx := hexValue?_lt hb
  have hy := hexValue?_lt hc
  have hz := hexValue?_lt hd
  -- dividing by the base gives the values of the digits back
  have hdigits : hexDigits upperHexDigit 4 (((w * 16 + x) * 16 + y) * 16 + z) =
      [upperHexDigit w, upperHexDigit x, upperHexDigit y, upperHexDigit z] := by
    have h₁ : (((w * 16 + x) * 16 + y) * 16 + z) / 16 = (w * 16 + x) * 16 + y := by omega
    have h₂ : ((w * 16 + x) * 16 + y) / 16 = w * 16 + x := by omega
    have h₃ : (w * 16 + x) / 16 = w := by omega
    simp [hexDigits, h₁, h₂, h₃, Nat.mod_eq_of_lt, hw, hx, hy, hz]
  simp [hdigits, upperHexDigit_eq_iff ha, upperHexDigit_eq_iff hb, upperHexDigit_eq_iff hc,
    upperHexDigit_eq_iff hd]

/-- An escape is written again as it stands if its digits are upper-case and its unit is beyond
ASCII. -/
theorem EscapeAt.writeUnit_eq_iff (h : EscapeAt cs before digits after unit) :
    writeUnit unit = '\\' :: 'u' :: digits ↔
      (∀ d ∈ digits, d ∈ upperHexDigitChars) ∧ 128 ≤ unit := by
  by_cases hunit : unit < 128
  · rw [writeUnit_of_lt hunit]
    simp [Nat.not_le.2 hunit]
  · rw [writeUnit_of_le (Nat.not_lt.1 hunit), ← hexDigits_eq_iff h.four h.value, escapeUnit]
    simp [Nat.not_lt.1 hunit]

/-! ## Texts that are written again as they stand -/

theorem EscapeAt.prepend (h : EscapeAt cs before digits after unit) (front : List Char) :
    EscapeAt (front ++ cs) (front ++ before) digits after unit := by
  refine ⟨?_, h.four, h.value⟩
  rw [h.split, List.append_assoc]

theorem length_written_le (hascii : ∀ c ∈ cs, c.toNat < 128) :
    (written cs).length ≤ cs.length := by
  induction cs using segmentInduction with
  | nil => exact Nat.le_refl 0
  | escape a b c d rest n hvalue ih =>
      have hrest := ih fun c hc => hascii c (by simp [hc])
      have hunit := length_writeUnit_le n
      rw [written_escape hvalue, List.length_append]
      simp only [List.length_cons]
      omega
  | plain c rest hplain ih =>
      rw [written_plain hplain (hascii c List.mem_cons_self)]
      exact Nat.succ_le_succ (ih fun c hc => hascii c (List.mem_cons_of_mem _ hc))

/-- A text of plain ASCII is written again exactly if each escape in it is. -/
theorem written_eq_iff (hascii : ∀ c ∈ cs, c.toNat < 128) : written cs = cs ↔
    ∀ before digits after unit, EscapeAt cs before digits after unit →
      writeUnit unit = '\\' :: 'u' :: digits := by
  constructor
  · intro h before digits after unit hat
    have hparts : written before ++ (writeUnit unit ++ written after) =
        before ++ (('\\' :: 'u' :: digits) ++ after) := by
      rw [← hat.written, h, hat.split]
      rfl
    rw [hat.split, List.forall_mem_append] at hascii
    -- no part is longer when written, so none is shorter
    have hbefore := length_written_le hascii.1
    have hunit := length_writeUnit_le unit
    have hafter : (written after).length ≤ after.length :=
      length_written_le fun c hc => hascii.2 c (by simp [hc])
    have hlengths := congrArg List.length hparts
    simp only [List.length_append, List.length_cons, hat.four] at hlengths
    have hrest := (List.append_inj hparts (by omega)).2
    exact (List.append_inj hrest (by simp only [List.length_cons, hat.four]; omega)).1
  · intro h
    induction cs using segmentInduction with
    | nil => rfl
    | escape a b c d rest n hvalue ih =>
        have hfront := h [] [a, b, c, d] rest n ⟨rfl, rfl, hvalue⟩
        have hrest : written rest = rest :=
          ih (fun c hc => hascii c (by simp [hc])) fun before digits after unit hat =>
            h _ digits after unit (hat.prepend ['\\', 'u', a, b, c, d])
        rw [written_escape hvalue, hfront, hrest]
        rfl
    | plain c rest hplain ih =>
        rw [written_plain hplain (hascii c List.mem_cons_self),
          ih (fun c hc => hascii c (List.mem_cons_of_mem _ hc)) fun before digits after unit hat =>
            h _ digits after unit (hat.prepend [c])]

/-- Plain ASCII whose escapes all have upper-case digits and stand for units beyond ASCII, those of
surrogates side by side in pairs. -/
structure IsWritten (cs : List Char) : Prop where
  ascii : ∀ c ∈ cs, c.toNat < 128
  upperCase : ∀ before digits after unit, EscapeAt cs before digits after unit →
    ∀ d ∈ digits, d ∈ upperHexDigitChars
  beyondAscii : ∀ before digits after unit, EscapeAt cs before digits after unit → 128 ≤ unit
  partnered : ∀ before digits after unit, EscapeAt cs before digits after unit →
    Partnered before after unit

/-- Escaping gives a text back from what the text stands for exactly if the text is of the form
that escaping writes. -/
theorem escape_unescape_iff (text : String) :
    (∃ other, unescape text = .ok other ∧ escape other = text) ↔ IsWritten text.toList := by
  rw [exists_escape_eq_iff, paired_readUnits_iff]
  constructor
  · rintro ⟨hpartnered, hwritten⟩
    have hascii : ∀ c ∈ text.toList, c.toNat < 128 := by
      intro c hc
      rw [← hwritten, written] at hc
      obtain ⟨unit, -, hc⟩ := List.mem_flatMap.1 hc
      exact lt_of_mem_writeUnit hc
    have hescapes := (written_eq_iff hascii).1 hwritten
    exact ⟨hascii, fun _ _ _ _ hat => (hat.writeUnit_eq_iff.1 (hescapes _ _ _ _ hat)).1,
      fun _ _ _ _ hat => (hat.writeUnit_eq_iff.1 (hescapes _ _ _ _ hat)).2, hpartnered⟩
  · rintro ⟨hascii, hupper, hbeyond, hpartnered⟩
    refine ⟨hpartnered, (written_eq_iff hascii).2 ?_⟩
    intro before digits after unit hat
    exact hat.writeUnit_eq_iff.2 ⟨hupper _ _ _ _ hat, hbeyond _ _ _ _ hat⟩

end Skeletal.Text
