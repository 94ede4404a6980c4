import Mathlib.Data.List.Basic
import Skeletal.Proofs.Attempt
import Skeletal.Text.Escape

/-!
# Code units and characters

A sequence of code units is decoded exactly if it is made of the units of characters
(`decodeUnits_eq_ok_iff`), and then those are the characters. So a text is known by its units. This
is so exactly if each surrogate has its partner beside it (`exists_decodeUnits_iff`).
-/

set_option autoImplicit false

namespace Skeletal.Text

variable {unit high low : Nat} {units : List Nat} {cs : List Char}

/-! ## Characters -/

theorem toNat_ofNat {n : Nat} (h : n.isValidChar) : (Char.ofNat n).toNat = n := by
  rw [Char.ofNat, dif_pos h]
  rfl

/-- No character is a surrogate. -/
theorem not_surrogate (c : Char) :
    isHighSurrogate c.toNat = false ∧ isLowSurrogate c.toNat = false := by
  have hvalid : c.toNat < 0xD800 ∨ 0xDFFF < c.toNat ∧ c.toNat < 0x110000 := c.valid
  simp only [isHighSurrogate, isLowSurrogate, Bool.and_eq_false_iff, decide_eq_false_iff_not]
  omega

theorem codeUnits_of_lt {c : Char} (h : c.toNat < 0x10000) : codeUnits c = [c.toNat] := by
  rw [codeUnits, if_pos h]

/-- A character above the basic plane has a high and a low surrogate, of which it is the pair. -/
theorem exists_pair_of_le {c : Char} (h : 0x10000 ≤ c.toNat) :
    ∃ high low, codeUnits c = [high, low] ∧ isHighSurrogate high = true ∧
      isLowSurrogate low = true ∧ pairedChar high low = c := by
  have hvalid : c.toNat < 0xD800 ∨ 0xDFFF < c.toNat ∧ c.toNat < 0x110000 := c.valid
  refine ⟨_, _, by rw [codeUnits, if_neg (Nat.not_lt.2 h)], ?_, ?_, ?_⟩
  · simp only [isHighSurrogate, Bool.and_eq_true, decide_eq_true_eq]
    omega
  · simp only [isLowSurrogate, Bool.and_eq_true, decide_eq_true_eq]
    omega
  · -- quotient and remainder make up the code point again
    have hsum : 0x10000 + (0xD800 + (c.toNat - 0x10000) / 0x400 - 0xD800) * 0x400 +
        (0xDC00 + (c.toNat - 0x10000) % 0x400 - 0xDC00) = c.toNat := by
      omega
    rw [pairedChar, hsum, Char.ofNat_toNat]

/-- Every unit is of sixteen bits. -/
theorem lt_of_mem_codeUnits {c : Char} (h : unit ∈ codeUnits c) : unit < 0x10000 := by
  have hvalid : c.toNat < 0xD800 ∨ 0xDFFF < c.toNat ∧ c.toNat < 0x110000 := c.valid
  rw [codeUnits] at h
  split_ifs at h
  · obtain rfl := List.mem_singleton.1 h
    assumption
  · simp only [List.mem_cons, List.not_mem_nil, or_false] at h
    omega

theorem codeUnits_ne_nil (c : Char) : codeUnits c ≠ [] := by
  rw [codeUnits]
  split_ifs <;> simp

/-! ## Pairs -/

/-- A pair of surrogates is made of the units of its character. -/
theorem codeUnits_pairedChar (hhigh : isHighSurrogate high = true)
    (hlow : isLowSurrogate low = true) : codeUnits (pairedChar high low) = [high, low] := by
  simp only [isHighSurrogate, isLowSurrogate, Bool.and_eq_true, decide_eq_true_eq] at hhigh hlow
  have hpoint : (pairedChar high low).toNat =
      0x10000 + (high - 0xD800) * 0x400 + (low - 0xDC00) := by
    refine toNat_ofNat (Or.inr ?_)
    omega
  have hdiv : 0xD800 + ((pairedChar high low).toNat - 0x10000) / 0x400 = high := by omega
  have hmod : 0xDC00 + ((pairedChar high low).toNat - 0x10000) % 0x400 = low := by omega
  rw [codeUnits, if_neg (by omega), hdiv, hmod]

/-- A unit that is no surrogate is the only one of its character. -/
theorem codeUnits_ofNat (hlt : unit < 0x10000) (hhigh : ¬ isHighSurrogate unit = true)
    (hlow : ¬ isLowSurrogate unit = true) : codeUnits (Char.ofNat unit) = [unit] := by
  simp only [isHighSurrogate, isLowSurrogate, Bool.and_eq_true, decide_eq_true_eq] at hhigh hlow
  have hpoint : (Char.ofNat unit).toNat = unit := by
    refine toNat_ofNat ?_
    rw [Nat.isValidChar]
    omega
  rw [codeUnits_of_lt (by omega), hpoint]

/-! ## Decoding -/

theorem decodeUnits_cons {position : Nat} (hhigh : isHighSurrogate unit = false)
    (hlow : isLowSurrogate unit = false) : decodeUnits position (unit :: units) =
      (decodeUnits (position + 1) units).map (Char.ofNat unit :: ·) := by
  cases units with
  | nil => simp [decodeUnits, hhigh, hlow, Except.map]
  | cons next rest => simp [decodeUnits, hhigh, hlow]

/-- The units of characters are decoded to the characters. -/
theorem decodeUnits_flatMap_codeUnits (position : Nat) (cs : List Char) :
    decodeUnits position (cs.flatMap codeUnits) = .ok cs := by
  induction cs generalizing position with
  | nil => rfl
  | cons c cs ih =>
      rw [List.flatMap_cons]
      by_cases h : c.toNat < 0x10000
      · obtain ⟨hhigh, hlow⟩ := not_surrogate c
        rw [codeUnits_of_lt h, List.singleton_append, decodeUnits_cons hhigh hlow, ih,
          Char.ofNat_toNat]
        rfl
      · obtain ⟨high, low, hunits, hhigh, hlow, hpair⟩ := exists_pair_of_le (Nat.not_lt.1 h)
        rw [hunits, List.cons_append, List.cons_append, List.nil_append, decodeUnits, if_pos hhigh,
          if_pos hlow, ih, hpair]
        rfl

/-- What is decoded is made of the units of its characters. -/
theorem flatMap_codeUnits_of_decodeUnits {position : Nat} (hlt : ∀ unit ∈ units, unit < 0x10000)
    (h : decodeUnits position units = .ok cs) : cs.flatMap codeUnits = units := by
  -- the induction is on the decoding, which takes a unit or a pair
  induction position, units using decodeUnits.induct generalizing cs with
  | case1 position =>
      rw [decodeUnits] at h
      obtain rfl := Except.ok.inj h
      rfl
  | case2 position unit hhigh =>
      rw [decodeUnits, if_pos hhigh] at h
      cases h
  | case3 position unit hhigh hlow =>
      rw [decodeUnits, if_neg hhigh, if_pos hlow] at h
      cases h
  | case4 position unit hhigh hlow =>
      rw [decodeUnits, if_neg hhigh, if_neg hlow] at h
      obtain rfl := Except.ok.inj h
      rw [List.flatMap_singleton, codeUnits_ofNat (hlt unit List.mem_cons_self) hhigh hlow]
  | case5 position unit next rest hhigh hlow ih =>
      rw [decodeUnits, if_pos hhigh, if_pos hlow] at h
      obtain ⟨others, hothers, rfl⟩ := map_eq_ok_iff.1 h
      rw [List.flatMap_cons, codeUnits_pairedChar hhigh hlow,
        ih (fun u hu => hlt u (List.mem_cons_of_mem _ (List.mem_cons_of_mem _ hu))) hothers]
      rfl
  | case6 position unit next rest hhigh hlow =>
      rw [decodeUnits, if_pos hhigh, if_neg hlow] at h
      cases h
  | case7 position unit next rest hhigh hlow =>
      rw [decodeUnits, if_neg hhigh, if_pos hlow] at h
      cases h
  | case8 position unit next rest hhigh hlow ih =>
      rw [decodeUnits, if_neg hhigh, if_neg hlow] at h
      obtain ⟨others, hothers, rfl⟩ := map_eq_ok_iff.1 h
      rw [List.flatMap_cons, codeUnits_ofNat (hlt unit List.mem_cons_self) hhigh hlow,
        ih (fun u hu => hlt u (List.mem_cons_of_mem _ hu)) hothers]
      rfl

theorem decodeUnits_eq_ok_iff {position : Nat} (hlt : ∀ unit ∈ units, unit < 0x10000) :
    decodeUnits position units = .ok cs ↔ units = cs.flatMap codeUnits := by
  constructor
  · intro h
    exact (flatMap_codeUnits_of_decodeUnits hlt h).symm
  · rintro rfl
    exact decodeUnits_flatMap_codeUnits position cs

/-! ## Partners -/

/-- Every surrogate has its partner beside it, a high one behind it and a low one in front. -/
def Paired (units : List Nat) : Prop :=
  ∀ before unit after, units = before ++ unit :: after →
    (isHighSurrogate unit = true → after.head?.any isLowSurrogate = true) ∧
      (isLowSurrogate unit = true → before.getLast?.any isHighSurrogate = true)

theorem not_low_of_high (h : isHighSurrogate unit = true) : isLowSurrogate unit = false := by
  simp only [isHighSurrogate, isLowSurrogate, Bool.and_eq_true, decide_eq_true_eq,
    Bool.and_eq_false_iff, decide_eq_false_iff_not] at h ⊢
  omega

theorem paired_nil : Paired [] := by
  intro before unit after h
  cases before <;> cases h

/-- In front of a unit that is no surrogate the others keep their partners. -/
theorem paired_cons_iff (hhigh : isHighSurrogate unit = false)
    (hlow : isLowSurrogate unit = false) : Paired (unit :: units) ↔ Paired units := by
  constructor
  · intro h before other after hsplit
    obtain ⟨hbehind, hbefore⟩ := h (unit :: before) other after (by rw [hsplit, List.cons_append])
    refine ⟨hbehind, ?_⟩
    intro hother
    have hlast := hbefore hother
    cases before with
    | nil => simp [hhigh] at hlast
    | cons b before => rwa [List.getLast?_cons_cons] at hlast
  · intro h before other after hsplit
    cases before with
    | nil =>
        obtain ⟨rfl, rfl⟩ := List.cons.inj hsplit
        simp [hhigh, hlow]
    | cons b before =>
        obtain ⟨rfl, hrest⟩ := List.cons.inj hsplit
        obtain ⟨hbehind, hbefore⟩ := h before other after hrest
        refine ⟨hbehind, ?_⟩
        intro hother
        have hlast := hbefore hother
        cases before with
        | nil => simp at hlast
        | cons c before => rwa [List.getLast?_cons_cons]

/-- A pair stands for itself, whatever follows. -/
theorem paired_cons_cons_iff (hhigh : isHighSurrogate high = true)
    (hlow : isLowSurrogate low = true) : Paired (high :: low :: units) ↔ Paired units := by
  have hlow' : isHighSurrogate low = false := by
    by_contra h
    exact Bool.false_ne_true ((not_low_of_high (eq_true_of_ne_false h)).symm.trans hlow)
  constructor
  · intro h before other after hsplit
    obtain ⟨hbehind, hbefore⟩ := h (high :: low :: before) other after (by rw [hsplit]; rfl)
    refine ⟨hbehind, ?_⟩
    intro hother
    have hlast := hbefore hother
    cases before with
    | nil => simp [hlow'] at hlast
    | cons b before => rwa [List.getLast?_cons_cons, List.getLast?_cons_cons] at hlast
  · intro h before other after hsplit
    rcases before with _ | ⟨b, _ | ⟨c, before⟩⟩
    · obtain ⟨rfl, rfl⟩ := List.cons.inj hsplit
      simp [hlow, not_low_of_high hhigh]
    · obtain ⟨rfl, hrest⟩ := List.cons.inj hsplit
      obtain ⟨rfl, rfl⟩ := List.cons.inj hrest
      simp [hhigh, hlow']
    · obtain ⟨rfl, hsplit'⟩ := List.cons.inj hsplit
      obtain ⟨rfl, hrest⟩ := List.cons.inj hsplit'
      obtain ⟨hbehind, hbefore⟩ := h before other after hrest
      refine ⟨hbehind, ?_⟩
      intro hother
      have hlast := hbefore hother
      cases before with
      | nil => simp at hlast
      | cons d before => rwa [List.getLast?_cons_cons, List.getLast?_cons_cons]

theorem not_paired_cons_of_low (hlow : isLowSurrogate unit = true) : ¬ Paired (unit :: units) := by
  intro h
  have hlast := (h [] unit units rfl).2 hlow
  cases hlast

theorem not_paired_of_alone (hhigh : isHighSurrogate unit = true)
    (hnext : ¬ units.head?.any isLowSurrogate = true) : ¬ Paired (unit :: units) := by
  intro h
  exact hnext ((h [] unit units rfl).1 hhigh)

/-- A sequence of code units is decoded if each surrogate has its partner, and only then. -/
theorem exists_decodeUnits_iff (position : Nat) (units : List Nat) :
    (∃ cs, decodeUnits position units = .ok cs) ↔ Paired units := by
  induction position, units using decodeUnits.induct with
  | case1 position => exact iff_of_true ⟨[], rfl⟩ paired_nil
  | case2 position unit hhigh =>
      refine iff_of_false ?_ (not_paired_of_alone hhigh (by simp))
      rw [decodeUnits, if_pos hhigh]
      simp
  | case3 position unit hhigh hlow =>
      refine iff_of_false ?_ (not_paired_cons_of_low hlow)
      rw [decodeUnits, if_neg hhigh, if_pos hlow]
      simp
  | case4 position unit hhigh hlow =>
      rw [paired_cons_iff (by simpa using hhigh) (by simpa using hlow), decodeUnits, if_neg hhigh,
        if_neg hlow]
      exact iff_of_true ⟨_, rfl⟩ paired_nil
  | case5 position unit next rest hhigh hlow ih =>
      rw [paired_cons_cons_iff hhigh hlow, ← ih, decodeUnits, if_pos hhigh, if_pos hlow]
      simp only [map_eq_ok_iff]
      exact ⟨fun ⟨_, cs, hcs, _⟩ => ⟨cs, hcs⟩, fun ⟨cs, hcs⟩ => ⟨_, cs, hcs, rfl⟩⟩
  | case6 position unit next rest hhigh hlow =>
      refine iff_of_false ?_ (not_paired_of_alone hhigh (by simpa using hlow))
      rw [decodeUnits, if_pos hhigh, if_neg hlow]
      simp
  | case7 position unit next rest hhigh hlow =>
      refine iff_of_false ?_ (not_paired_cons_of_low hlow)
      rw [decodeUnits, if_neg hhigh, if_pos hlow]
      simp
  | case8 position unit next rest hhigh hlow ih =>
      rw [paired_cons_iff (by simpa using hhigh) (by simpa using hlow), ← ih, decodeUnits,
        if_neg hhigh, if_neg hlow]
      simp only [map_eq_ok_iff]
      exact ⟨fun ⟨_, cs, hcs, _⟩ => ⟨cs, hcs⟩, fun ⟨cs, hcs⟩ => ⟨_, cs, hcs, rfl⟩⟩

end Skeletal.Text
