import Mathlib.Data.Nat.Find
import Skeletal.Proofs.Text.Occurrence

/-!
# Texts that cannot be read

Reading fails at the first surrogate without its partner beside it (`decodeUnits_eq_error_iff`). A
character has its surrogates in pairs, so this one comes from an escape
(`IsUnpaired.exists_escapeAt`): a text cannot be read exactly if the escape of a surrogate stands
alone in it, and the error tells the number of units in front of the first such escape
(`unescape_eq_error_iff`).
-/

set_option autoImplicit false

namespace Skeletal.Text

variable {units before after earlier later : List Nat} {unit other position : Nat}

/-! ## Surrogates without partners -/

/-- Between these units stands a surrogate that has no partner beside it. -/
def IsUnpaired (before : List Nat) (unit : Nat) (after : List Nat) : Prop :=
  isHighSurrogate unit = true ∧ ¬ after.head?.any isLowSurrogate = true ∨
    isLowSurrogate unit = true ∧ ¬ before.getLast?.any isHighSurrogate = true

/-- What is wrong with a surrogate that has no partner. -/
def faultOf (unit : Nat) (after : List Nat) : SurrogateFault :=
  if isHighSurrogate unit then if after.isEmpty then .highAtEnd else .highAlone else .lowAlone

/-- A sequence has its first unpaired surrogate between these units. -/
structure FirstUnpaired (units before : List Nat) (unit : Nat) (after : List Nat) : Prop where
  split : units = before ++ unit :: after
  unpaired : IsUnpaired before unit after
  first : ∀ earlier other later, units = earlier ++ other :: later →
    earlier.length < before.length → ¬ IsUnpaired earlier other later

theorem paired_iff_not_isUnpaired : Paired units ↔
    ∀ before unit after, units = before ++ unit :: after → ¬ IsUnpaired before unit after := by
  simp only [Paired, IsUnpaired, not_or, not_and, not_not]

/-- A sequence in which some surrogate has no partner has a first such surrogate. -/
theorem exists_firstUnpaired (h : ¬ Paired units) :
    ∃ before unit after, FirstUnpaired units before unit after := by
  have hlength : ∃ n before unit after, before.length = n ∧ units = before ++ unit :: after ∧
      IsUnpaired before unit after := by
    simpa [paired_iff_not_isUnpaired] using h
  classical
  obtain ⟨before, unit, after, hfind, hsplit, hunpaired⟩ := Nat.find_spec hlength
  refine ⟨before, unit, after, hsplit, hunpaired, ?_⟩
  intro earlier other later hearlier hshorter hother
  exact Nat.find_min hlength (hfind ▸ hshorter) ⟨earlier, other, later, rfl, hearlier, hother⟩

/-- In front of the first unpaired surrogate the others are paired among themselves. -/
theorem FirstUnpaired.paired (h : FirstUnpaired units before unit after) : Paired before := by
  intro earlier other later hsplit
  subst hsplit
  have hother := h.first earlier other (later ++ unit :: after)
    (by rw [h.split, List.append_assoc, List.cons_append]) (by simp)
  simp only [IsUnpaired, not_or, not_and, not_not] at hother
  refine ⟨fun hhigh => ?_, hother.2⟩
  have hlow := hother.1 hhigh
  cases later with
  | cons next later => exact hlow
  | nil =>
      -- the unpaired surrogate would be the partner
      rcases h.unpaired with ⟨hhigh', -⟩ | ⟨-, hbefore⟩
      · exact absurd hlow (by simp [not_low_of_high hhigh'])
      · exact absurd hbefore (by simp [hhigh])

/-! ## Decoding -/

/-- Behind the units of characters decoding goes on with what follows. -/
theorem decodeUnits_flatMap_append (position : Nat) (cs : List Char) (rest : List Nat) :
    decodeUnits position (cs.flatMap codeUnits ++ rest) =
      (decodeUnits (position + (cs.flatMap codeUnits).length) rest).map (cs ++ ·) := by
  induction cs generalizing position with
  | nil =>
      rw [List.flatMap_nil, List.nil_append, List.length_nil, Nat.add_zero]
      cases decodeUnits position rest <;> rfl
  | cons c cs ih =>
      rw [List.flatMap_cons, List.append_assoc, List.length_append, ← Nat.add_assoc]
      by_cases h : c.toNat < 0x10000
      · obtain ⟨hhigh, hlow⟩ := not_surrogate c
        rw [codeUnits_of_lt h, List.singleton_append, decodeUnits_cons hhigh hlow, ih,
          Char.ofNat_toNat, List.length_singleton]
        cases decodeUnits (position + 1 + (cs.flatMap codeUnits).length) rest <;> rfl
      · obtain ⟨high, low, hunits, hhigh, hlow, hpair⟩ := exists_pair_of_le (Nat.not_lt.1 h)
        rw [hunits, List.cons_append, List.cons_append, List.nil_append, decodeUnits, if_pos hhigh,
          if_pos hlow, ih, hpair]
        cases decodeUnits (position + 2 + (cs.flatMap codeUnits).length) rest <;> rfl

theorem decodeUnits_of_isUnpaired (h : IsUnpaired before unit after) (position : Nat) :
    decodeUnits position (unit :: after) = .error ⟨position, faultOf unit after⟩ := by
  rcases h with ⟨hhigh, hafter⟩ | ⟨hlow, hlast⟩
  · cases after with
    | nil => simp [decodeUnits, faultOf, hhigh]
    | cons next rest =>
        have hnext : isLowSurrogate next = false := by simpa using hafter
        simp [decodeUnits, faultOf, hhigh, hnext]
  · have hhigh : isHighSurrogate unit = false := by
      cases hhigh : isHighSurrogate unit with
      | false => rfl
      | true => exact absurd hlow (by simp [not_low_of_high hhigh])
    cases after with
    | nil => simp [decodeUnits, faultOf, hhigh, hlow]
    | cons next rest => simp [decodeUnits, faultOf, hhigh, hlow]

/-- Decoding fails at the first surrogate that has no partner. -/
theorem FirstUnpaired.decodeUnits_eq (h : FirstUnpaired units before unit after)
    (hlt : ∀ unit ∈ units, unit < 0x10000) (position : Nat) :
    decodeUnits position units = .error ⟨position + before.length, faultOf unit after⟩ := by
  obtain ⟨cs, hcs⟩ := (exists_decodeUnits_iff 0 before).2 h.paired
  have hbefore : before = cs.flatMap codeUnits :=
    (decodeUnits_eq_ok_iff fun n hn => hlt n (by simp [h.split, hn])).1 hcs
  rw [h.split, hbefore, decodeUnits_flatMap_append, ← hbefore,
    decodeUnits_of_isUnpaired h.unpaired]
  rfl

theorem decodeUnits_eq_error_iff {e : UnpairedSurrogate} (hlt : ∀ unit ∈ units, unit < 0x10000) :
    decodeUnits position units = .error e ↔ ∃ before unit after,
      FirstUnpaired units before unit after ∧ e = ⟨position + before.length, faultOf unit after⟩ := by
  constructor
  · intro h
    have hnot : ¬ Paired units := by
      rw [← exists_decodeUnits_iff position, h]
      simp
    obtain ⟨before, unit, after, hfirst⟩ := exists_firstUnpaired hnot
    refine ⟨before, unit, after, hfirst, ?_⟩
    rw [hfirst.decodeUnits_eq hlt] at h
    exact (Except.error.inj h).symm
  · rintro ⟨before, unit, after, hfirst, rfl⟩
    exact hfirst.decodeUnits_eq hlt position

/-! ## Escapes without partners -/

/-- The escape of a surrogate has no escape of a partner beside it. -/
def IsLoneEscape (before after : List Char) (unit : Nat) : Prop :=
  isHighSurrogate unit = true ∧ ¬ (∃ low, StartsEscape after low ∧ isLowSurrogate low = true) ∨
    isLowSurrogate unit = true ∧ ¬ ∃ high, EndsEscape before high ∧ isHighSurrogate high = true

/-- A unit that is read has no partner exactly if its escape has none. -/
theorem isUnpaired_readUnits_iff {before after : List Char} :
    IsUnpaired (readUnits before) unit (readUnits after) ↔ IsLoneEscape before after unit := by
  rw [IsUnpaired, IsLoneEscape, head_readUnits_low_iff, getLast_readUnits_high_iff]

/-- No unit of a character is unpaired, so an unpaired one is that of an escape. -/
theorem IsUnpaired.exists_escapeAt {cs : List Char} (h : IsUnpaired before unit after)
    (hsplit : readUnits cs = before ++ unit :: after) :
    ∃ front digits back, EscapeAt cs front digits back unit ∧
      readUnits front = before ∧ readUnits back = after := by
  obtain ⟨earlier, item, later, inFront, behind, hitems, hitem, rfl, rfl⟩ :=
    exists_item_of_units hsplit
  cases item with
  | plain c =>
      exfalso
      obtain ⟨hbehind, hbefore⟩ := paired_codeUnits c inFront unit behind hitem
      rcases h with ⟨hhigh, hafter⟩ | ⟨hlow, hlast⟩
      · have hlow := hbehind hhigh
        cases behind with
        | nil => cases hlow
        | cons low behind => exact hafter hlow
      · have hhigh := hbefore hlow
        rw [List.getLast?_append] at hlast
        cases hend : inFront.getLast? with
        | none => simp [hend] at hhigh
        | some high => exact hlast (by simpa [hend] using hhigh)
  | escaped n =>
      obtain ⟨front, digits, back, hat, rfl, rfl⟩ := Text.exists_escapeAt hitems
      -- an escape stands for a single unit
      obtain ⟨rfl, rfl, rfl⟩ : inFront = [] ∧ unit = n ∧ behind = [] := by
        cases inFront <;> simp_all [EscapeItem.units]
      exact ⟨front, digits, back, hat, (List.append_nil _).symm, rfl⟩

/-- Reading fails with an error exactly if the error tells the first unpaired surrogate. -/
theorem unescape_eq_error_iff_firstUnpaired {text : String} {e : UnpairedSurrogate} :
    unescape text = .error e ↔ ∃ before unit after,
      FirstUnpaired (readUnits text.toList) before unit after ∧
        e = ⟨before.length, faultOf unit after⟩ := by
  have hdecode : unescape text = .error e ↔
      decodeUnits 0 (readUnits text.toList) = .error e := by
    rw [unescape_eq]
    cases decodeUnits 0 (readUnits text.toList) <;> simp [Except.map]
  rw [hdecode, decodeUnits_eq_error_iff fun _ => lt_of_mem_readUnits]
  simp only [Nat.zero_add]

/-- A text cannot be read exactly if it has the escape of a high surrogate without that of a low one
directly behind it, or of a low surrogate without that of a high one directly in front of it. The
error is then at the first unpaired surrogate among the units of the text, which is that of an
escape, and it starts two bytes for each unit in front of it. -/
theorem unescape_eq_error_iff (text : String) :
    ((∃ e, unescape text = .error e) ↔ ∃ before digits after unit,
        EscapeAt text.toList before digits after unit ∧ IsLoneEscape before after unit) ∧
      ∀ e, unescape text = .error e ↔ ∃ before digits after unit,
        EscapeAt text.toList before digits after unit ∧
          FirstUnpaired (readUnits text.toList) (readUnits before) unit (readUnits after) ∧
          e.start = 2 * (readUnits before).length ∧ e.fault = faultOf unit (readUnits after) := by
  constructor
  · constructor
    · rintro ⟨e, he⟩
      obtain ⟨before, unit, after, hfirst, -⟩ := unescape_eq_error_iff_firstUnpaired.1 he
      obtain ⟨front, digits, back, hat, rfl, rfl⟩ := hfirst.unpaired.exists_escapeAt hfirst.split
      exact ⟨front, digits, back, unit, hat, isUnpaired_readUnits_iff.1 hfirst.unpaired⟩
    · rintro ⟨before, digits, after, unit, hat, hlone⟩
      have hnot : ¬ Paired (readUnits text.toList) := fun hpaired =>
        paired_iff_not_isUnpaired.1 hpaired _ _ _ hat.units (isUnpaired_readUnits_iff.2 hlone)
      obtain ⟨front, other, back, hfirst⟩ := exists_firstUnpaired hnot
      exact ⟨_, unescape_eq_error_iff_firstUnpaired.2 ⟨front, other, back, hfirst, rfl⟩⟩
  · intro e
    rw [unescape_eq_error_iff_firstUnpaired]
    constructor
    · rintro ⟨before, unit, after, hfirst, rfl⟩
      obtain ⟨front, digits, back, hat, rfl, rfl⟩ := hfirst.unpaired.exists_escapeAt hfirst.split
      exact ⟨front, digits, back, unit, hat, hfirst, rfl, rfl⟩
    · rintro ⟨before, digits, after, unit, -, hfirst, hstart, hfault⟩
      refine ⟨_, unit, _, hfirst, ?_⟩
      obtain ⟨position, fault⟩ := e
      obtain rfl : position = (readUnits before).length := Nat.eq_of_mul_eq_mul_left Nat.two_pos hstart
      exact congrArg _ hfault

/-- The surrogates of a character are no partners for an escape. -/
example : unescape "😀\\uDE00" = .error ⟨2, .lowAlone⟩ := by
  decide

end Skeletal.Text
