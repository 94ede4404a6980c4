import Skeletal.Proofs.Text.Escape

/-!
# Occurrences of escapes

Escapes do not overlap, for a backslash is the first character of each and no other. So an
occurrence of an escape anywhere in a text is an item of its reading, between the items of what
stands before and behind it (`EscapeAt.items`), and each escaped item is such an occurrence
(`exists_escapeAt`). The partners that surrogates have among the units are therefore the escapes
beside them in the text (`paired_readUnits_iff`).
-/

set_option autoImplicit false

namespace Skeletal.Text

variable {cs rest before digits after : List Char} {unit : Nat}

/-- The escape of a code unit, with these digits, stands between two stretches of the text. -/
structure EscapeAt (cs before digits after : List Char) (unit : Nat) : Prop where
  split : cs = before ++ '\\' :: 'u' :: (digits ++ after)
  four : digits.length = 4
  value : hexNumber? digits = some unit

/-- The text ends with the escape of a code unit. -/
def EndsEscape (cs : List Char) (unit : Nat) : Prop :=
  ∃ before digits, EscapeAt cs before digits [] unit

theorem exists_of_length_four (h : digits.length = 4) : ∃ a b c d, digits = [a, b, c, d] := by
  rcases digits with _ | ⟨a, _ | ⟨b, _ | ⟨c, _ | ⟨d, _ | ⟨e, rest⟩⟩⟩⟩⟩
  all_goals first | exact ⟨_, _, _, _, rfl⟩ | simp at h

theorem startsEscape_iff :
    StartsEscape cs unit ↔ ∃ digits after, EscapeAt cs [] digits after unit := by
  constructor
  · rintro ⟨a, b, c, d, rest, hsplit, hvalue⟩
    exact ⟨[a, b, c, d], rest, hsplit, rfl, hvalue⟩
  · rintro ⟨digits, after, hsplit, hfour, hvalue⟩
    obtain ⟨a, b, c, d, rfl⟩ := exists_of_length_four hfour
    exact ⟨a, b, c, d, after, hsplit, hvalue⟩

/-! ## Escapes do not overlap -/

theorem StartsEscape.append (h : StartsEscape cs unit) (tail : List Char) :
    StartsEscape (cs ++ tail) unit := by
  obtain ⟨a, b, c, d, rest, rfl, hvalue⟩ := h
  exact ⟨a, b, c, d, rest ++ tail, rfl, hvalue⟩

/-- A character in front of a backslash, other than a backslash itself. -/
theorem exists_of_append_backslash {x : Char} {tail others : List Char} (hx : x ≠ '\\')
    (h : cs ++ '\\' :: tail = x :: others) :
    ∃ rest, cs = x :: rest ∧ rest ++ '\\' :: tail = others := by
  cases cs with
  | nil => exact absurd (List.cons.inj h).1.symm hx
  | cons c rest =>
      obtain ⟨rfl, htail⟩ := List.cons.inj h
      exact ⟨rest, rfl, htail⟩

/-- An escape that starts in front of a backslash ends in front of it. -/
theorem startsEscape_of_append {c : Char} {tail : List Char}
    (h : StartsEscape (c :: (rest ++ '\\' :: tail)) unit) : StartsEscape (c :: rest) unit := by
  obtain ⟨w, x, y, z, others, hfront, hvalue⟩ := h
  obtain ⟨_, _, _, _, hw, hx, hy, hz, -⟩ := hexNumber?_four.1 hvalue
  obtain ⟨rfl, hletter⟩ := List.cons.inj hfront
  -- neither the letter nor a digit is the backslash
  obtain ⟨r₁, rfl, h₁⟩ := exists_of_append_backslash (by decide) hletter
  obtain ⟨r₂, rfl, h₂⟩ := exists_of_append_backslash (ne_backslash_of_hexValue? hw) h₁
  obtain ⟨r₃, rfl, h₃⟩ := exists_of_append_backslash (ne_backslash_of_hexValue? hx) h₂
  obtain ⟨r₄, rfl, h₄⟩ := exists_of_append_backslash (ne_backslash_of_hexValue? hy) h₃
  obtain ⟨r₅, rfl, -⟩ := exists_of_append_backslash (ne_backslash_of_hexValue? hz) h₄
  exact ⟨w, x, y, z, r₅, rfl, hvalue⟩

theorem escapeItems_append_escape {a b c d : Char} (hvalue : hexNumber? [a, b, c, d] = some unit)
    (before after : List Char) :
    escapeItems (before ++ '\\' :: 'u' :: a :: b :: c :: d :: after) =
      escapeItems before ++ .escaped unit :: escapeItems after := by
  induction before using segmentInduction with
  | nil => exact escapeItems_escape hvalue after
  | escape w x y z rest n h ih =>
      refine (escapeItems_escape h (rest ++ _)).trans ?_
      rw [ih, escapeItems_escape h, List.cons_append]
  | plain c rest h ih =>
      rw [List.cons_append, escapeItems_plain fun n hstart => h n (startsEscape_of_append hstart),
        ih, escapeItems_plain h, List.cons_append]

/-- An occurrence of an escape is an item of the reading, and the text around it is read on its
own. -/
theorem EscapeAt.items (h : EscapeAt cs before digits after unit) :
    escapeItems cs = escapeItems before ++ .escaped unit :: escapeItems after := by
  obtain ⟨hsplit, hfour, hvalue⟩ := h
  obtain ⟨a, b, c, d, rfl⟩ := exists_of_length_four hfour
  rw [hsplit]
  exact escapeItems_append_escape hvalue before after

/-- An escaped item of the reading is an occurrence of an escape. -/
theorem exists_escapeAt {front back : List EscapeItem}
    (h : escapeItems cs = front ++ .escaped unit :: back) :
    ∃ before digits after, EscapeAt cs before digits after unit ∧
      escapeItems before = front ∧ escapeItems after = back := by
  induction cs using segmentInduction generalizing front with
  | nil => cases front <;> cases h
  | escape a b c d rest n hvalue ih =>
      rw [escapeItems_escape hvalue] at h
      cases front with
      | nil =>
          obtain ⟨hitem, hrest⟩ := List.cons.inj h
          obtain rfl := EscapeItem.escaped.inj hitem
          exact ⟨[], [a, b, c, d], rest, ⟨rfl, rfl, hvalue⟩, rfl, hrest⟩
      | cons item front =>
          obtain ⟨rfl, hrest⟩ := List.cons.inj h
          obtain ⟨before, digits, after, hat, rfl, hafter⟩ := ih hrest
          refine ⟨'\\' :: 'u' :: a :: b :: c :: d :: before, digits, after,
            ⟨?_, hat.four, hat.value⟩, escapeItems_escape hvalue before, hafter⟩
          rw [hat.split]
          rfl
  | plain c rest hplain ih =>
      rw [escapeItems_plain hplain] at h
      cases front with
      | nil => cases (List.cons.inj h).1
      | cons item front =>
          obtain ⟨rfl, hrest⟩ := List.cons.inj h
          obtain ⟨before, digits, after, hat, rfl, hafter⟩ := ih hrest
          refine ⟨c :: before, digits, after, ⟨?_, hat.four, hat.value⟩, ?_, hafter⟩
          · rw [hat.split, List.cons_append]
          · -- what starts no escape starts none when the text is cut off behind it
            refine escapeItems_plain fun unit hstart => hplain unit ?_
            rw [hat.split]
            exact hstart.append _

/-! ## Units beside an escape -/

theorem EscapeAt.units (h : EscapeAt cs before digits after unit) :
    readUnits cs = readUnits before ++ unit :: readUnits after := by
  rw [readUnits, h.items, List.flatMap_append, List.flatMap_cons]
  rfl

theorem paired_codeUnits (c : Char) : Paired (codeUnits c) := by
  by_cases hc : c.toNat < 0x10000
  · obtain ⟨hhigh, hlow⟩ := not_surrogate c
    rw [codeUnits_of_lt hc]
    exact (paired_cons_iff hhigh hlow).2 paired_nil
  · obtain ⟨high, low, hunits, hhigh, hlow, -⟩ := exists_pair_of_le (Nat.not_lt.1 hc)
    rw [hunits]
    exact (paired_cons_cons_iff hhigh hlow).2 paired_nil

theorem escapeItems_eq_nil_iff : escapeItems cs = [] ↔ cs = [] := by
  constructor
  · intro h
    cases cs using segmentInduction with
    | nil => rfl
    | escape a b c d rest n hvalue =>
        rw [escapeItems_escape hvalue] at h
        cases h
    | plain c rest hplain =>
        rw [escapeItems_plain hplain] at h
        cases h
  · rintro rfl
    rfl

/-- A text is read as units that begin with a low surrogate exactly if it begins with the escape of
one. -/
theorem head_readUnits_low_iff : (readUnits cs).head?.any isLowSurrogate = true ↔
    ∃ low, StartsEscape cs low ∧ isLowSurrogate low = true := by
  constructor
  · intro h
    rcases hitems : escapeItems cs with _ | ⟨c | unit, items⟩
    · simp [readUnits, hitems] at h
    · -- the second half of a pair is not the first unit of its character
      obtain ⟨first, others, hunits⟩ := List.exists_cons_of_ne_nil (codeUnits_ne_nil c)
      have hlow : isLowSurrogate first = true := by
        simpa [readUnits, hitems, EscapeItem.units, hunits] using h
      cases (paired_codeUnits c [] first others hunits).2 hlow
    · rw [← List.nil_append (.escaped unit :: items)] at hitems
      obtain ⟨before, digits, after, hat, hbefore, -⟩ := exists_escapeAt hitems
      obtain rfl := escapeItems_eq_nil_iff.1 hbefore
      refine ⟨unit, startsEscape_iff.2 ⟨digits, after, hat⟩, ?_⟩
      rwa [hat.units] at h
  · rintro ⟨low, hstart, hlow⟩
    obtain ⟨digits, after, hat⟩ := startsEscape_iff.1 hstart
    rw [hat.units]
    exact hlow

/-- A text is read as units that end with a high surrogate exactly if it ends with the escape of
one. -/
theorem getLast_readUnits_high_iff : (readUnits cs).getLast?.any isHighSurrogate = true ↔
    ∃ high, EndsEscape cs high ∧ isHighSurrogate high = true := by
  constructor
  · intro h
    rcases List.eq_nil_or_concat' (escapeItems cs) with hitems | ⟨items, c | unit, hitems⟩
    · simp [readUnits, hitems] at h
    · -- the first half of a pair is not the last unit of its character
      obtain ⟨others, last, hunits⟩ :=
        (List.eq_nil_or_concat' (codeUnits c)).resolve_left (codeUnits_ne_nil c)
      have hhigh : isHighSurrogate last = true := by
        simpa [readUnits, hitems, EscapeItem.units, hunits] using h
      cases (paired_codeUnits c others last [] hunits).1 hhigh
    · obtain ⟨before, digits, after, hat, -, hafter⟩ := exists_escapeAt hitems
      obtain rfl := escapeItems_eq_nil_iff.1 hafter
      refine ⟨unit, ⟨before, digits, hat⟩, ?_⟩
      rw [hat.units] at h
      simpa [readUnits, escapeItems] using h
  · rintro ⟨high, ⟨before, digits, hat⟩, hhigh⟩
    rw [hat.units]
    simpa [readUnits, escapeItems] using hhigh

/-! ## Partners in the text -/

/-- Each unit that is read is one of an item. -/
theorem exists_item_of_units {items : List EscapeItem} {front back : List Nat}
    (h : items.flatMap EscapeItem.units = front ++ unit :: back) :
    ∃ earlier item later inFront behind, items = earlier ++ item :: later ∧
      item.units = inFront ++ unit :: behind ∧
      front = earlier.flatMap EscapeItem.units ++ inFront ∧
      back = behind ++ later.flatMap EscapeItem.units := by
  induction items generalizing front with
  | nil => cases front <;> cases h
  | cons item items ih =>
      rw [List.flatMap_cons, List.append_eq_append_iff] at h
      -- the unit is one of the later items, or one of the first
      have hcases : (∃ others, front = item.units ++ others ∧
          items.flatMap EscapeItem.units = others ++ unit :: back) ∨
          ∃ behind, item.units = front ++ unit :: behind ∧
            back = behind ++ items.flatMap EscapeItem.units := by
        rcases h with ⟨others, hfront, hitems⟩ | ⟨_ | ⟨first, behind⟩, hunits, hback⟩
        · exact Or.inl ⟨others, hfront, hitems⟩
        · exact Or.inl ⟨[], by simpa using hunits.symm, by simpa using hback.symm⟩
        · obtain ⟨rfl, hbehind⟩ := List.cons.inj hback
          exact Or.inr ⟨behind, hunits, hbehind⟩
      rcases hcases with ⟨others, rfl, hitems⟩ | ⟨behind, hunits, hback⟩
      · obtain ⟨earlier, other, later, inFront, behind, rfl, hunits, rfl, hback⟩ := ih hitems
        exact ⟨item :: earlier, other, later, inFront, behind, rfl, hunits,
          by rw [List.flatMap_cons, List.append_assoc], hback⟩
      · exact ⟨[], item, items, front, behind, rfl, hunits, rfl, hback⟩

/-- A high surrogate is escaped in front of the escape of a low one, and a low one behind the
escape of a high one. -/
def Partnered (before after : List Char) (unit : Nat) : Prop :=
  (isHighSurrogate unit = true → ∃ low, StartsEscape after low ∧ isLowSurrogate low = true) ∧
    (isLowSurrogate unit = true → ∃ high, EndsEscape before high ∧ isHighSurrogate high = true)

/-- The surrogates among the units have their partners exactly if the escaped ones have theirs in
the text. -/
theorem paired_readUnits_iff : Paired (readUnits cs) ↔
    ∀ before digits after unit, EscapeAt cs before digits after unit →
      Partnered before after unit := by
  constructor
  · intro h before digits after unit hat
    obtain ⟨hbehind, hbefore⟩ := h _ unit _ hat.units
    exact ⟨fun hhigh => head_readUnits_low_iff.1 (hbehind hhigh),
      fun hlow => getLast_readUnits_high_iff.1 (hbefore hlow)⟩
  · intro h front unit back hunits
    obtain ⟨earlier, item, later, inFront, behind, hitems, hitem, rfl, rfl⟩ :=
      exists_item_of_units hunits
    cases item with
    | plain c =>
        obtain ⟨hbehind, hbefore⟩ := paired_codeUnits c inFront unit behind hitem
        constructor
        · intro hhigh
          have hlow := hbehind hhigh
          cases behind with
          | nil => cases hlow
          | cons low behind => exact hlow
        · intro hlow
          rw [List.getLast?_append]
          have hhigh := hbefore hlow
          cases hlast : inFront.getLast? with
          | none => simp [hlast] at hhigh
          | some high => simpa [hlast] using hhigh
    | escaped n =>
        obtain ⟨before, digits, after, hat, rfl, rfl⟩ := exists_escapeAt hitems
        -- an escape stands for a single unit
        obtain ⟨rfl, rfl, rfl⟩ : inFront = [] ∧ unit = n ∧ behind = [] := by
          cases inFront <;> simp_all [EscapeItem.units]
        obtain ⟨hbehind, hbefore⟩ := h before digits after unit hat
        rw [List.append_nil]
        exact ⟨fun hhigh => head_readUnits_low_iff.2 (hbehind hhigh),
          fun hlow => getLast_readUnits_high_iff.2 (hbefore hlow)⟩

end Skeletal.Text
