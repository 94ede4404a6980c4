import Skeletal.Text.Basic

/-!
# Unicode escapes

Text as plain ASCII. A character from code point 128 on is written as the escapes of its code
units, a backslash, the letter u and four upper-case hexadecimal digits each. Reading takes the
escapes apart in one pass, whatever the case of their digits, and pairs the surrogates.
-/

set_option autoImplicit false

namespace Skeletal.Text

/-! ## Code units

The sixteen-bit units of a text. A character above the basic plane takes a high and a low
surrogate, and a sequence of units is a text only if every surrogate is paired in that order. -/

/-- Units of the first half of a pair. -/
def isHighSurrogate (unit : Nat) : Bool := decide (0xD800 ≤ unit) && decide (unit < 0xDC00)

/-- Units of the second half of a pair. -/
def isLowSurrogate (unit : Nat) : Bool := decide (0xDC00 ≤ unit) && decide (unit < 0xE000)

/-- Code units of a character. -/
def codeUnits (c : Char) : List Nat :=
  if c.toNat < 0x10000 then [c.toNat]
  else [0xD800 + (c.toNat - 0x10000) / 0x400, 0xDC00 + (c.toNat - 0x10000) % 0x400]

/-- Character of a surrogate pair. -/
def pairedChar (high low : Nat) : Char :=
  Char.ofNat (0x10000 + (high - 0xD800) * 0x400 + (low - 0xDC00))

/-- Ways in which a surrogate can lack its partner. -/
inductive SurrogateFault where
  | highAtEnd
  | highAlone
  | lowAlone
  deriving DecidableEq, Repr

/-- The first unpaired surrogate of a unit sequence: the number of units before it and what is
wrong with it. -/
structure UnpairedSurrogate where
  position : Nat
  fault : SurrogateFault
  deriving DecidableEq, Repr

/-- Cause in words. -/
def SurrogateFault.reason : SurrogateFault → String
  | .highAtEnd => "unexpected end of data"
  | .highAlone => "illegal UTF-16 surrogate"
  | .lowAlone => "illegal encoding"

/-- Offset of the first byte of the unit, each unit being two bytes. -/
def UnpairedSurrogate.start (e : UnpairedSurrogate) : Nat := 2 * e.position

/-- Message with the offsets of the two bytes of the unit. -/
def UnpairedSurrogate.message (e : UnpairedSurrogate) : String :=
  s!"'utf-16-le' codec can't decode bytes in position {e.start}-{e.start + 1}: {e.fault.reason}"

/-- Characters of a unit sequence of which `position` units came before. -/
def decodeUnits (position : Nat) : List Nat → Except UnpairedSurrogate (List Char)
  | [] => .ok []
  | [unit] =>
    if isHighSurrogate unit then .error ⟨position, .highAtEnd⟩
    else if isLowSurrogate unit then .error ⟨position, .lowAlone⟩
    else .ok [Char.ofNat unit]
  | unit :: next :: rest =>
    if isHighSurrogate unit then
      if isLowSurrogate next then
        (decodeUnits (position + 2) rest).map (pairedChar unit next :: ·)
      else .error ⟨position, .highAlone⟩
    else if isLowSurrogate unit then .error ⟨position, .lowAlone⟩
    else (decodeUnits (position + 1) (next :: rest)).map (Char.ofNat unit :: ·)

/-! ## Escapes -/

/-- Escape of one code unit. -/
def escapeUnit (unit : Nat) : List Char :=
  '\\' :: 'u' :: hexDigits upperHexDigit 4 unit

/-- Written form of one character. -/
def escapeChar (c : Char) : List Char :=
  if c.toNat < 128 then [c] else (codeUnits c).flatMap escapeUnit

/-- Plain ASCII form of a text. -/
def escape (text : String) : String :=
  String.ofList (text.toList.flatMap escapeChar)

/-- Item of an escaped text: a character that stands for itself or the escape of a code unit. -/
inductive EscapeItem where
  | plain (c : Char)
  | escaped (unit : Nat)
  deriving DecidableEq, Repr

/-- Items of an escaped text from left to right. -/
def escapeItems : List Char → List EscapeItem
  | '\\' :: 'u' :: a :: b :: c :: d :: rest =>
    match hexNumber? [a, b, c, d] with
    | some unit => .escaped unit :: escapeItems rest
    | none => .plain '\\' :: escapeItems ('u' :: a :: b :: c :: d :: rest)
  | c :: rest => .plain c :: escapeItems rest
  | [] => []

/-- Code units that an item stands for. -/
def EscapeItem.units : EscapeItem → List Nat
  | .plain c => codeUnits c
  | .escaped unit => [unit]

/-- Text that an escaped text stands for. -/
def unescape (text : String) : Except UnpairedSurrogate String :=
  (decodeUnits 0 ((escapeItems text.toList).flatMap EscapeItem.units)).map String.ofList

end Skeletal.Text
