import Skeletal.Text.CharacterClass

/-!
# Texts

Texts put together from parts, digits, and texts shown inside a message.
-/

set_option autoImplicit false

namespace Skeletal.Text

/-! ## Joined parts

Some of the parts may be empty. An empty part leaves no separator behind, so a missing clause needs
no special case where a line or a block is assembled. -/

/-- The non-empty parts in order with one separator between neighbours. -/
def joinNonempty (separator : String) (parts : List String) : String :=
  separator.intercalate (parts.filter fun part => part ≠ "")

/-- The non-empty parts with a blank between neighbours. -/
def spaced (parts : List String) : String :=
  joinNonempty " " parts

/-- A label before a text; nothing where there is no text to label. -/
def labelled (label text : String) : String :=
  if text = "" then "" else spaced [label, text]

/-! ## Digits

Each script's ten decimal digits stand in order, so its zero gives them all. -/

/-- Code points of the digit zero in every script. -/
def digitZeros : List Nat :=
  [
    48, 1632, 1776, 1984, 2406, 2534, 2662, 2790, 2918, 3046, 3174, 3302, 3430, 3558, 3664,
    3792, 3872, 4160, 4240, 6112, 6160, 6470, 6608, 6784, 6800, 6992, 7088, 7232, 7248, 42528,
    43216, 43264, 43472, 43504, 43600, 44016, 65296, 66720, 68912, 69734, 69872, 69942, 70096,
    70384, 70736, 70864, 71248, 71360, 71472, 71904, 72016, 72784, 73040, 73120, 92768, 92864,
    93008, 120782, 120792, 120802, 120812, 120822, 123200, 123632, 125264, 130032
  ]

/-- Value of a decimal digit of any script. -/
def digitValue? (c : Char) : Option Nat :=
  (digitZeros.find? fun first => decide (first ≤ c.toNat) && decide (c.toNat < first + 10)).map
    fun first => c.toNat - first

/-- Value of an ASCII hexadecimal digit. -/
def hexValue? (c : Char) : Option Nat :=
  let n := c.toNat
  if 48 ≤ n ∧ n ≤ 57 then some (n - 48)
  else if 65 ≤ n ∧ n ≤ 70 then some (n - 55)
  else if 97 ≤ n ∧ n ≤ 102 then some (n - 87)
  else none

/-- Number written by digit values in the given base, most significant first. -/
def ofDigits (base : Nat) (digits : List Nat) : Nat :=
  digits.foldl (fun value digit => value * base + digit) 0

/-- Number written by ASCII hexadecimal digits, if all the characters are such digits. -/
def hexNumber? (cs : List Char) : Option Nat :=
  (cs.mapM hexValue?).map (ofDigits 16)

/-- Upper-case hexadecimal digit of a value below sixteen. -/
def upperHexDigit (n : Nat) : Char :=
  if n < 10 then Char.ofNat (48 + n) else Char.ofNat (55 + n)

/-- Lower-case hexadecimal digit of a value below sixteen. -/
def lowerHexDigit (n : Nat) : Char :=
  if n < 10 then Char.ofNat (48 + n) else Char.ofNat (87 + n)

/-- The last `width` hexadecimal digits of a number, most significant first. -/
def hexDigits (digit : Nat → Char) : Nat → Nat → List Char
  | 0, _ => []
  | width + 1, n => hexDigits digit width (n / 16) ++ [digit (n % 16)]

/-! ## Quoted text

Single quotes stand around a quoted text, double quotes only where the text holds a single quote and
no double one; what is not printable is written as an escape. -/

/-- Quotation mark that a text is shown with. -/
def quoteMark (cs : List Char) : Char :=
  if '\'' ∈ cs ∧ '"' ∉ cs then '"' else '\''

/-- Numeric escape of a character, with two, four or eight digits. -/
def numericEscape (c : Char) : List Char :=
  let n := c.toNat
  if n < 0x100 then '\\' :: 'x' :: hexDigits lowerHexDigit 2 n
  else if n < 0x10000 then '\\' :: 'u' :: hexDigits lowerHexDigit 4 n
  else '\\' :: 'U' :: hexDigits lowerHexDigit 8 n

/-- Written form of one character inside the quotation marks `mark`. -/
def quoteChar (mark c : Char) : List Char :=
  if c = '\\' ∨ c = mark then ['\\', c]
  else if c = '\n' then ['\\', 'n']
  else if c = '\r' then ['\\', 'r']
  else if c = '\t' then ['\\', 't']
  else if isPrintable c then [c]
  else numericEscape c

/-- Text in quotation marks. -/
def quoted (text : String) : String :=
  let cs := text.toList
  let mark := quoteMark cs
  String.ofList (mark :: cs.flatMap (quoteChar mark) ++ [mark])

end Skeletal.Text
