import Skeletal.Source.Failure
import Skeletal.Text.CharacterClass
import Skeletal.Text.Basic

/-!
# Unicode escapes of source texts

Before a source text is split into tokens, a backslash, one or more letters u and four digits
become the character they name, unless the backslash is itself escaped by one before it. The
number is read leniently: blanks around it, a sign, a base mark and single underscores between
digits are allowed. Where the text ends within the letters of an escape, the stretch since the
escape before it stands twice.
-/

set_option autoImplicit false

namespace Skeletal.Source

/-- Blanks allowed around a number. -/
def isNumberBlank (c : Char) : Bool :=
  Text.isBlank c && !(28 ≤ c.toNat && c.toNat ≤ 31)

/-- Value of a digit of base sixteen; decimal digits may be of any script. -/
def lenientDigit? (c : Char) : Option Nat :=
  (Text.hexValue? c).or (Text.digitValue? c)

/-- Digits with single underscores between them; `digitBefore` tells whether a digit was just
read, after which alone an underscore or the end may come. -/
def underscoredDigits (digitBefore : Bool) : List Char → Option (List Nat)
  | [] => if digitBefore then some [] else none
  | c :: rest =>
    if c = '_' then if digitBefore then underscoredDigits false rest else none
    else
      match lenientDigit? c with
      | some digit => (underscoredDigits true rest).map (digit :: ·)
      | none => none

/-- Unsigned number of base sixteen, perhaps after its base mark. -/
def lenientMagnitude? (cs : List Char) : Option Nat :=
  let digits :=
    match cs with
    | '0' :: x :: '_' :: rest =>
      if x = 'x' ∨ x = 'X' then underscoredDigits false rest else underscoredDigits false cs
    | '0' :: x :: rest =>
      if x = 'x' ∨ x = 'X' then underscoredDigits false rest else underscoredDigits false cs
    | _ => underscoredDigits false cs
  digits.map (Text.ofDigits 16)

/-- Number of base sixteen, leniently written. -/
def lenientNumber? (cs : List Char) : Option Int :=
  let trimmed := ((cs.dropWhile isNumberBlank).reverse.dropWhile isNumberBlank).reverse
  match trimmed with
  | '-' :: rest => (lenientMagnitude? rest).map fun n => -(n : Int)
  | '+' :: rest => (lenientMagnitude? rest).map fun n => (n : Int)
  | rest => (lenientMagnitude? rest).map fun n => (n : Int)

/-- Faults of an escape: characters that are no number, or a number below zero. -/
inductive EscapeFault where
  | noNumber (shown : List Char)
  | negative
  deriving DecidableEq, Repr

/-- Character of an escape by the characters after its letters. A surrogate has no character of
its own and is read as the replacement character. -/
def escapedChar (digits : List Char) : Except EscapeFault Char :=
  match lenientNumber? digits with
  | none => .error (.noNumber digits)
  | some value =>
    if value < 0 then .error .negative
    else
      let point := value.toNat
      .ok (if 0xD800 ≤ point ∧ point < 0xE000 then '\ufffd' else Char.ofNat point)

/-- Text with its escapes replaced; `stretch` is what follows the escape before. -/
def replaceEscapes (stretch rest : List Char) : Except EscapeFault (List Char) :=
  match rest with
  | [] => .ok []
  | [c] => .ok [c]
  | c :: next :: more =>
    if c = '\\' ∧ next = 'u' then
      match _run : more.dropWhile (· = 'u') with
      | [] => .ok stretch
      | first :: others => do
        let char ← escapedChar ((first :: others).take 4)
        let tail ← replaceEscapes (others.drop 3) (others.drop 3)
        return char :: tail
    else if c = '\\' then (replaceEscapes stretch more).map fun tail => c :: next :: tail
    else (replaceEscapes stretch (next :: more)).map (c :: ·)
termination_by rest.length
decreasing_by
  · have hle := (List.dropWhile_suffix (l := more) (· = 'u')).length_le
    rw [_run] at hle
    simp only [List.length_drop, List.length_cons] at *
    omega
  · simp only [List.length_cons]; omega
  · simp only [List.length_cons]; omega

end Skeletal.Source
