import Skeletal.Text.CharacterName
import Skeletal.Text.Basic

/-!
# Backslash escapes

Configuration text in which a backslash writes a character by a letter, by octal or hexadecimal
digits, or by its name. A backslash before any other character stands for itself, and before a
line feed both vanish. Code points, not characters, are read, since an escape can name a
surrogate.
-/

set_option autoImplicit false

namespace Skeletal.Text

/-- Characters written by a backslash and a single character, with their code points. -/
def letterEscapes : List (Char × Nat) :=
  [('\\', 92), ('\'', 39), ('"', 34), ('a', 7), ('b', 8), ('f', 12), ('n', 10), ('r', 13),
    ('t', 9), ('v', 11)]

/-- Value of an octal digit. -/
def octalValue? (c : Char) : Option Nat :=
  if 48 ≤ c.toNat ∧ c.toNat ≤ 55 then some (c.toNat - 48) else none

/-- Numeric escape with exactly `width` hexadecimal digits after its letter. -/
def hexEscape (width : Nat) (cs : List Char) : Option (List Nat × Nat) :=
  if cs.length < width then none
  else
    match hexNumber? (cs.take width) with
    | some point => if point ≤ 0x10FFFF then some ([point], width + 1) else none
    | none => none

/-- Escape by a character name in braces. -/
def namedEscape (cs : List Char) : Option (List Nat × Nat) :=
  match cs with
  | '\x7b' :: rest =>
    let name := rest.takeWhile (· ≠ '\x7d')
    if name.length < rest.length then
      (characterNamed? (String.ofList name)).map fun point => ([point], name.length + 3)
    else none
  | _ => none

/-- The escape after a backslash: its code points and the number of characters it takes. -/
def backslashEscape? : List Char → Option (List Nat × Nat)
  | [] => none
  | c :: rest =>
    match letterEscapes.lookup c with
    | some point => some ([point], 1)
    | none =>
      if c = '\n' then some ([], 1)
      else if c = 'x' then hexEscape 2 rest
      else if c = 'u' then hexEscape 4 rest
      else if c = 'U' then hexEscape 8 rest
      else if c = 'N' then namedEscape rest
      else
        let digits := ((c :: rest).take 3).map octalValue? |>.takeWhile Option.isSome
        if digits.isEmpty then some ([92, c.toNat], 1)
        else some ([ofDigits 8 (digits.filterMap id)], digits.length)

/-- Code points of a configuration text; none where an escape is malformed. -/
def backslashPoints (cs : List Char) : Option (List Nat) :=
  match cs with
  | [] => some []
  | c :: rest =>
    if c = '\\' then
      match backslashEscape? rest with
      | none => none
      | some (points, taken) => (backslashPoints (rest.drop taken)).map (points ++ ·)
    else (backslashPoints rest).map (c.toNat :: ·)
termination_by cs.length
decreasing_by
  all_goals simp only [List.length_drop, List.length_cons]; omega

end Skeletal.Text
