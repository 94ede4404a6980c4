import Skeletal.Source.Token
import Skeletal.Source.UnicodeEscape
import Skeletal.Text.CharacterClass

/-!
# Tokens of a source text

A source text is cut into lexemes from left to right. Blanks and comments yield no token. The
whole text is cut before any of it is parsed, so a lexical fault hides every fault of the
grammar.

Line numbers count the line feeds in blanks and comments alone, while the line that a message
shows begins after the last line feed of any kind. That line ends before the next line feed or,
where none follows, one character before the end of the text.
-/

set_option autoImplicit false

namespace Skeletal.Source

/-- Fault of one lexeme, before its place is known. `malformedFraction` carries the character
after the literal. -/
inductive LexemeFault where
  | stray (c : Char)
  | illegalEscape (c : Char)
  | unterminatedLiteral
  | unterminatedComment
  | malformedFraction (next : Option Char)
  | cutOffNumber
  deriving DecidableEq, Repr

/-- Characters that may follow a backslash in a literal. -/
def escapeLetters : List Char :=
  ['b', 't', 'n', 'f', 'r', 'u', '"', '\'', '\\', '0', '1', '2', '3', '4', '5', '6', '7']

/-- Length of the rest of a quoted literal with its closing mark. -/
def quotedLength (mark : Char) : Bool → List Char → Except LexemeFault Nat
  | _, [] => .error .unterminatedLiteral
  | true, c :: rest =>
    if c ∈ escapeLetters then (quotedLength mark false rest).map (· + 1)
    else .error (.illegalEscape c)
  | false, c :: rest =>
    if c = mark then .ok 1
    else (quotedLength mark (c = '\\') rest).map (· + 1)

/-- Length of the rest of a block comment with its closing mark. -/
def blockLength : List Char → Except LexemeFault Nat
  | '*' :: '/' :: _ => .ok 2
  | _ :: rest => (blockLength rest).map (· + 1)
  | [] => .error .unterminatedComment

/-- Length of the rest of a line with its line feed. -/
def lineLength (cs : List Char) : Nat :=
  let here := cs.takeWhile (· ≠ '\n')
  if here.length < cs.length then here.length + 1 else here.length

/-- Characters left after a run of digits with underscores between them. `after` is what follows
the last digit, `ahead` what is still to be looked at and `last` the character looked at last. A
letter l behind the run takes one more character. -/
def skipDigits (isDigit : Char → Bool) (after : List Char) (last : Option Char) :
    List Char → Except LexemeFault (List Char)
  | [] =>
    match last with
    | none => .error .cutOffNumber
    | some c => .ok (if c = 'l' ∨ c = 'L' then after.drop 1 else after)
  | c :: more =>
    if isDigit c then skipDigits isDigit more (some c) more
    else if c = '_' then skipDigits isDigit after (some c) more
    else .ok (if c = 'l' ∨ c = 'L' then after.drop 1 else after)

/-- Characters left after the digits at the front. -/
def afterDigits (isDigit : Char → Bool) (cs : List Char) : Except LexemeFault (List Char) :=
  skipDigits isDigit cs none cs

/-- Digits of base ten. -/
def isDecimal (c : Char) : Bool := c.isDigit

/-- Digits of base sixteen. -/
def isHex (c : Char) : Bool := (Text.hexValue? c).isSome

/-- Digits of base eight. -/
def isOctal (c : Char) : Bool := decide ('0' ≤ c) && decide (c ≤ '7')

/-- Digits of base two. -/
def isBinary (c : Char) : Bool := c == '0' || c == '1'

/-- Characters left after one of the given characters, if one stands at the front. -/
def skipOneOf (chars : List Char) : List Char → List Char
  | [] => []
  | c :: rest => if c ∈ chars then rest else c :: rest

/-- Whether one of the given characters stands at the front. -/
def startsWithOneOf (chars : List Char) : List Char → Bool
  | [] => false
  | c :: _ => chars.contains c

/-- Characters left after a decimal number with or without fraction and exponent. -/
def afterDecimal (cs : List Char) : Except LexemeFault (List Char) := do
  let rest ← afterDigits isDecimal cs
  let rest ← if startsWithOneOf ['.'] rest then afterDigits isDecimal (rest.drop 1) else pure rest
  let rest ←
    if startsWithOneOf ['e', 'E'] rest then
      afterDigits isDecimal (skipOneOf ['-', '+'] (rest.drop 1))
    else pure rest
  return skipOneOf ['f', 'F', 'd', 'D'] rest

/-- Characters left after the digits of a hexadecimal number. A fraction needs an exponent. -/
def afterHex (cs : List Char) : Except LexemeFault (List Char) := do
  let rest ← afterDigits isHex cs
  if startsWithOneOf ['.', 'p', 'P'] rest then
    let rest ← if startsWithOneOf ['.'] rest then afterDigits isHex (rest.drop 1) else pure rest
    if startsWithOneOf ['p', 'P'] rest then
      let rest ← afterDigits isDecimal (skipOneOf ['-', '+'] (rest.drop 1))
      return skipOneOf ['f', 'F', 'd', 'D'] rest
    else throw (.malformedFraction rest.head?)
  else return rest

/-- Characters left after a number that starts with a digit. -/
def afterNumber : List Char → Except LexemeFault (List Char)
  | ['0'] => .error .cutOffNumber
  | '0' :: c :: rest =>
    if c = 'x' ∨ c = 'X' then afterHex rest
    else if c = 'b' ∨ c = 'B' then afterDigits isBinary rest
    else if isOctal c then afterDigits isOctal (c :: rest)
    else afterDecimal ('0' :: c :: rest)
  | cs => afterDecimal cs

/-- The operator at the front of a text. -/
def operatorAt? (cs : List Char) : Option String :=
  operators.find? fun op => op.toList.isPrefixOf cs

/-- Length of the number at the front of a text. -/
def numberLength (cs : List Char) : Except LexemeFault Nat := do
  let rest ← if startsWithOneOf ['.'] cs then afterDecimal cs else afterNumber cs
  return cs.length - rest.length

/-- Lexeme of an operator: its class and length. -/
def operatorLexeme (c : Char) (cs : List Char) : Except LexemeFault (Option TokenKind × Nat) :=
  match operatorAt? cs with
  | some op => .ok (some .operator, op.length)
  | none => .error (.stray c)

/-- The lexeme at the front of a text that starts with `c`: the class of its token, none for
blanks and comments, and its length. -/
def lexeme (c : Char) (rest : List Char) : Except LexemeFault (Option TokenKind × Nat) :=
  let next := rest.head?
  if Text.isBlank c then .ok (none, 1 + (rest.takeWhile Text.isBlank).length)
  else if c = '/' ∧ next = some '/' then .ok (none, 2 + lineLength (rest.drop 1))
  else if c = '/' ∧ next = some '*' then
    (blockLength (rest.drop 1)).map fun length => (none, 2 + length)
  else if c = '.' ∧ "..".toList.isPrefixOf rest then .ok (some .operator, 3)
  else if c = '@' then .ok (some .atSign, 1)
  else if c = '.' ∧ next.any isDecimal then
    (numberLength (c :: rest)).map fun length => (some .literal, length)
  else if c ∈ separatorChars then .ok (some .separator, 1)
  else if c = '"' ∨ c = '\'' then
    (quotedLength c false rest).map fun length => (some .literal, 1 + length)
  else if isDecimal c then
    (numberLength (c :: rest)).map fun length => (some .literal, length)
  else if Text.isIdentifierStart c then
    let word := c :: rest.takeWhile Text.isIdentifierPart
    .ok (some (wordKind (String.ofList word)), word.length)
  else operatorLexeme c (c :: rest)

/-- A fallible length that is classed as something else is no identifier. -/
theorem map_ne_identifier {attempt : Except LexemeFault Nat} {kind : Option TokenKind}
    {total : Nat → Nat} {length : Nat} (other : kind ≠ some .identifier) :
    attempt.map (fun n => (kind, total n)) ≠ .ok (some .identifier, length) := by
  cases attempt with
  | error fault => simp [Except.map]
  | ok n => simp [Except.map, other]

/-- Only a word is classed as an identifier. -/
theorem word_of_lexeme {c : Char} {rest : List Char} {length : Nat}
    (h : lexeme c rest = .ok (some .identifier, length)) :
    Text.isIdentifierStart c = true ∧
      wordKind (String.ofList (c :: rest.takeWhile Text.isIdentifierPart)) = .identifier ∧
      length = (c :: rest.takeWhile Text.isIdentifierPart).length := by
  simp only [lexeme, operatorLexeme] at h
  -- every branch but the one of words gives its own class
  repeat' split at h
  all_goals first
    | exact absurd h (map_ne_identifier (by decide))
    | cases h
    | obtain ⟨kind, rfl⟩ := Prod.mk.inj (Except.ok.inj h)
  exact ⟨‹_›, Option.some.inj kind, rfl⟩

/-- A lexeme that is classed as an identifier is one. -/
theorem isIdentifier_lexeme {c : Char} {rest : List Char} {length : Nat}
    (h : lexeme c rest = .ok (some .identifier, length)) :
    isIdentifier (String.ofList ((c :: rest).take length)) = true := by
  obtain ⟨start, kind, rfl⟩ := word_of_lexeme h
  have taken : (c :: rest).take (c :: rest.takeWhile Text.isIdentifierPart).length
      = c :: rest.takeWhile Text.isIdentifierPart :=
    congrArg (c :: ·) (List.prefix_iff_eq_take.1 (List.takeWhile_prefix _)).symm
  rw [taken]
  simp only [isIdentifier, String.toList_ofList, start, kind, List.all_takeWhile, beq_self_eq_true,
    Bool.and_self]

/-- Text of the line that starts a text, as messages show it. -/
def shownLine (cs : List Char) : String :=
  let line := if '\n' ∈ cs then cs.takeWhile (· ≠ '\n') else cs.dropLast
  Text.trim (String.ofList line)

/-- Start of the current line after the first `count` characters of a text. -/
def lineStartAfter (start : List Char) : List Char → Nat → List Char
  | c :: rest, count + 1 => lineStartAfter (if c = '\n' then rest else start) rest count
  | _, _ => start

/-- Fault of a lexeme in its line. Some faults show the character after the token before. -/
def LexemeFault.located (line : Nat) (lineStart tokenEnd : List Char) :
    LexemeFault → SourceError
  | .stray c => .lexical .strayCharacter (String.singleton c) line (shownLine lineStart)
  | .illegalEscape c => .lexical .illegalEscape (String.singleton c) line (shownLine lineStart)
  | .unterminatedLiteral =>
    .lexical .unterminatedLiteral (String.ofList (tokenEnd.take 1)) line (shownLine lineStart)
  | .unterminatedComment =>
    .lexical .unterminatedComment (String.ofList (tokenEnd.take 1)) line (shownLine lineStart)
  | .malformedFraction (some c) =>
    .lexical .malformedHexFloat (String.singleton c) line (shownLine lineStart)
  | .malformedFraction none => .cutOffFraction
  | .cutOffNumber => .cutOffNumber

/-- Tokens of the rest of a text. `line` is the current line number, `lineStart` the text from
the start of the current line and `tokenEnd` the text from the end of the token before. -/
def tokensFrom (line : Nat) (lineStart tokenEnd rest : List Char) :
    Except SourceError (List Token) :=
  match rest with
  | [] => .ok []
  | c :: more =>
    match h : lexeme c more with
    | .error fault => .error (fault.located line lineStart tokenEnd)
    | .ok (none, length) =>
      let taken := (c :: more).take length
      tokensFrom (line + taken.count '\n') (lineStartAfter lineStart (c :: more) length) tokenEnd
        (more.drop (length - 1))
    | .ok (some kind, length) =>
      let token : Token := ⟨kind, String.ofList ((c :: more).take length),
        fun identifies => isIdentifier_lexeme (identifies ▸ h)⟩
      let after := more.drop (length - 1)
      (tokensFrom line (lineStartAfter lineStart (c :: more) length) after after).map (token :: ·)
termination_by rest.length
decreasing_by all_goals simp only [List.length_drop, List.length_cons]; omega

/-- Tokens of a source text. -/
def tokens (text : String) : Except SourceError (List Token) :=
  let raw := text.toList
  match replaceEscapes raw raw with
  | .error (.noNumber shown) =>
    .error (.lexical .malformedUnicodeEscape (String.ofList shown) 1 (shownLine raw))
  | .error .negative => .error .escapeOutOfRange
  | .ok cs => tokensFrom 1 cs cs cs

end Skeletal.Source
