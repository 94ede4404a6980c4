import Skeletal.Source.Failure
import Skeletal.Source.Token

/-!
# Parsers over tokens

Parsers consume a list of tokens. Of the ways to stop, only a mismatch can be tried otherwise:
running out of tokens ends the parse, whatever alternatives there are.
-/

set_option autoImplicit false

namespace Skeletal.Source

/-- Ways to stop: at a token that does not fit, at the end of the tokens, or at the end of the
tokens right after an operand. -/
inductive Stop where
  | mismatch
  | inputEnds
  | danglingOperand
  deriving DecidableEq, Repr

/-- Parsers with a result. -/
abbrev Parser (α : Type) := StateT (List Token) (Except Stop) α

/-- What a token is compared with. -/
inductive Pattern where
  | text (text : String)
  | kind (kind : TokenKind)

/-- Whether a token fits a pattern. -/
def Pattern.fits (token : Token) : Pattern → Bool
  | .text wanted => token.text == wanted
  | .kind wanted => token.kind == wanted

instance : Coe String Pattern := ⟨.text⟩

/-- Pattern of identifiers. -/
def identifierPattern : Pattern := .kind .identifier

namespace Parser

/-- Stop at a token that does not fit. -/
def mismatch {α : Type} : Parser α := throw .mismatch

/-- The token `index` places ahead, if there is one. -/
def peekAt (index : Nat) : Parser (Option Token) := do
  return (← get)[index]?

/-- The next token, if there is one. -/
def peek : Parser (Option Token) := peekAt 0

/-- The next token, taken. -/
def next : Parser Token := do
  match ← get with
  | [] => throw .inputEnds
  | token :: rest =>
    set rest
    return token

/-- Whether the next tokens fit patterns one by one. -/
def sees (patterns : List Pattern) : Parser Bool := do
  let tokens ← get
  return patterns.length ≤ tokens.length &&
    (patterns.zip tokens).all fun p => p.1.fits p.2

/-- The next tokens taken if they fit patterns one by one; the answer tells whether they do. -/
def skips (patterns : List Pattern) : Parser Bool := do
  if ← sees patterns then
    modify (List.drop patterns.length)
    return true
  else return false

/-- The next token, taken, if it fits. -/
def take (pattern : Pattern) : Parser String := do
  let token ← next
  if pattern.fits token then return token.text else mismatch

/-- The next tokens, taken, if they fit. -/
def expect : List Pattern → Parser Unit
  | [] => pure ()
  | pattern :: rest => do
    discard (take pattern)
    expect rest

/-- An identifier. -/
def identifier : Parser Identifier := do
  let token ← next
  if h : token.kind = .identifier then return ⟨token.text, token.isIdentifier_text h⟩
  else mismatch

/-- A parse that leaves all tokens in place and answers nothing where it meets a mismatch. -/
def attempt {α : Type} (parser : Parser α) : Parser (Option α) := fun tokens =>
  match parser tokens with
  | .ok (result, rest) => .ok (some result, rest)
  | .error .mismatch => .ok (none, tokens)
  | .error stop => .error stop

/-- Items as long as `goesOn` holds before them, at most `bound` ones. -/
def manyUpTo {α : Type} (goesOn : Parser Bool) (item : Parser α) : Nat → Parser (List α)
  | 0 => mismatch
  | bound + 1 => do
    if ← goesOn then
      let first ← item
      let others ← manyUpTo goesOn item bound
      return first :: others
    else return []

/-- Items as long as `goesOn` holds before them. Each takes a token, so the tokens bound their
number. -/
def many {α : Type} (goesOn : Parser Bool) (item : Parser α) : Parser (List α) := do
  manyUpTo goesOn item ((← get).length + 1)

/-- Items up to a closing token, which stays. -/
def manyUntil {α : Type} (closing : Pattern) (item : Parser α) : Parser (List α) :=
  many (do return !(← sees [closing])) item

/-- One or more items with a separator between neighbours. -/
def separated {α : Type} (separator : Pattern) (item : Parser α) : Parser (List α) := do
  let first ← item
  let others ← many (skips [separator]) item
  return first :: others

/-- Identifiers with points between them. -/
def qualifiedName : Parser (List Identifier) := separated "." identifier

/-- Qualified names with commas between them. -/
def qualifiedNames : Parser (List (List Identifier)) := separated "," qualifiedName

/-- Whether an annotation starts `index` tokens ahead. -/
def annotationStarts (index : Nat) : Parser Bool := do
  let first ← peekAt index
  let second ← peekAt (index + 1)
  return first.any (·.kind == .atSign) && second.any (·.kind == .identifier)

/-- Whether the declaration of an annotation type starts here. -/
def annotationTypeStarts : Parser Bool := sees [.kind .atSign, "interface"]

/-- Pairs of brackets, counted. -/
def dimensions : Parser Nat := do
  return (← many (sees ["[", "]"]) (expect ["[", "]"])).length

/-- Text of the next token, empty at the end. -/
def peekText : Parser String := do
  return (← peek).elim "" Token.text

end Parser

end Skeletal.Source
