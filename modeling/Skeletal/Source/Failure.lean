/-!
# Source failures

Reasons why a source text is not a compilation unit. A lexical failure shows a character and the
line it was met in; a failure of the grammar says no more than that it is one.
-/

set_option autoImplicit false

namespace Skeletal.Source

/-- Lexical faults that are shown with their place. -/
inductive LexicalFault where
  | strayCharacter
  | illegalEscape
  | unterminatedLiteral
  | unterminatedComment
  | malformedHexFloat
  | malformedUnicodeEscape
  deriving DecidableEq, Repr

/-- Fault in words. -/
def LexicalFault.text : LexicalFault → String
  | .strayCharacter => "Could not process token"
  | .illegalEscape => "Illegal escape character"
  | .unterminatedLiteral => "Unterminated character/string literal"
  | .unterminatedComment => "Unterminated block comment"
  | .malformedHexFloat => "Invalid hex float literal"
  | .malformedUnicodeEscape => "Invalid unicode escape"

/-- Failures of reading a source text: a lexical fault with the characters shown for it, its line
number and its line; a text cut off in a number, in a hexadecimal fraction, after an operand or
in its package and import clauses; an escape that names no code point; or any other text outside
the grammar. -/
inductive SourceError where
  | lexical (fault : LexicalFault) (shown : String) (line : Nat) (text : String)
  | cutOffNumber
  | cutOffFraction
  | cutOffOperand
  | cutOffClause
  | escapeOutOfRange
  | outsideGrammar
  deriving DecidableEq, Repr

/-- Cause of a failure, without the heading. -/
def SourceError.detail : SourceError → String
  | .lexical fault shown line text => s!"{fault.text} at \"{shown}\", line {line}: {text}"
  | .cutOffNumber => "'in <string>' requires string as left operand, not NoneType"
  | .cutOffFraction => "string index out of range"
  | .cutOffOperand => "'in <string>' requires string as left operand, not NoneType"
  | .cutOffClause => ""
  | .escapeOutOfRange => "chr() arg not in range(0x110000)"
  | .outsideGrammar => ""

/-- Failure in words. -/
def SourceError.message : SourceError → String
  | .outsideGrammar => "Java syntax error: "
  | e => "Failed to parse Java code: " ++ e.detail

end Skeletal.Source
