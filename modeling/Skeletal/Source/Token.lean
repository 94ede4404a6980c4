import Skeletal.Text.CharacterClass

/-!
# Tokens

Tokens of source texts and the words that are more than identifiers.
-/

set_option autoImplicit false

namespace Skeletal.Source

/-- Classes of tokens. -/
inductive TokenKind where
  | identifier
  | modifier
  | basicType
  | keyword
  | literal
  | separator
  | operator
  | atSign
  deriving DecidableEq, Repr

/-- Words of basic types. -/
def basicTypeWords : List String :=
  ["boolean", "byte", "char", "double", "float", "int", "long", "short"]

/-- Words of modifiers. -/
def modifierWords : List String :=
  ["abstract", "default", "final", "native", "private", "protected", "public", "static",
    "strictfp", "synchronized", "transient", "volatile"]

/-- The other reserved words. -/
def plainKeywords : List String :=
  ["assert", "break", "case", "catch", "class", "const", "continue", "do", "else", "enum",
    "extends", "finally", "for", "goto", "if", "implements", "import", "instanceof",
    "interface", "new", "package", "return", "super", "switch", "this", "throw", "throws",
    "try", "void", "while"]

/-- Words that are literals. -/
def literalWords : List String := ["true", "false", "null"]

/-- Class of a token that is spelled like an identifier. -/
def wordKind (word : String) : TokenKind :=
  if word ∈ basicTypeWords then .basicType
  else if word ∈ modifierWords then .modifier
  else if word ∈ plainKeywords then .keyword
  else if word ∈ literalWords then .literal
  else .identifier

/-- Whether a word is an identifier: spelled like one and not reserved. -/
def isIdentifier (word : String) : Bool :=
  match word.toList with
  | [] => false
  | c :: rest =>
    Text.isIdentifierStart c && rest.all Text.isIdentifierPart && wordKind word == .identifier

/-- A word that is an identifier. -/
abbrev Identifier := { word : String // isIdentifier word = true }

/-- A token: its class and its characters. What is classed as an identifier is one. -/
structure Token where
  kind : TokenKind
  text : String
  isIdentifier_text : kind = .identifier → isIdentifier text = true
  deriving DecidableEq, Repr

/-- Characters that are tokens by themselves wherever they stand. -/
def separatorChars : List Char := ['(', ')', '\x7b', '\x7d', '[', ']', ';', ',', '.']

/-- Operators, longer ones first. Two closing angles are two tokens, since they may close two
lists of type arguments. -/
def operators : List String :=
  [">>>=", ">>=", "<<=", "...", "%=", "^=", "|=", "&=", "/=", "*=", "-=", "+=", "<<", "--",
    "++", "||", "&&", "!=", ">=", "<=", "==", "->", "::", "%", "^", "|", "&", "/", "*", "-",
    "+", ":", "?", "~", "!", "<", ">", "="]

/-- Operators between two operands. -/
def infixOperators : List String :=
  ["||", "&&", "|", "^", "&", "==", "!=", "<", ">", "<=", ">=", "<<", ">>", ">>>", "+", "-",
    "*", "/", "%"]

/-- Operators before an operand. -/
def leadingOperators : List String := ["++", "--", "!", "~", "+", "-"]

/-- Operators after an operand. -/
def trailingOperators : List String := ["++", "--"]

/-- Operators that assign. -/
def assignmentOperators : List String :=
  ["=", "+=", "-=", "*=", "/=", "&=", "|=", "^=", "%=", "<<=", ">>=", ">>>="]

end Skeletal.Source
