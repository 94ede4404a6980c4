import Skeletal.Source.Grammar.Declarations
import Skeletal.Source.Lexer

/-!
# Compilation units of source texts

The recursive productions tied together, and the parse of a whole source text. Every turn through
the circle of productions takes a token at least every other time, so the number of tokens bounds
the turns.
-/

set_option autoImplicit false

namespace Skeletal.Source

open Skeletal.Source.Parser

/-- Productions tied into themselves a number of times. -/
def Productions.tied : Nat → Productions
  | 0 => .refusing
  | turns + 1 =>
    let p := tied turns
    { typeArguments := Grammar.typeArguments p
      elementValue := Grammar.elementValue p
      initializer := Grammar.initializer p
      expression := Grammar.expression p
      conditional := Grammar.conditional p
      operand := Grammar.operand p
      block := Grammar.block p
      statement := Grammar.statement p
      classBody := Grammar.classBody p
      declaration := Grammar.declaration p
      typeWithModifiers := Grammar.typeWithModifiers p }

namespace Grammar

/-- Names of the package clause; none where there is none. Annotations belong to it only if it
follows. -/
def packageClause (p : Productions) : Parser (List Identifier) := do
  let start ← get
  if ← annotationStarts 0 then annotations p
  if ← skips ["package"] then
    let names ← qualifiedName
    expect [";"]
    return names
  else
    set start
    return []

/-- Names of an import after the first, and whether everything below them is meant. -/
def importRest : Nat → Parser (List String × Bool)
  | 0 => mismatch
  | bound + 1 => do
    if ← skips ["."] then
      if ← skips ["*"] then
        expect [";"]
        return ([], true)
      else
        let name ← identifier
        let (names, isOnDemand) ← importRest bound
        return (name.val :: names, isOnDemand)
    else
      expect [";"]
      return ([], false)

/-- Import clause. -/
def importClause : Parser Import := do
  expect ["import"]
  let isStatic ← skips ["static"]
  let first ← identifier
  let (others, isOnDemand) ← importRest ((← get).length + 1)
  return ⟨".".intercalate (first.val :: others), isStatic, isOnDemand⟩

/-- Package and import clauses. -/
def clauses (p : Productions) : Parser (List Identifier × List Import) := do
  let package ← packageClause p
  return (package, ← many (sees ["import"]) importClause)

/-- Type declaration at the top of a text, or a semicolon. -/
def topLevelItem (p : Productions) : Parser (Option TypeDeclaration) := do
  if ← skips [";"] then return none else return some (← declaration p)

/-- Type declarations up to the end of a text. -/
def topLevelTypes (p : Productions) : Parser (List TypeDeclaration) := do
  let items ← many (do return (← peek).isSome) (topLevelItem p)
  return items.filterMap id

end Grammar

/-- Failure of a stop in the package and import clauses. -/
def Stop.inClauses : Stop → SourceError
  | .mismatch => .outsideGrammar
  | .inputEnds => .cutOffClause
  | .danglingOperand => .cutOffOperand

/-- Failure of a stop in the type declarations. -/
def Stop.inTypes : Stop → SourceError
  | .mismatch => .outsideGrammar
  | .inputEnds => .outsideGrammar
  | .danglingOperand => .cutOffOperand

/-- Compilation unit of a source text. -/
def parse (text : String) : Except SourceError CompilationUnit := do
  let tokens ← tokens text
  let p := Productions.tied (4 * (tokens.length + 1))
  let ((package, imports), rest) ←
    ((Grammar.clauses p).run tokens).mapError Stop.inClauses
  let (types, _) ← ((Grammar.topLevelTypes p).run rest).mapError Stop.inTypes
  return ⟨".".intercalate (package.map Subtype.val), ⟨package, rfl⟩, imports, types⟩

end Skeletal.Source
