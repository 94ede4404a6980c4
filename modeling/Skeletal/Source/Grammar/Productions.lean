import Skeletal.Source.Parser
import Skeletal.Source.Syntax

/-!
# Recursive productions

The productions of the grammar that refer to one another in a circle. Each production is written
over a record of the parsers it may call, and the record is tied into itself a bounded number of
times at the end.
-/

set_option autoImplicit false

namespace Skeletal.Source

/-- Members of a class body: what they declare and the types nested in them. -/
structure Body where
  constructors : List Callable := []
  methods : List Callable := []
  nested : List TypeDeclaration := []

/-- Parsers that productions call in a circle. -/
structure Productions where
  typeArguments : Parser (List TypeArgument)
  elementValue : Parser Unit
  initializer : Parser Unit
  expression : Parser Unit
  conditional : Parser Unit
  operand : Parser Unit
  block : Parser Unit
  statement : Parser Unit
  classBody : Parser Body
  declaration : Parser TypeDeclaration
  typeWithModifiers : List String → Parser TypeDeclaration

/-- Productions that fit nothing. -/
def Productions.refusing : Productions where
  typeArguments := Parser.mismatch
  elementValue := Parser.mismatch
  initializer := Parser.mismatch
  expression := Parser.mismatch
  conditional := Parser.mismatch
  operand := Parser.mismatch
  block := Parser.mismatch
  statement := Parser.mismatch
  classBody := Parser.mismatch
  declaration := Parser.mismatch
  typeWithModifiers := fun _ => Parser.mismatch

end Skeletal.Source
