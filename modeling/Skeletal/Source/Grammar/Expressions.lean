import Skeletal.Source.Grammar.Annotations

/-!
# Grammar of expressions

Expressions are checked against the grammar and have no result. A parenthesis is tried as the
start of a function literal, then as a cast, and is a parenthesised expression otherwise.
-/

set_option autoImplicit false

namespace Skeletal.Source.Grammar

open Skeletal.Source.Parser

/-- Expressions with commas between them, in parentheses. -/
def arguments (p : Productions) : Parser Unit := do
  expect ["("]
  unless ← skips [")"] do
    discard (separated "," p.expression)
    expect [")"]

/-- Expression in parentheses. -/
def parenthesised (p : Productions) : Parser Unit := do
  expect ["("]
  p.expression
  expect [")"]

/-- Body of a function literal with its arrow. -/
def functionBody (p : Productions) : Parser Unit := do
  expect ["->"]
  if ← sees ["\x7b"] then p.block else p.expression

/-- Parameter of a function literal by its name alone, with a comma after it or without. -/
def bareParameter : Parser Unit := do
  discard identifier
  discard (skips [","])

/-- Function literal with its parameters in parentheses; a single parameter needs its type. -/
def functionLiteral (p : Productions) : Parser Unit := do
  if ← sees ["(", identifierPattern, ","] then
    expect ["("]
    discard (manyUntil ")" bareParameter)
    expect [")"]
  else discard (parameters p)
  functionBody p

/-- Cast of an operand. -/
def cast (p : Productions) : Parser Unit := do
  expect ["("]
  discard (typeExpr p)
  expect [")"]
  p.operand

/-- What follows the word for the superclass. -/
def superSuffix (p : Productions) : Parser Unit := do
  if ← skips ["."] then
    if ← sees ["<"] then plainTypeArguments p
    discard identifier
    if ← sees ["("] then arguments p
  else arguments p

/-- Call that follows explicit type arguments. -/
def typedCall (p : Productions) : Parser Unit := do
  if ← skips ["super"] then superSuffix p
  else
    discard identifier
    arguments p

/-- Explicit type arguments and the call that follows them. -/
def explicitlyTypedCall (p : Productions) : Parser Unit := do
  plainTypeArguments p
  typedCall p

/-- Arguments of a created object and its class body, if it has one. -/
def creationRest (p : Productions) : Parser Unit := do
  arguments p
  if ← sees ["\x7b"] then discard p.classBody

/-- Elements of an array in braces. A lone comma is allowed, and so is one at the end. -/
def arrayElements (p : Productions) : Parser Unit := do
  expect ["\x7b"]
  if ← skips [","] then expect ["\x7d"]
  else
    unless ← skips ["\x7d"] do
      p.initializer
      let another : Parser Bool := do
        unless ← sees ["\x7d"] do expect [","]
        return !(← skips ["\x7d"])
      discard (many another p.initializer)

/-- Initial value of a variable. -/
def initializer (p : Productions) : Parser Unit := do
  if ← sees ["\x7b"] then arrayElements p else p.expression

/-- Brackets of a created array with its elements or its lengths. -/
def arrayRest (p : Productions) : Parser Unit := do
  if ← sees ["[", "]"] then
    discard dimensions
    arrayElements p
  else
    let length : Parser Unit := do
      expect ["["]
      p.expression
      expect ["]"]
    discard (many (do return (← sees ["["]) && !(← sees ["[", "]"])) length)
    discard dimensions

/-- Segment of the name of a created class. -/
def createdSegment (p : Productions) : Parser Unit := do
  discard identifier
  if ← sees ["<"] then typeArgumentsOrDiamond p

/-- Creation of an object or array after its word. -/
def creation (p : Productions) : Parser Unit := do
  if ← sees [.kind .basicType] then
    discard basicType
    arrayRest p
  else
    let isTyped ← sees ["<"]
    if isTyped then plainTypeArguments p
    discard (separated "." (createdSegment p))
    if ← sees ["["] then
      if isTyped then mismatch else arrayRest p
    else creationRest p

/-- Creation of an inner object after its word. -/
def innerCreation (p : Productions) : Parser Unit := do
  if ← sees ["<"] then plainTypeArguments p
  discard identifier
  if ← sees ["<"] then plainTypeArgumentsOrDiamond p
  creationRest p

/-- What follows a dotted name. -/
def nameSuffix (p : Productions) : Parser Unit := do
  if ← skips ["[", "]"] then
    discard dimensions
    expect [".", "class"]
  else if ← sees ["("] then arguments p
  else if ← skips [".", "class"] then pure ()
  else if ← skips [".", "this"] then pure ()
  else if ← sees [".", "<"] then
    expect ["."]
    explicitlyTypedCall p
  else if ← skips [".", "new"] then innerCreation p
  else if ← sees [".", "super", "("] then
    expect [".", "super"]
    arguments p

/-- Dotted name with what follows it. -/
def nameOperand (p : Productions) : Parser Unit := do
  discard identifier
  discard (many (sees [".", identifierPattern]) (expect [".", identifierPattern]))
  nameSuffix p

/-- Operand without selectors. -/
def primary (p : Productions) : Parser Unit := do
  if ← sees [.kind .literal] then discard next
  else if ← sees ["("] then parenthesised p
  else if ← skips ["this"] then
    if ← sees ["("] then arguments p
  else if ← sees ["super", "::"] then expect ["super"]
  else if ← skips ["super"] then superSuffix p
  else if ← skips ["new"] then creation p
  else if ← sees ["<"] then
    plainTypeArguments p
    if ← skips ["this"] then arguments p else typedCall p
  else if ← sees [identifierPattern] then nameOperand p
  else if ← sees [.kind .basicType] then
    discard basicType
    discard dimensions
    expect [".", "class"]
  else if ← skips ["void"] then expect [".", "class"]
  else mismatch

/-- Selector of an element or member. -/
def selector (p : Productions) : Parser Unit := do
  if ← skips ["["] then
    p.expression
    expect ["]"]
  else if ← skips ["."] then
    if ← sees [identifierPattern] then
      discard identifier
      if ← sees ["("] then arguments p
    else if ← sees ["super", "::"] then expect ["super"]
    else if ← sees ["<"] then explicitlyTypedCall p
    else if ← skips ["this"] then pure ()
    else if ← skips ["super"] then superSuffix p
    else if ← skips ["new"] then innerCreation p
    else mismatch
  else mismatch

/-- Whether a selector follows an operand; something has to follow it. -/
def selectorFollows : Parser Bool := do
  match ← peek with
  | none => throw .danglingOperand
  | some token => return token.text == "[" || token.text == "."

/-- Operand with its selectors and the operators after it. -/
def selectedOperand (p : Productions) : Parser Unit := do
  primary p
  discard (many selectorFollows (selector p))
  discard (many (do return trailingOperators.contains (← peekText)) next)

/-- Operand with the operators before it. -/
def operand (p : Productions) : Parser Unit := do
  discard (many (do return leadingOperators.contains (← peekText)) next)
  if ← sees ["("] then
    if (← attempt (functionLiteral p)).isSome then return
    if (← attempt (cast p)).isSome then return
  selectedOperand p

/-- Operator between operands; shifts to the right are written with single angles. -/
def infixOperator : Parser Unit := do
  let operator ← take (.kind .operator)
  if operator == ">" then
    if ← skips [">"] then discard (skips [">"])

/-- Operator and operand, or a type test. -/
def operation (p : Productions) : Parser Unit := do
  if ← skips ["instanceof"] then discard (typeExpr p)
  else
    infixOperator
    operand p

/-- Operands with operators between them. -/
def operations (p : Productions) : Parser Unit := do
  operand p
  let goesOn : Parser Bool := do
    let text ← peekText
    return infixOperators.contains text || text == "instanceof"
  discard (many goesOn (operation p))

/-- Method or constructor named after a double colon. -/
def methodReference (p : Productions) : Parser Unit := do
  if ← sees ["<"] then plainTypeArguments p
  if ← sees ["new"] then expect ["new"] else p.expression

/-- Expression without assignment. -/
def conditional (p : Productions) : Parser Unit := do
  operations p
  if ← skips ["?"] then
    p.expression
    expect [":"]
    p.conditional
  else if ← sees ["->"] then functionBody p
  else if ← skips ["::"] then methodReference p

/-- Any expression. -/
def expression (p : Productions) : Parser Unit := do
  conditional p
  if assignmentOperators.contains (← peekText) then
    discard next
    p.expression

end Skeletal.Source.Grammar
