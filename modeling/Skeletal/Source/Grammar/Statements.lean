import Skeletal.Source.Grammar.Expressions

/-!
# Grammar of statements

Statements are checked against the grammar and have no result. An item of a block that starts
with an identifier is tried as the declaration of variables and is a statement otherwise.
-/

set_option autoImplicit false

namespace Skeletal.Source.Grammar

open Skeletal.Source.Parser

/-- Brackets and initial value of a variable. -/
def variableRest (p : Productions) : Parser Unit := do
  discard dimensions
  if ← skips ["="] then initializer p

/-- Variable with its brackets and initial value. -/
def variableDeclarator (p : Productions) : Parser Unit := do
  discard identifier
  variableRest p

/-- Declaration of local variables. -/
def localVariables (p : Productions) : Parser Unit := do
  variableModifiers p
  discard (typeExpr p)
  discard (separated "," (variableDeclarator p))
  expect [";"]

/-- What an item of a block is, as far as its first tokens tell. -/
inductive BlockItem where
  | declaration
  | locals
  | statement
  | open
  deriving DecidableEq, Repr

/-- Tokens after the points and names that go on a dotted name. -/
def afterDottedNames : List Token → List Token
  | point :: name :: rest =>
    if point.text = "." then afterDottedNames rest else point :: name :: rest
  | [point] => if point.text = "." then [] else [point]
  | [] => []

theorem length_afterDottedNames_le (tokens : List Token) :
    (afterDottedNames tokens).length ≤ tokens.length := by
  fun_induction afterDottedNames tokens with
  | case1 point name rest hpoint ih =>
      simp only [List.length_cons]
      omega
  | case3 => exact Nat.zero_le _
  | _ => exact Nat.le_refl _

/-- What an item is that starts with the given tokens. Modifiers and annotations are looked
past; of a name without elements, one token more. -/
def blockItem (annotated : Bool) (tokens : List Token) : BlockItem :=
  match tokens with
  | [] => if annotated then .locals else .statement
  | token :: rest =>
    if token.kind = .modifier then
      if token.text = "final" then blockItem annotated rest else .declaration
    else if token.kind = .atSign ∧ rest.head?.any (·.kind == .identifier) then
      let after := afterDottedNames (rest.drop 1)
      if after.head?.any (·.text == "(") then .locals else blockItem true (after.drop 1)
    else if token.text ∈ ["class", "enum", "interface", "@"] then .declaration
    else if annotated ∨ token.kind = .basicType then .locals
    else if token.kind = .identifier then .open
    else .statement
termination_by tokens.length
decreasing_by
  · simp
  · have h := length_afterDottedNames_le (rest.drop 1)
    simp only [List.length_drop, List.length_cons] at *
    omega

/-- Expressions at the start of a loop or after each turn of it. -/
def loopExpressions (p : Productions) : Parser Unit := discard (separated "," p.expression)

/-- Condition and updates of a counting loop. -/
def loopRest (p : Productions) : Parser Unit := do
  unless ← sees [";"] do p.expression
  expect [";"]
  unless ← sees [")"] do loopExpressions p

/-- Control of a loop that declares its variables. -/
def declaringLoop (p : Productions) : Parser Unit := do
  variableModifiers p
  discard (typeExpr p)
  discard identifier
  discard dimensions
  if ← skips [":"] then p.expression
  else
    unless ← sees [";"] do
      if ← skips ["="] then initializer p
      discard (many (skips [","]) (variableDeclarator p))
    expect [";"]
    loopRest p

/-- Control of a loop. -/
def loopControl (p : Productions) : Parser Unit := do
  unless (← attempt (declaringLoop p)).isSome do
    unless ← sees [";"] do loopExpressions p
    expect [";"]
    loopRest p

/-- Clause that handles exceptions. -/
def catchClause (p : Productions) : Parser Unit := do
  expect ["catch", "("]
  variableModifiers p
  discard (separated "|" qualifiedName)
  discard identifier
  expect [")"]
  p.block

/-- Resource of a guarded block. -/
def resource (p : Productions) : Parser Unit := do
  variableModifiers p
  discard (referenceType p)
  discard dimensions
  discard identifier
  discard dimensions
  expect ["="]
  p.expression

/-- Resources of a guarded block in parentheses, with semicolons between or after them. -/
def resources (p : Productions) : Parser Unit := do
  expect ["("]
  resource p
  let another : Parser Bool := do
    unless ← sees [")"] do expect [";"]
    return !(← skips [")"])
  discard (many another (resource p))

/-- Handlers of a guarded block; the answer tells whether there are any. -/
def handlers (p : Productions) : Parser Bool := do
  let catches ← many (sees ["catch"]) (catchClause p)
  if ← skips ["finally"] then
    p.block
    return true
  else return !catches.isEmpty

/-- Guarded block after its word. Without resources it needs a handler. -/
def guarded (p : Productions) : Parser Unit := do
  if ← sees ["\x7b"] then
    p.block
    unless ← handlers p do mismatch
  else
    resources p
    p.block
    discard (handlers p)

/-- Item of a block. -/
def blockStatement (p : Productions) : Parser Unit := do
  if (← sees [identifierPattern, ":"]) || (← sees ["synchronized"]) then p.statement
  else
    match blockItem false (← get) with
    | .declaration => discard p.declaration
    | .locals => localVariables p
    | .statement => p.statement
    | .open => unless (← attempt (localVariables p)).isSome do p.statement

/-- Items in braces. -/
def block (p : Productions) : Parser Unit := do
  expect ["\x7b"]
  discard (manyUntil "\x7d" (blockStatement p))
  expect ["\x7d"]

/-- Whether a label of a case follows. -/
def caseFollows : Parser Bool := do
  return (← sees ["case"]) || (← sees ["default"])

/-- Label of a case. -/
def caseLabel (p : Productions) : Parser Unit := do
  if ← skips ["case"] then
    if ← sees [identifierPattern, ":"] then discard identifier else p.expression
  else expect ["default"]
  expect [":"]

/-- Labels of a case and the items they lead to. -/
def caseGroup (p : Productions) : Parser Unit := do
  discard (many caseFollows (caseLabel p))
  discard (many (do return !((← caseFollows) || (← sees ["\x7d"]))) (blockStatement p))

/-- Jump with an optional label. -/
def jump : Parser Unit := do
  if ← sees [identifierPattern] then discard identifier
  expect [";"]

/-- Any statement. -/
def statement (p : Productions) : Parser Unit := do
  if ← sees ["\x7b"] then p.block
  else if ← skips [";"] then pure ()
  else if ← sees [identifierPattern, ":"] then
    expect [identifierPattern, ":"]
    p.statement
  else if ← skips ["if"] then
    parenthesised p
    p.statement
    if ← skips ["else"] then p.statement
  else if ← skips ["assert"] then
    p.expression
    if ← skips [":"] then p.expression
    expect [";"]
  else if ← skips ["switch"] then
    parenthesised p
    expect ["\x7b"]
    discard (many caseFollows (caseGroup p))
    expect ["\x7d"]
  else if ← skips ["while"] then
    parenthesised p
    p.statement
  else if ← skips ["do"] then
    p.statement
    expect ["while"]
    parenthesised p
    expect [";"]
  else if ← skips ["for"] then
    expect ["("]
    loopControl p
    expect [")"]
    p.statement
  else if (← skips ["break"]) || (← skips ["continue"]) then jump
  else if ← skips ["return"] then
    unless ← sees [";"] do p.expression
    expect [";"]
  else if ← skips ["throw"] then
    p.expression
    expect [";"]
  else if ← skips ["synchronized"] then
    parenthesised p
    p.block
  else if ← skips ["try"] then guarded p
  else
    p.expression
    expect [";"]

end Skeletal.Source.Grammar
