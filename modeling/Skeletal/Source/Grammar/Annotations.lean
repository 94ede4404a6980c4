import Skeletal.Source.Grammar.Types

/-!
# Grammar of annotations and modifiers

Annotations with their elements, modifier lists and formal parameters.
-/

set_option autoImplicit false

namespace Skeletal.Source.Grammar

open Skeletal.Source.Parser

/-- Name and value of an annotation element. -/
def elementPair (p : Productions) : Parser Unit := do
  discard identifier
  expect ["="]
  p.elementValue

/-- Annotation. -/
def annotationUse (p : Productions) : Parser Unit := do
  expect ["@"]
  discard qualifiedName
  if ← skips ["("] then
    unless ← sees [")"] do
      if ← sees [identifierPattern, "="] then discard (separated "," (elementPair p))
      else p.elementValue
    expect [")"]

/-- Values of an annotation element in braces, with or without a comma at the end. -/
def elementArray (p : Productions) : Parser Unit := do
  expect ["\x7b"]
  unless ← skips ["\x7d"] do
    p.elementValue
    let another : Parser Bool := do
      if (← sees ["\x7d"]) || (← sees [",", "\x7d"]) then return false
      else
        expect [","]
        return true
    discard (many another p.elementValue)
    discard (skips [","])
    expect ["\x7d"]

/-- Value of an annotation element. -/
def elementValue (p : Productions) : Parser Unit := do
  if ← annotationStarts 0 then annotationUse p
  else if ← sees ["\x7b"] then elementArray p
  else p.conditional

/-- One or more annotations. -/
def annotations (p : Productions) : Parser Unit := do
  annotationUse p
  discard (many (annotationStarts 0) (annotationUse p))

/-- A modifier word or an annotation, which has none. -/
def modifier (p : Productions) : Parser (Option String) := do
  if ← sees [.kind .modifier] then return some (← take (.kind .modifier))
  else
    annotationUse p
    return none

/-- Modifier words among annotations. -/
def modifiers (p : Productions) : Parser (List String) := do
  let items ← many (do return (← sees [.kind .modifier]) || (← annotationStarts 0)) (modifier p)
  return items.filterMap id

/-- Modifiers of a variable: annotations and the word that makes it final. -/
def variableModifiers (p : Productions) : Parser Unit := do
  discard (many (do return (← sees ["final"]) || (← annotationStarts 0)) (modifier p))

/-- Formal parameter. Brackets after the name belong to the type. -/
def parameter (p : Productions) : Parser Parameter := do
  variableModifiers p
  let type ← typeExpr p
  let isVariadic ← skips ["..."]
  discard identifier
  return ⟨type.withDimensions (← dimensions), isVariadic⟩

/-- Formal parameters in parentheses. Nothing follows one that takes any number of arguments. -/
def parameters (p : Productions) : Parser (List Parameter) := do
  expect ["("]
  if ← skips [")"] then return []
  let rec others : Nat → Parameter → Parser (List Parameter)
    | 0, _ => mismatch
    | bound + 1, before => do
      if before.isVariadic then return [before]
      else if ← skips [","] then return before :: (← others bound (← parameter p))
      else return [before]
  let all ← others ((← get).length + 1) (← parameter p)
  expect [")"]
  return all

end Skeletal.Source.Grammar
