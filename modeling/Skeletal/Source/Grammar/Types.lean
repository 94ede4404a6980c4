import Skeletal.Source.Grammar.Productions

/-!
# Grammar of types

Types, type arguments and type parameters. A type is a basic type or a dotted name, followed by
pairs of brackets; as a type argument and in a list of types, a basic type needs brackets.
-/

set_option autoImplicit false

namespace Skeletal.Source.Grammar

open Skeletal.Source.Parser

/-- Segment of a dotted type name. -/
def segment (p : Productions) : Parser Segment := do
  let name ← identifier
  if ← sees ["<"] then return .mk name (← p.typeArguments) else return .mk name []

/-- Dotted type name without brackets. -/
def referenceType (p : Productions) : Parser TypeExpr := do
  return .named (← separated "." (segment p)) 0

/-- Basic type without brackets. -/
def basicType : Parser TypeExpr := do
  return .basic (← take (.kind .basicType)) 0

/-- Any type. -/
def typeExpr (p : Productions) : Parser TypeExpr := do
  let type ←
    if ← sees [.kind .basicType] then basicType
    else if ← sees [identifierPattern] then referenceType p
    else mismatch
  return type.withDimensions (← dimensions)

/-- Type of objects: a dotted name or an array. -/
def objectType (p : Productions) : Parser TypeExpr := do
  let type ←
    if ← sees [.kind .basicType] then do
      let type ← basicType
      expect ["[", "]"]
      pure (type.withDimensions 1)
    else referenceType p
  return type.withDimensions (← dimensions)

/-- Types of objects with commas between them. -/
def typeList (p : Productions) : Parser (List TypeExpr) := separated "," (objectType p)

/-- Type argument. -/
def typeArgument (p : Productions) : Parser TypeArgument := do
  if ← skips ["?"] then
    if (← skips ["extends"]) || (← skips ["super"]) then return .type (← objectType p)
    else return .wildcard
  else return .type (← objectType p)

/-- Type arguments in angles. -/
def typeArguments (p : Productions) : Parser (List TypeArgument) := do
  expect ["<"]
  let arguments ← separated "," (typeArgument p)
  expect [">"]
  return arguments

/-- Type arguments without wildcards, in angles. -/
def plainTypeArguments (p : Productions) : Parser Unit := do
  expect ["<"]
  discard (typeList p)
  expect [">"]

/-- Type arguments of a created class, which may be left to be inferred. -/
def typeArgumentsOrDiamond (p : Productions) : Parser Unit := do
  unless ← skips ["<", ">"] do discard p.typeArguments

/-- Type arguments without wildcards of a created class, which may be left to be inferred. -/
def plainTypeArgumentsOrDiamond (p : Productions) : Parser Unit := do
  unless ← skips ["<", ">"] do plainTypeArguments p

/-- Type parameter with its bounds. -/
def typeParameter (p : Productions) : Parser TypeParameter := do
  let name ← identifier
  if ← skips ["extends"] then return ⟨name, ← separated "&" (referenceType p)⟩
  else return ⟨name, []⟩

/-- Type parameters in angles. -/
def typeParameters (p : Productions) : Parser (List TypeParameter) := do
  expect ["<"]
  let parameters ← separated "," (typeParameter p)
  expect [">"]
  return parameters

/-- Type parameters in angles, if there are any. -/
def typeParametersIfAny (p : Productions) : Parser (List TypeParameter) := do
  if ← sees ["<"] then typeParameters p else return []

end Skeletal.Source.Grammar
