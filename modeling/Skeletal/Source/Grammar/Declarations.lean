import Skeletal.Source.Grammar.Statements

/-!
# Grammar of declarations

Types and their members. An identifier before a parenthesis starts a constructor, whatever its
name. Brackets after a parameter list belong to the result type, except for a generic method of
an interface.
-/

set_option autoImplicit false

namespace Skeletal.Source.Grammar

open Skeletal.Source.Parser

/-- Member of a type: a constructor, a method, a nested type, or one that leaves no trace. -/
inductive BodyItem where
  | constructor (callable : Callable)
  | method (callable : Callable)
  | nested (type : TypeDeclaration)
  | other

/-- Body made of members in order. -/
def bodyOf : List BodyItem → Body
  | [] => {}
  | item :: rest =>
    let body := bodyOf rest
    match item with
    | .constructor c => { body with constructors := c :: body.constructors }
    | .method m => { body with methods := m :: body.methods }
    | .nested t => { body with nested := t :: body.nested }
    | .other => body

/-- Exceptions that a method or constructor declares. -/
def exceptions : Parser (List (List String)) := do
  if ← skips ["throws"] then return (← qualifiedNames).map (·.map Subtype.val) else return []

/-- Body of a method, or a semicolon instead; the answer tells which. -/
def bodyOrEnd (p : Productions) : Parser Bool := do
  if ← sees ["\x7b"] then
    p.block
    return true
  else
    expect [";"]
    return false

/-- Method after its name. `bracketed` tells whether brackets may follow the parameters. -/
def methodRest (p : Productions) (bracketed : Bool) (words : List String)
    (typeParameters : List TypeParameter) (result : Option TypeExpr) (name : String) :
    Parser Callable := do
  let parameters ← parameters p
  let dims ← if bracketed then dimensions else pure 0
  let exceptions ← exceptions
  let hasBody ← bodyOrEnd p
  return { name, modifiers := words, typeParameters, parameters, exceptions,
           result := result.map (·.withDimensions dims), hasBody }

/-- Constructor from its name on. -/
def constructor (p : Productions) (words : List String) (typeParameters : List TypeParameter) :
    Parser Callable := do
  let name ← identifier
  let parameters ← parameters p
  let exceptions ← exceptions
  p.block
  return { name, modifiers := words, typeParameters, parameters, exceptions, result := none,
           hasBody := true }

/-- Method without a result, from its name on. -/
def voidMethod (p : Productions) (words : List String) (typeParameters : List TypeParameter) :
    Parser Callable := do
  methodRest p false words typeParameters none (← identifier)

/-- Method with a result, from its result type on. -/
def typedMethod (p : Productions) (words : List String) (typeParameters : List TypeParameter) :
    Parser Callable := do
  let result ← typeExpr p
  methodRest p true words typeParameters (some result) (← identifier)

/-- Brackets and value of a constant. -/
def constantRest (p : Productions) : Parser Unit := do
  discard dimensions
  expect ["="]
  initializer p

/-- Further constants after the first. -/
def moreConstants (p : Productions) : Parser Unit := do
  discard (many (skips [","]) (do discard identifier; constantRest p))

/-- Whether a type declaration starts after its modifiers. -/
def startsType : Parser Bool := do
  return (← sees ["class"]) || (← sees ["enum"]) || (← sees ["interface"]) ||
    (← annotationTypeStarts)

/-- Method or field of a class, from its type on. -/
def methodOrField (p : Productions) (words : List String) : Parser BodyItem := do
  let type ← typeExpr p
  let name ← identifier
  if ← sees ["("] then return .method (← methodRest p true words [] (some type) name)
  else
    variableRest p
    discard (many (skips [","]) (variableDeclarator p))
    expect [";"]
    return .other

/-- Generic method or constructor of a class. -/
def genericMember (p : Productions) (words : List String) : Parser BodyItem := do
  let typeParameters ← typeParameters p
  if ← sees [identifierPattern, "("] then
    return .constructor (← constructor p words typeParameters)
  else if ← skips ["void"] then return .method (← voidMethod p words typeParameters)
  else return .method (← typedMethod p words typeParameters)

/-- Member of a class. -/
def classMember (p : Productions) : Parser BodyItem := do
  let words ← modifiers p
  if ← skips ["void"] then return .method (← voidMethod p words [])
  else if ← sees ["<"] then genericMember p words
  else if ← startsType then return .nested (← p.typeWithModifiers words)
  else if ← sees [identifierPattern, "("] then
    return .constructor (← constructor p words [])
  else methodOrField p words

/-- Item of a class body. -/
def classItem (p : Productions) : Parser BodyItem := do
  if ← skips [";"] then return .other
  else if ← sees ["static", "\x7b"] then
    expect ["static"]
    p.block
    return .other
  else if ← sees ["\x7b"] then
    p.block
    return .other
  else classMember p

/-- Items of a class in braces. -/
def classBody (p : Productions) : Parser Body := do
  expect ["\x7b"]
  let items ← manyUntil "\x7d" (classItem p)
  expect ["\x7d"]
  return bodyOf items

/-- Generic method of an interface. Brackets after its parameters are dropped. -/
def genericInterfaceMethod (p : Productions) (words : List String) : Parser Callable := do
  let typeParameters ← typeParameters p
  let result ← if ← skips ["void"] then pure none else some <$> typeExpr p
  let name ← identifier
  return { ← methodRest p true words typeParameters none name with result }

/-- Member of an interface. -/
def interfaceMember (p : Productions) : Parser BodyItem := do
  let words ← modifiers p
  if ← startsType then return .nested (← p.typeWithModifiers words)
  else if ← sees ["<"] then return .method (← genericInterfaceMethod p words)
  else if ← skips ["void"] then return .method (← voidMethod p words [])
  else
    let type ← typeExpr p
    let name ← identifier
    if ← sees ["("] then return .method (← methodRest p true words [] (some type) name)
    else
      constantRest p
      moreConstants p
      expect [";"]
      return .other

/-- Item of an interface body. -/
def interfaceItem (p : Productions) : Parser BodyItem := do
  if ← skips [";"] then return .other else interfaceMember p

/-- Items of an interface in braces. -/
def interfaceBody (p : Productions) : Parser Body := do
  expect ["\x7b"]
  let items ← manyUntil "\x7d" (interfaceItem p)
  expect ["\x7d"]
  return bodyOf items

/-- Constant of an enum with its arguments and class body. -/
def enumConstant (p : Productions) : Parser Unit := do
  if ← annotationStarts 0 then annotations p
  discard identifier
  if ← sees ["("] then arguments p
  if ← sees ["\x7b"] then discard p.classBody

/-- Constants of an enum with commas between or after them; a lone comma stands for none. -/
def enumConstants (p : Productions) : Parser Unit := do
  let ended : Parser Bool := do return (← sees [";"]) || (← sees ["\x7d"])
  unless ← skips [","] do
    unless ← ended do
      enumConstant p
      let another : Parser Bool := do
        if ← skips [","] then return !(← ended) else return false
      discard (many another (enumConstant p))

/-- Constants and members of an enum in braces. -/
def enumBody (p : Productions) : Parser Body := do
  expect ["\x7b"]
  enumConstants p
  let items ← if ← skips [";"] then manyUntil "\x7d" (classItem p) else pure []
  expect ["\x7d"]
  return bodyOf items

/-- Member of an annotation type: a nested type, or an element or constant, which leaves no
trace. -/
def annotationMember (p : Productions) : Parser BodyItem := do
  let words ← modifiers p
  if ← startsType then return .nested (← p.typeWithModifiers words)
  else
    discard (typeExpr p)
    discard identifier
    if ← skips ["("] then
      expect [")"]
      discard dimensions
      if ← skips ["default"] then elementValue p
    else
      constantRest p
      moreConstants p
    expect [";"]
    return .other

/-- Members of an annotation type in braces. -/
def annotationBody (p : Productions) : Parser Body := do
  expect ["\x7b"]
  let items ← manyUntil "\x7d" (annotationMember p)
  expect ["\x7d"]
  return bodyOf items

/-- Declaration with its body. -/
def declarationOf (kind : DeclarationKind) (words : List String) (name : Identifier)
    (typeParameters : List TypeParameter) (extended implemented : List TypeExpr) (body : Body) :
    TypeDeclaration :=
  .mk
    { kind, name, isIdentifier_name := name.property, modifiers := words, typeParameters,
      extended, implemented,
      constructors := body.constructors, methods := body.methods }
    body.nested

/-- Type declaration after its modifiers. -/
def typeWithModifiers (p : Productions) (words : List String) : Parser TypeDeclaration := do
  if ← skips ["class"] then
    let name ← identifier
    let typeParameters ← typeParametersIfAny p
    let extended ← if ← skips ["extends"] then do pure [← typeExpr p] else pure []
    let implemented ← if ← skips ["implements"] then typeList p else pure []
    return declarationOf .classType words name typeParameters extended implemented (← classBody p)
  else if ← skips ["enum"] then
    let name ← identifier
    let implemented ← if ← skips ["implements"] then typeList p else pure []
    return declarationOf .enumType words name [] [] implemented (← enumBody p)
  else if ← skips ["interface"] then
    let name ← identifier
    let typeParameters ← typeParametersIfAny p
    let extended ← if ← skips ["extends"] then typeList p else pure []
    return declarationOf .interfaceType words name typeParameters extended [] (← interfaceBody p)
  else if ← annotationTypeStarts then
    expect ["@", "interface"]
    let name ← identifier
    return declarationOf .annotationType words name [] [] [] (← annotationBody p)
  else mismatch

/-- Type declaration with its modifiers. -/
def declaration (p : Productions) : Parser TypeDeclaration := do
  typeWithModifiers p (← modifiers p)

end Skeletal.Source.Grammar
