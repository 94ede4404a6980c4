import Skeletal.Source.Token

/-!
# Compilation units

What a source text declares: its package, its imports and its types with their members. Bodies
and initializers are read for their grammar alone and leave no trace here.
-/

set_option autoImplicit false

namespace Skeletal.Source

/-- Types of values that are no references, by their words. -/
abbrev BasicType := String

mutual

/-- Type as written: a basic type or a dotted name whose segments may have type arguments, and
the number of array dimensions. -/
inductive TypeExpr where
  | basic (word : BasicType) (dimensions : Nat)
  | named (segments : List Segment) (dimensions : Nat)

/-- Segment of a dotted type name. -/
inductive Segment where
  | mk (name : String) (arguments : List TypeArgument)

/-- Type argument: an unbounded wildcard, or a type that is the argument or its bound. -/
inductive TypeArgument where
  | wildcard
  | type (type : TypeExpr)

end

instance : Inhabited TypeExpr := ⟨.named [] 0⟩

/-- Name of a segment. -/
def Segment.name : Segment → String
  | .mk name _ => name

/-- Type arguments of a segment. -/
def Segment.arguments : Segment → List TypeArgument
  | .mk _ arguments => arguments

namespace TypeExpr

/-- Number of array dimensions. -/
def dimensions : TypeExpr → Nat
  | .basic _ dims => dims
  | .named _ dims => dims

/-- The type with more array dimensions. -/
def withDimensions (more : Nat) : TypeExpr → TypeExpr
  | .basic word dims => .basic word (dims + more)
  | .named segments dims => .named segments (dims + more)

/-- Segments of the name; none for a basic type. -/
def names : TypeExpr → List String
  | .basic _ _ => []
  | .named segments _ => segments.map Segment.name

/-- Type arguments of the last segment that has some. -/
def arguments : TypeExpr → List TypeArgument
  | .basic _ _ => []
  | .named segments _ =>
    ((segments.map Segment.arguments).reverse.find? fun a => !a.isEmpty).getD []

end TypeExpr

/-- Type parameter with its bounds. -/
structure TypeParameter where
  name : String
  bounds : List TypeExpr

/-- Formal parameter: its type, and whether it takes any number of arguments. -/
structure Parameter where
  type : TypeExpr
  isVariadic : Bool

/-- Declared method or constructor. A method without a result type returns nothing. Exceptions
are given by the segments of their names. -/
structure Callable where
  name : String
  modifiers : List String
  typeParameters : List TypeParameter
  parameters : List Parameter
  exceptions : List (List String)
  result : Option TypeExpr
  hasBody : Bool

/-- Kinds of type declarations. -/
inductive DeclarationKind where
  | classType
  | interfaceType
  | enumType
  | annotationType
  deriving DecidableEq, Repr

/-- A type declaration without the types nested in it. Classes have at most one supertype in
`extended`, interfaces any number, enums and annotations none. -/
structure TypeHeader where
  kind : DeclarationKind
  name : String
  isIdentifier_name : isIdentifier name = true
  modifiers : List String
  typeParameters : List TypeParameter
  extended : List TypeExpr
  implemented : List TypeExpr
  constructors : List Callable
  methods : List Callable

/-- A type declaration with the types nested in it. -/
inductive TypeDeclaration where
  | mk (header : TypeHeader) (nested : List TypeDeclaration)

/-- Import of a name or, on demand, of everything below it. -/
structure Import where
  path : String
  isStatic : Bool
  isOnDemand : Bool
  deriving DecidableEq, Repr

/-- Whether a text names a package: identifiers with points between them, none for the unnamed
package. -/
def IsPackageName (text : String) : Prop :=
  ∃ names : List Identifier, text = ".".intercalate (names.map Subtype.val)

/-- Content of a source text; the package is empty for the unnamed one. -/
structure CompilationUnit where
  package : String
  isPackageName_package : IsPackageName package
  imports : List Import
  types : List TypeDeclaration

end Skeletal.Source
