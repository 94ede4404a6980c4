import Skeletal.Source.Syntax
import Skeletal.Universe.Basic

/-!
# Declared types

The first pass over compilation units. It gives every type its names, modifiers and place before
any reference is looked at, so that references may point forward and across units. A type whose
canonical name is taken is dropped together with the types nested in it.
-/

set_option autoImplicit false

namespace Skeletal.Load

open Source (CompilationUnit DeclarationKind Import TypeDeclaration TypeHeader TypeParameter)

/-- Names that a unit gives to the types declared in it: its package, the types imported by
their simple names, later ones first, and the prefixes of imports on demand. -/
structure FileScope where
  package : String
  isPackageName_package : Source.IsPackageName package
  imported : List (String × String)
  onDemand : List String
  deriving Repr

/-- Name with a prefix before it; the name itself for an empty prefix. -/
def qualify (qualifier name : String) : String :=
  if qualifier = "" then name else qualifier ++ "." ++ name

/-- Last segment of a dotted name. -/
def lastSegment (path : String) : String :=
  String.ofList (path.toList.reverse.takeWhile (· ≠ '.')).reverse

/-- Scope of a unit. Static imports name no types. -/
def FileScope.ofUnit (unit : CompilationUnit) : FileScope :=
  let imports := unit.imports.filter fun i => !i.isStatic
  { package := unit.package
    isPackageName_package := unit.isPackageName_package
    imported :=
      ((imports.filter fun i => !i.isOnDemand).map fun i => (lastSegment i.path, i.path)).reverse
    onDemand := (imports.filter (·.isOnDemand)).map (·.path) }

/-- A declaration around a type, or the type's own: its canonical name and type parameters. -/
structure Level where
  canonical : String
  typeParameters : List TypeParameter

/-- A type with its names. `levels` holds the type itself and then the declarations around it,
innermost first. -/
structure Declared where
  header : TypeHeader
  file : FileScope
  kind : TypeKind
  canonical : String
  binary : String
  modifiers : List String
  origin : Option String
  levels : List Level
  enclosing : Option String

/-- Kind of a declared type. -/
def kindOf : DeclarationKind → TypeKind
  | .classType => .classType
  | .interfaceType => .interfaceType
  | .enumType => .enumType
  | .annotationType => .annotationType

/-- Whether members of a type of this kind are members of an interface. -/
def isInterfaceKind (kind : TypeKind) : Bool :=
  kind == .interfaceType || kind == .annotationType

/-- Modifiers of a declared type: those it is written with and those its kind and surroundings
imply. -/
def impliedModifiers (kind : TypeKind) (outer : Option TypeKind) (words : List String) :
    List String :=
  arrangeModifiers <|
    words ++
    (if outer.any isInterfaceKind then ["public", "static"] else []) ++
    (if outer.isSome && kind != .classType then ["static"] else []) ++
    (if isInterfaceKind kind then ["abstract", "interface"] else []) ++
    (if kind == .enumType then ["final"] else [])

/-- Declared type of a header, nested in `outer` or at the top of its unit. -/
def Declared.ofHeader (file : FileScope) (origin : Option String) (outer : Option Declared)
    (header : TypeHeader) : Declared :=
  let kind := kindOf header.kind
  let canonical := match outer with
    | none => qualify file.package header.name
    | some d => d.canonical ++ "." ++ header.name
  { header, file, kind, canonical
    binary := match outer with
      | none => canonical
      | some d => d.binary ++ "$" ++ header.name
    modifiers := impliedModifiers kind (outer.map Declared.kind) header.modifiers
    origin
    levels := ⟨canonical, header.typeParameters⟩ :: (outer.map Declared.levels).getD []
    enclosing := outer.map Declared.canonical }

/-- Whether a canonical name is taken. -/
def isTaken (known : List Declared) (canonical : String) : Bool :=
  known.any fun d => d.canonical == canonical

mutual

/-- Known types with a declaration and the types nested in it, outer types first. -/
def declare (file : FileScope) (origin : Option String) (outer : Option Declared)
    (known : List Declared) : TypeDeclaration → List Declared
  | .mk header nested =>
    let d := Declared.ofHeader file origin outer header
    if isTaken known d.canonical then known
    else declareAll file origin (some d) (known ++ [d]) nested

/-- Known types with several declarations. -/
def declareAll (file : FileScope) (origin : Option String) (outer : Option Declared)
    (known : List Declared) : List TypeDeclaration → List Declared
  | [] => known
  | declaration :: rest =>
    declareAll file origin outer (declare file origin outer known declaration) rest

end

/-- Known types with those of a compilation unit. -/
def declareUnit (known : List Declared) (origin : Option String) (unit : CompilationUnit) :
    List Declared :=
  declareAll (FileScope.ofUnit unit) origin none known unit.types

end Skeletal.Load
