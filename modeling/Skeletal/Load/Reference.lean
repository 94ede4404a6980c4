import Skeletal.Load.Declared
import Skeletal.Universe.Standard

/-!
# References

Resolution of type names. A name means, in this order, a type variable, a member type of a
declaration around, an imported type, a type of the same package, a type imported on demand or a
type of `java.lang`. What none of these gives is taken for a type outside the loaded sources, of
which only the name is known. Type variables are erased to their first bound.
-/

set_option autoImplicit false

namespace Skeletal.Load

open Source (Parameter TypeArgument TypeExpr TypeParameter)

/-- What a name refers to: a standard type, a loaded type, or a type known by name alone. -/
inductive Target where
  | standard (place : TypeId)
  | declared (canonical : String)
  | outside (canonical : String)
  deriving DecidableEq, Repr

/-- Canonical name of a target. -/
def Target.canonical : Target → String
  | .standard place => Skeletal.standard.canonical place
  | .declared canonical => canonical
  | .outside canonical => canonical

/-- Reference to a target or to an array of it. -/
structure Reference where
  target : Target
  dimensions : Nat := 0
  deriving DecidableEq, Repr

/-- Reference to the root of all classes. -/
def Reference.root : Reference := ⟨.standard Standard.object, 0⟩

/-- Reference to a supertype with the type arguments it is seen with. -/
structure SupertypeReference where
  base : Reference
  arguments : List Reference := []
  deriving DecidableEq, Repr

/-- Surroundings of a name: the loaded types, the unit, the declarations around, innermost first,
and the erasures of the type variables, later ones first. -/
structure Scope where
  isLoaded : String → Bool
  file : FileScope
  around : List String
  typeVariables : List (String × Target)

namespace Scope

/-- Target of a canonical name. -/
def targetOf (s : Scope) (canonical : String) : Target :=
  if s.isLoaded canonical then .declared canonical
  else
    match Standard.named? canonical with
    | some place => .standard place
    | none => .outside canonical

/-- Loaded type of a canonical name. -/
def loaded? (s : Scope) (canonical : String) : Option Target :=
  if s.isLoaded canonical then some (.declared canonical) else none

/-- Loaded or standard type of a canonical name. -/
def present? (s : Scope) (canonical : String) : Option Target :=
  (s.loaded? canonical).or ((Standard.named? canonical).map .standard)

/-- What a simple name refers to, if anything. -/
def simple? (s : Scope) (name : String) : Option Target :=
  (s.typeVariables.lookup name).or <|
  (s.around.findSome? fun outer => s.loaded? (outer ++ "." ++ name)).or <|
  ((s.file.imported.lookup name).map s.targetOf).or <|
  (s.loaded? (qualify s.file.package name)).or <|
  (s.file.onDemand.findSome? fun path => s.present? (path ++ "." ++ name)).or <|
  (Standard.langNamed? name).map .standard

/-- Canonical name assumed for a simple name that refers to nothing: below the only import on
demand, else in the package of the unit. -/
def assumedName (s : Scope) (name : String) : String :=
  match s.file.onDemand with
  | [path] => path ++ "." ++ name
  | _ => qualify s.file.package name

/-- What a dotted name refers to. A first segment that refers to nothing makes the whole a name
with its package. -/
def named (s : Scope) : List String → Target
  | [] => s.targetOf ""
  | [name] => (s.simple? name).getD (s.targetOf (s.assumedName name))
  | first :: rest =>
    match s.simple? first with
    | none => s.targetOf (".".intercalate (first :: rest))
    | some base =>
      rest.foldl (fun target name => s.targetOf (target.canonical ++ "." ++ name)) base

/-- Reference that a written type makes. -/
def reference (s : Scope) : TypeExpr → Reference
  | .basic word dims => ⟨.standard ((Standard.primitive? word).getD Standard.object), dims⟩
  | .named segments dims => ⟨s.named (segments.map Source.Segment.name), dims⟩

/-- Reference that a formal parameter makes; any number of arguments is an array. -/
def parameter (s : Scope) (p : Parameter) : Reference :=
  let r := s.reference p.type
  if p.isVariadic then { r with dimensions := r.dimensions + 1 } else r

/-- Scope with one more type variable, erased to its first bound. -/
def withVariable (s : Scope) (p : TypeParameter) : Scope :=
  let erasure := match p.bounds with
    | [] => Reference.root.target
    | bound :: _ => (s.reference bound).target
  { s with typeVariables := (p.name, erasure) :: s.typeVariables }

/-- Scope with type variables added one by one, so that a bound may name those before it. -/
def withVariables (s : Scope) (ps : List TypeParameter) : Scope :=
  ps.foldl withVariable s

/-- Reference that a type argument makes; a wildcard without bound stands for any object. -/
def argument (s : Scope) : TypeArgument → Reference
  | .wildcard => Reference.root
  | .type type => s.reference type

/-- Whether a reference is to a generic standard type. -/
def isGeneric (r : Reference) : Bool :=
  match r with
  | ⟨.standard place, 0⟩ => !(Skeletal.standard.get place).typeParameters.isEmpty
  | _ => false

/-- Reference to a supertype. The type arguments of a generic standard type are kept, unless the
referring type is itself generic and so seen raw. -/
def supertype (s : Scope) (raw : Bool) (type : TypeExpr) : SupertypeReference :=
  let base := s.reference type
  if raw || !isGeneric base then { base }
  else { base, arguments := type.arguments.map s.argument }

end Scope

/-- Scope of the innermost of some declarations around a name: the variables of an outer
declaration are known in the inner ones. -/
def scopeOf (isLoaded : String → Bool) (file : FileScope) : List Level → Scope
  | [] => { isLoaded, file, around := [], typeVariables := [] }
  | level :: outer =>
    let s := scopeOf isLoaded file outer
    { s with around := level.canonical :: s.around }.withVariables level.typeParameters

end Skeletal.Load
