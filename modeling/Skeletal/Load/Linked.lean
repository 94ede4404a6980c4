import Skeletal.Load.Reference

/-!
# Linked types

The second pass. Supertypes and members are given by references, and what a source leaves
implicit is filled in: the root class and the superclass of enums, the constructor of a class
that declares none, and the modifiers of interface methods.
-/

set_option autoImplicit false

namespace Skeletal.Load

open Source (Callable)

/-- Member whose types are given by references. -/
structure LinkedMember where
  name : String
  kind : MemberKind
  modifiers : List String
  parameters : List Reference := []
  exceptions : List Reference := []
  result : Option Reference := none
  deriving DecidableEq, Repr

/-- Declared type with its supertypes and members. -/
structure Linked where
  declared : Declared
  superclass : Option SupertypeReference
  interfaces : List SupertypeReference
  constructors : List LinkedMember
  methods : List LinkedMember

/-- Modifiers of a method: an interface makes its methods public and those without a body
abstract, unless their own words say otherwise. -/
def methodModifiers (owner : TypeKind) (c : Callable) : List String :=
  let words := c.modifiers
  arrangeModifiers <|
    if isInterfaceKind owner then
      words ++ (if "private" ∈ words then [] else ["public"]) ++
        (if !c.hasBody && !words.contains "static" && !words.contains "default" &&
            !words.contains "private" then ["abstract"] else [])
    else words

/-- Linked method of a type. -/
def linkMethod (owner : TypeKind) (s : Scope) (c : Callable) : LinkedMember :=
  let s := s.withVariables c.typeParameters
  { name := c.name
    kind := .method
    modifiers := methodModifiers owner c
    parameters := c.parameters.map s.parameter
    exceptions := c.exceptions.map fun name => ⟨s.named name, 0⟩
    result := some (c.result.elim ⟨.standard Standard.void, 0⟩ s.reference) }

/-- Linked constructor of a class. -/
def linkConstructor (s : Scope) (c : Callable) : LinkedMember :=
  let s := s.withVariables c.typeParameters
  { name := c.name
    kind := .constructor
    modifiers := arrangeModifiers c.modifiers
    parameters := c.parameters.map s.parameter
    exceptions := c.exceptions.map fun name => ⟨s.named name, 0⟩ }

/-- Constructor of a class that declares none. It has the access of the class. -/
def defaultConstructor (d : Declared) : LinkedMember :=
  let visibility := visibilityOf d.modifiers
  { name := d.header.name
    kind := .constructor
    modifiers := if visibility = .package then [] else [visibility.word] }

/-- Superclass of a declared type. -/
def linkSuperclass (d : Declared) (s : Scope) (raw : Bool) : Option SupertypeReference :=
  match d.kind with
  | .classType =>
    match d.header.extended with
    | [] => some { base := Reference.root }
    | type :: _ => some (s.supertype raw type)
  | .enumType => some { base := ⟨.standard Standard.enum, 0⟩ }
  | _ => none

/-- Direct interfaces of a declared type. -/
def linkInterfaces (d : Declared) (s : Scope) (raw : Bool) : List SupertypeReference :=
  match d.kind with
  | .interfaceType => d.header.extended.map (s.supertype raw)
  | .annotationType => [{ base := ⟨s.targetOf "java.lang.annotation.Annotation", 0⟩ }]
  | _ => d.header.implemented.map (s.supertype raw)

/-- Constructors of a declared type; only classes have some. -/
def linkConstructors (d : Declared) (s : Scope) : List LinkedMember :=
  if d.kind = .classType then
    match d.header.constructors with
    | [] => [defaultConstructor d]
    | constructors => constructors.map (linkConstructor s)
  else []

/-- Linked form of a declared type. -/
def link (isLoaded : String → Bool) (d : Declared) : Linked :=
  let s := scopeOf isLoaded d.file d.levels
  let raw := !d.header.typeParameters.isEmpty
  { declared := d
    superclass := linkSuperclass d s raw
    interfaces := linkInterfaces d s raw
    constructors := linkConstructors d s
    methods := d.header.methods.map (linkMethod d.kind s) }

/-- Linked forms of all loaded types. -/
def linkAll (known : List Declared) : List Linked :=
  known.map (link (isTaken known))

/-- Targets that a member refers to. -/
def LinkedMember.targets (m : LinkedMember) : List Target :=
  (m.parameters ++ m.exceptions ++ m.result.toList).map Reference.target

/-- Targets that a supertype reference refers to. -/
def SupertypeReference.targets (r : SupertypeReference) : List Target :=
  (r.base :: r.arguments).map Reference.target

/-- Targets that a linked type refers to. -/
def Linked.targets (l : Linked) : List Target :=
  (l.superclass.toList ++ l.interfaces).flatMap SupertypeReference.targets ++
    (l.constructors ++ l.methods).flatMap LinkedMember.targets

end Skeletal.Load
