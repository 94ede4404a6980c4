import Skeletal.Proofs.Load.Growing

/-!
# Summaries

What a descriptor says when the types that it refers to are named, so that descriptors of different
universes can be compared. A supertype is given with the signatures of its methods, which tell the
views of a generic type apart. What a linked type amounts to can be said without a universe, from
the references that it makes and the signatures of the loaded types.
-/

set_option autoImplicit false

namespace Skeletal

/-- A member with the types that it mentions by their canonical names. -/
structure MemberSummary where
  name : String
  kind : MemberKind
  modifiers : List String
  parameters : List String
  exceptions : List String
  result : Option String
  declaring : Option String
  deriving DecidableEq, Repr

/-- A supertype by its canonical name, and the signatures of its methods. -/
structure SupertypeSummary where
  canonical : String
  signatures : List Signature
  deriving DecidableEq, Repr

/-- A descriptor with the types that it refers to by their canonical names. -/
structure Summary where
  name : String
  canonical : String
  kind : TypeKind
  package : String
  modifiers : List String
  binary : Option String
  superclass : Option SupertypeSummary
  interfaces : List SupertypeSummary
  constructors : List MemberSummary
  methods : List MemberSummary
  component : Option String
  enclosing : Option String
  origin : Option String
  typeParameters : List String
  membersUnknown : Bool
  deriving DecidableEq, Repr

namespace Universe

/-- Summary of a member. -/
def memberSummary (u : Universe) (m : Member) : MemberSummary :=
  { name := m.name
    kind := m.kind
    modifiers := m.modifiers
    parameters := m.parameters.map u.canonical
    exceptions := m.exceptions.map u.canonical
    result := m.result.map u.canonical
    declaring := m.declaring.map u.canonical }

/-- Summary of the type at a place as a supertype. -/
def supertypeSummary (u : Universe) (t : TypeId) : SupertypeSummary :=
  ⟨u.canonical t, (u.get t).methods.map u.signature⟩

/-- Summary of a descriptor that refers to places of the universe. -/
def describe (u : Universe) (d : Descriptor) : Summary :=
  { name := d.name
    canonical := d.canonical
    kind := d.kind
    package := d.package
    modifiers := d.modifiers
    binary := d.binary
    superclass := d.superclass.map u.supertypeSummary
    interfaces := d.interfaces.map u.supertypeSummary
    constructors := d.constructors.map u.memberSummary
    methods := d.methods.map u.memberSummary
    component := d.component.map u.canonical
    enclosing := d.enclosing.map u.canonical
    origin := d.origin
    typeParameters := d.typeParameters
    membersUnknown := d.membersUnknown }

/-- Summary of the type at a place. -/
def summary (u : Universe) (t : TypeId) : Summary := u.describe (u.get t)

end Universe

namespace Load

/-- Canonical name of the type that a reference is to. -/
def Reference.canonical (r : Reference) : String := r.target.canonical ++ brackets r.dimensions

/-- Signature of a linked member. -/
def LinkedMember.signature (m : LinkedMember) : Signature :=
  ⟨m.name, m.parameters.map Reference.canonical⟩

/-- Summary of a member of the type with a canonical name. -/
def LinkedMember.summary (owner : String) (m : LinkedMember) : MemberSummary :=
  { name := m.name
    kind := m.kind
    modifiers := m.modifiers
    parameters := m.parameters.map Reference.canonical
    exceptions := m.exceptions.map Reference.canonical
    result := m.result.map Reference.canonical
    declaring := some owner }

/-- Canonical name of a standard type under bindings of type variables; an unbound variable stands
for the root class. -/
def boundName (bindings : List (String × String)) (t : TypeId) : String :=
  if (standard.get t).kind = .variable then
    (bindings.lookup (standard.get t).name).getD (standard.canonical Standard.object)
  else standard.canonical t

/-- Signatures of the methods of a standard type seen with type arguments, which count only where
the type takes that many. -/
def viewSignatures (place : TypeId) (arguments : List String) : List Signature :=
  let d := standard.get place
  let bindings := (d.typeParameters.zip arguments).reverse
  if !d.typeParameters.isEmpty && arguments.length == d.typeParameters.length then
    d.methods.map fun m => ⟨m.name, m.parameters.map (boundName bindings)⟩
  else d.methods.map standard.signature

/-- Signatures of the methods of a supertype, given those of the loaded types. Arrays and types
outside have none that are known. -/
def SupertypeReference.signatures (loaded : String → List Signature) (r : SupertypeReference) :
    List Signature :=
  match r.base with
  | ⟨.standard place, 0⟩ => viewSignatures place (r.arguments.map Reference.canonical)
  | ⟨.declared canonical, 0⟩ => loaded canonical
  | _ => []

/-- Summary of a supertype, given the signatures of the loaded types. -/
def SupertypeReference.summary (loaded : String → List Signature) (r : SupertypeReference) :
    SupertypeSummary :=
  ⟨r.base.canonical, r.signatures loaded⟩

/-- Summary of a linked type, given the signatures of the loaded types. -/
def Linked.summary (loaded : String → List Signature) (l : Linked) : Summary :=
  { name := l.declared.header.name
    canonical := l.declared.canonical
    kind := l.declared.kind
    package := l.declared.file.package
    modifiers := l.declared.modifiers
    binary := some l.declared.binary
    superclass := l.superclass.map (SupertypeReference.summary loaded)
    interfaces := l.interfaces.map (SupertypeReference.summary loaded)
    constructors := l.constructors.map (LinkedMember.summary l.declared.canonical)
    methods := l.methods.map (LinkedMember.summary l.declared.canonical)
    component := none
    enclosing := l.declared.enclosing
    origin := l.declared.origin
    typeParameters := []
    membersUnknown := false }

/-- The linked type with a canonical name. -/
def findLinked? (linked : List Linked) (canonical : String) : Option Linked :=
  linked.find? fun l => l.declared.canonical == canonical

/-- Signatures of the methods of the linked type with a canonical name. -/
def signaturesOf (linked : List Linked) (canonical : String) : List Signature :=
  (findLinked? linked canonical).elim [] fun l => l.methods.map LinkedMember.signature

end Load

end Skeletal
