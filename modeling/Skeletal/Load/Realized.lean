import Skeletal.Load.Linked
import Skeletal.Text.CharacterClass
import Skeletal.Universe.Derived

/-!
# Realized types

The universe of linked types. The standard types come first, then the loaded types in the order
of their declaration and one placeholder for each outside name. Arrays and parameterized views
follow as the references to them are met.
-/

set_option autoImplicit false

namespace Skeletal.Load

/-- Segments of a dotted text. -/
def splitDots (text : String) : List String :=
  (text.toList.splitOn '.').map String.ofList

/-- Whether a segment of a name is spelled like a type. -/
def startsUppercase (segment : String) : Bool :=
  segment.toList.head?.any Text.isUppercase

/-- Placeholder for a type of which only the canonical name is known. Its package ends before the
first segment that is spelled like a type. -/
def placeholder (canonical : String) : Descriptor :=
  let segments := splitDots canonical
  let packageSegments := segments.dropLast.takeWhile fun s => !startsUppercase s
  let package := ".".intercalate packageSegments
  let nested := "$".intercalate (segments.drop packageSegments.length)
  { name := segments.getLastD ""
    canonical
    package
    modifiers := ["public"]
    binary := some (qualify package nested)
    membersUnknown := true }

/-- Places of loaded types and of placeholders. -/
structure Layout where
  loaded : List String
  outside : List String

namespace Layout

/-- Layout of linked types. -/
def ofLinked (linked : List Linked) : Layout :=
  { loaded := linked.map fun l => l.declared.canonical
    outside := ((linked.flatMap Linked.targets).filterMap fun
      | .outside canonical => some canonical
      | _ => none).eraseDups }

/-- Place of the first loaded type. -/
def firstLoaded : TypeId := standard.size

/-- Place of the loaded type with a canonical name. -/
def loadedPlace (layout : Layout) (canonical : String) : TypeId :=
  firstLoaded + layout.loaded.idxOf canonical

/-- Place of a target. -/
def place (layout : Layout) : Target → TypeId
  | .standard place => place
  | .declared canonical => layout.loadedPlace canonical
  | .outside canonical =>
    firstLoaded + layout.loaded.length + layout.outside.idxOf canonical

end Layout

/-- Loaded type without supertypes and members. -/
def shell (layout : Layout) (d : Declared) : Descriptor :=
  { name := d.header.name
    canonical := d.canonical
    kind := d.kind
    package := d.file.package
    modifiers := d.modifiers
    binary := some d.binary
    enclosing := d.enclosing.map layout.loadedPlace
    origin := d.origin }

/-- Place of a reference, with an array added for each of its dimensions. -/
def realizeReference (layout : Layout) (r : Reference) : Growing TypeId :=
  arrayOf Standard.object (layout.place r.target) r.dimensions

/-- Place of a supertype, with a view added for its type arguments. -/
def realizeSupertype (layout : Layout) (r : SupertypeReference) : Growing TypeId := do
  let base ← realizeReference layout r.base
  let arguments ← r.arguments.mapM (realizeReference layout)
  parameterize Standard.object base arguments

/-- Member of the type at a place. -/
def realizeMember (layout : Layout) (owner : TypeId) (m : LinkedMember) : Growing Member := do
  let parameters ← m.parameters.mapM (realizeReference layout)
  let exceptions ← m.exceptions.mapM (realizeReference layout)
  let result ← m.result.mapM (realizeReference layout)
  return { name := m.name, kind := m.kind, modifiers := m.modifiers, parameters, exceptions,
           result, declaring := some owner }

/-- Descriptor of a linked type. -/
def realize (layout : Layout) (l : Linked) : Growing Descriptor := do
  let owner := layout.loadedPlace l.declared.canonical
  let superclass ← l.superclass.mapM (realizeSupertype layout)
  let interfaces ← l.interfaces.mapM (realizeSupertype layout)
  let methods ← l.methods.mapM (realizeMember layout owner)
  let constructors ← l.constructors.mapM (realizeMember layout owner)
  return { shell layout l.declared with superclass, interfaces, constructors, methods }

/-- Universe before any supertype or member is known. -/
def shells (layout : Layout) (linked : List Linked) : Universe :=
  ⟨(Standard.entries ++ linked.map (fun l => shell layout l.declared) ++
    layout.outside.map placeholder).toArray⟩

/-- Universe with descriptors set one after another from a place on. -/
def setFrom (u : Universe) : TypeId → List Descriptor → Universe
  | _, [] => u
  | place, d :: rest => setFrom (u.set place d) (place + 1) rest

/-- Universe of linked types. -/
def realizeAll (linked : List Linked) : Universe :=
  let layout := Layout.ofLinked linked
  let (descriptors, u) := (linked.mapM (realize layout)).run (shells layout linked)
  setFrom u Layout.firstLoaded descriptors

/-- Places of the loaded types, in the order of their declaration. -/
def loadedPlaces (linked : List Linked) : List TypeId :=
  (List.range linked.length).map fun index => Layout.firstLoaded + index

end Skeletal.Load
