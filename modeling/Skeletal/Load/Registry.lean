import Skeletal.Load.Realized
import Skeletal.Source.Grammar.Unit
import Skeletal.Text.CharacterClass
import Skeletal.TypeGraph.Cycle

/-!
# Registries

Loaded types that can be found by name. A registry is built from source texts in one go, and its
types inherit without cycles.
-/

set_option autoImplicit false

namespace Skeletal

open Load

/-- Source text with the file it is from and the source root it was found under. -/
structure SourceUnit where
  code : String
  filename : Option String := none
  origin : Option String := none
  deriving Repr

/-- Source that was skipped, with the reason. -/
structure SkippedSource where
  file : String
  reason : String
  deriving DecidableEq, Repr

/-- Failures of loading as a whole. -/
inductive LoadError where
  | source (error : Source.SourceError)
  | cyclic (error : ValueError)
  | nullInRoot
  deriving DecidableEq, Repr

/-- Failure in words. -/
def LoadError.message : LoadError → String
  | .source e => e.message
  | .cyclic e => e.text
  | .nullInRoot => "embedded null byte"

/-- Loaded types: their universe, their places, their graph and the sources that were skipped. -/
structure Registry where
  world : Universe
  types : List TypeId
  graph : TypeGraph
  skipped : List SkippedSource

/-- Report of a source unit that is no compilation unit. A file without a name is one in memory. -/
def SourceUnit.skippedFor (unit : SourceUnit) (e : Source.SourceError) : SkippedSource :=
  ⟨(unit.filename.filter (· ≠ "")).getD "<memory>", e.message⟩

/-- Types declared by source units, and the units that are skipped. A strict reading stops at the
first unit that would be skipped. -/
def readUnits (strict : Bool) : List SourceUnit →
    Except Source.SourceError (List Declared × List SkippedSource) :=
  List.foldlM
    (fun (known, skipped) unit =>
      match Source.parse unit.code with
      | .ok content => .ok (declareUnit known unit.origin content, skipped)
      | .error e =>
        if strict then .error e else .ok (known, skipped ++ [unit.skippedFor e]))
    ([], [])

namespace Registry

/-- Registry of declared types, without a check for cycles. -/
def ofDeclared (known : List Declared) (skipped : List SkippedSource) : Registry :=
  let linked := linkAll known
  let world := realizeAll linked
  let types := loadedPlaces linked
  { world, types, graph := TypeGraph.ofTypes world types, skipped }

/-- Registry of source units without a check for cycles. -/
def read (strict : Bool) (units : List SourceUnit) : Except LoadError Registry :=
  match readUnits strict units with
  | .error e => .error (.source e)
  | .ok (known, skipped) => .ok (ofDeclared known skipped)

/-- Registry of source units. -/
def load (strict : Bool) (units : List SourceUnit) : Except LoadError Registry := do
  let r ← read strict units
  match r.graph.checkAcyclic with
  | .error e => throw (.cyclic e)
  | .ok () => return r

/-- Descriptors of the loaded types. -/
def descriptors (r : Registry) : List (TypeId × Descriptor) :=
  r.types.map fun t => (t, r.world.get t)

/-- Loaded type with a canonical name. -/
def ofCanonical? (r : Registry) (name : String) : Option TypeId :=
  r.types.find? fun t => r.world.canonical t == name

/-- Loaded type with a binary name; of several the last. -/
def ofBinary? (r : Registry) (name : String) : Option TypeId :=
  r.types.reverse.find? fun t => (r.world.get t).binary == some name

/-- Loaded type with a simple name, if there is exactly one. -/
def ofSimple? (r : Registry) (name : String) : Option TypeId :=
  match r.types.filter fun t => (r.world.get t).name == name with
  | [t] => some t
  | _ => none

/-- Type with a name without brackets: a loaded type by canonical or binary name, a standard
type, or a loaded type by a simple name that is unique. -/
def bare? (r : Registry) (name : String) : Option TypeId :=
  (r.ofCanonical? name).or <| (r.ofBinary? name).or <| (Standard.lookup? name).or <|
    if name.toList.contains '.' then none else r.ofSimple? name

/-- Reversed characters of a name without the pairs of brackets at its end, and their number.
Blanks before a pair are dropped with it. -/
def dropPairs : List Char → Nat × List Char
  | ']' :: '[' :: rest =>
    let (pairs, name) := dropPairs (rest.dropWhile Text.isBlank)
    (pairs + 1, name)
  | name => (0, name)
termination_by cs => cs.length
decreasing_by
  have h := (List.dropWhile_suffix (l := rest) Text.isBlank).length_le
  simp only [List.length_cons]
  omega

/-- Name without brackets and the number of pairs after it. -/
def splitPairs (name : String) : Nat × String :=
  let (pairs, reversed) := dropPairs (Text.dropBlanks name.toList).reverse
  (pairs, String.ofList reversed.reverse)

/-- No loaded or standard type has a name. -/
structure UnknownType where
  name : String
  deriving DecidableEq, Repr

/-- Failure in words. -/
def UnknownType.message (e : UnknownType) : String :=
  "Unknown type: " ++ if e.name = "" then "<empty>" else e.name

/-- Type with a name and the universe that holds it; pairs of brackets after the name make an
array type. -/
def resolve (r : Registry) (name : String) : Except UnknownType (TypeId × Universe) :=
  let (pairs, bare) := splitPairs name
  match r.bare? bare with
  | some t => .ok ((arrayOf Standard.object t pairs).run r.world)
  | none => .error ⟨bare⟩

end Registry

end Skeletal
