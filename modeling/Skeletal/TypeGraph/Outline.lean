import Skeletal.TypeGraph.Basic

/-!
# Outlines of type graphs

What is told of a graph: its nodes, each with the type that describes it in short, and its edges.
-/

set_option autoImplicit false

namespace Skeletal

/-- What is told of a node: its name, and of its type the kind, the names and modifiers, how many
constructors and which methods it has, and where it was loaded from. -/
structure NodeOutline where
  id : String
  kind : TypeKind
  name : String
  package : String
  modifiers : List String
  constructors : Nat
  methods : List String
  origin : Option String
  membersUnknown : Bool
  deriving DecidableEq, Repr

/-- What is told of a graph. -/
structure GraphOutline where
  nodes : List NodeOutline
  edges : List TypeEdge
  deriving DecidableEq, Repr

/-- Outline of the node that a type describes. -/
def Descriptor.outline (d : Descriptor) (id : String) : NodeOutline :=
  { id
    kind := d.kind
    name := d.name
    package := d.package
    modifiers := d.modifiers
    constructors := d.constructors.length
    methods := d.methods.map Member.name
    origin := d.origin
    membersUnknown := d.membersUnknown }

/-- Outline of a graph over the types of a universe. -/
def TypeGraph.outline (u : Universe) (g : TypeGraph) : GraphOutline :=
  { nodes := g.nodes.map fun node => (u.get node.type).outline node.name
    edges := g.orderedEdges }

end Skeletal
