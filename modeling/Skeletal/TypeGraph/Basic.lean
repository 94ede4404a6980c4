import Skeletal.Reach
import Skeletal.Universe.Basic

/-!
# Type graphs

A graph of canonical names with an edge from each linked type to its direct supertypes. A type
that is linked takes over the node of its name; a supertype only fills a node that is missing.
Equal edges are all kept.
-/

set_option autoImplicit false

namespace Skeletal

/-- Kinds of edges: from a type to its superclass and to its interfaces. -/
inductive EdgeKind where
  | inherits
  | implements
  deriving DecidableEq, Repr

/-- Word for an edge kind. -/
def EdgeKind.word : EdgeKind → String
  | .inherits => "INHERITS"
  | .implements => "IMPLEMENTS"

/-- A named node and the type that describes it. -/
structure TypeNode where
  name : String
  type : TypeId
  deriving DecidableEq, Repr

/-- An edge between two names. -/
structure TypeEdge where
  source : String
  target : String
  kind : EdgeKind
  deriving DecidableEq, Repr

/-- Nodes and edges in the order of their insertion. -/
structure TypeGraph where
  nodes : List TypeNode := []
  edges : List TypeEdge := []
  deriving DecidableEq, Repr

namespace TypeGraph

/-- The graph without nodes. -/
def empty : TypeGraph := {}

/-- Names of the nodes. -/
def names (g : TypeGraph) : List String := g.nodes.map TypeNode.name

/-- Node list with a node set to a type: in place where the name is known, else at the end. -/
def setNode (name : String) (type : TypeId) : List TypeNode → List TypeNode
  | [] => [⟨name, type⟩]
  | node :: rest =>
    if node.name = name then ⟨name, type⟩ :: rest else node :: setNode name type rest

/-- Graph in which a type describes the node of its name. -/
def describe (u : Universe) (t : TypeId) (g : TypeGraph) : TypeGraph :=
  { g with nodes := setNode (u.canonical t) t g.nodes }

/-- Graph with a node for the name of a type, which the type describes if it is new. -/
def mention (u : Universe) (t : TypeId) (g : TypeGraph) : TypeGraph :=
  if u.canonical t ∈ g.names then g else g.describe u t

/-- Graph with an edge from a type to a direct supertype. -/
def connect (u : Universe) (t : TypeId) (kind : EdgeKind) (g : TypeGraph) (above : TypeId) :
    TypeGraph :=
  let g := g.mention u above
  { g with edges := g.edges ++ [⟨u.canonical t, u.canonical above, kind⟩] }

/-- Graph with a type and its edges: to the superclass, then to the interfaces in order. -/
def link (u : Universe) (g : TypeGraph) (t : TypeId) : TypeGraph :=
  let d := u.get t
  let g := g.describe u t
  let g := d.superclass.toList.foldl (connect u t .inherits) g
  d.interfaces.foldl (connect u t .implements) g

/-- Graph of types linked one after another. -/
def ofTypes (u : Universe) (types : List TypeId) : TypeGraph :=
  types.foldl (link u) empty

/-- Edges that leave a name. -/
def edgesFrom (g : TypeGraph) (name : String) : List TypeEdge :=
  g.edges.filter fun e => e.source = name

/-- Names that edges from a name lead to, each once, in the order of the first edge to it. -/
def successors (g : TypeGraph) (name : String) : List String :=
  ((g.edgesFrom name).map TypeEdge.target).eraseDups

/-- Edges in the order of the nodes that they leave and, of one node, in the order of the
targets. -/
def orderedEdges (g : TypeGraph) : List TypeEdge :=
  g.names.flatMap fun name =>
    (g.successors name).flatMap fun target =>
      (g.edgesFrom name).filter fun e => e.target = target

/-- Names reached from a name by one or more edges, in dictionary order, the name itself
apart; none where the name has no node. -/
def supertypes? (g : TypeGraph) (name : String) : Option (List String) :=
  if name ∈ g.names then
    some ((breadthFirst g.names g.successors [name] (g.successors name)).mergeSort (· ≤ ·))
  else none

/-- Message for a name that has no node. -/
def unknownNodeMessage (name : String) : String :=
  s!"The node {name} is not in the digraph."

end TypeGraph

end Skeletal
