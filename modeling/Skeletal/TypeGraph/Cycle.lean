import Skeletal.TypeGraph.Basic

/-!
# Cycles of type graphs

Depth-first search for a cycle. The names are tried in the order of the nodes, and the names that
are done lead to no cycle. The first edge back to the current path closes a cycle, which is
listed from the name it leads back to. A graph with a cycle is refused.
-/

set_option autoImplicit false

namespace Skeletal

/-- A value that is refused, with the text that says why. -/
structure ValueError where
  text : String
  deriving DecidableEq, Repr

namespace TypeGraph

/-- Part of a path, latest name first, that starts with `name`, in walking order. -/
def cycleFrom (name : String) (path : List String) : List String :=
  (path.takeWhile (· ≠ name) ++ [name]).reverse

/-- Search below `name`, which was reached along `path` (latest name first): the done names with
those found here, or a cycle. Paths do not repeat names, so their length bounds the depth. -/
def searchCycle (g : TypeGraph) : Nat → List String → List String → String →
    Except (List String) (List String)
  | 0, _, finished, _ => .ok finished
  | depth + 1, path, finished, name => do
    let path := name :: path
    let finished ← (g.successors name).foldlM
      (fun finished next =>
        if next ∈ path then .error (cycleFrom next path)
        else if next ∈ finished then .ok finished
        else searchCycle g depth path finished next)
      finished
    return name :: finished

/-- The first cycle found, as the names along it. -/
def findCycle? (g : TypeGraph) : Option (List String) :=
  let search := g.names.foldlM
    (fun finished name =>
      if name ∈ finished then .ok finished
      else g.searchCycle g.nodes.length [] finished name)
    []
  match search with
  | .error cycle => some cycle
  | .ok _ => none

/-- Message for a cycle. -/
def cycleMessage (cycle : List String) : String :=
  "Cyclic inheritance: " ++ " -> ".intercalate cycle

/-- Check that no name of the graph leads back to itself. -/
def checkAcyclic (g : TypeGraph) : Except ValueError Unit :=
  match g.findCycle? with
  | some cycle => .error ⟨cycleMessage cycle⟩
  | none => .ok ()

end TypeGraph

end Skeletal
