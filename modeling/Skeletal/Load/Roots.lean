import Skeletal.FileTree.Discovery
import Skeletal.Load.Registry

/-!
# Source roots

Registries of all the sources below some roots. A file that is no text or no compilation unit is
skipped and reported, unreadable files before unparsable ones. The origin of a type is the full
path of the root that it was found under.
-/

set_option autoImplicit false

namespace Skeletal

/-- Content of a discovered file, as a source unit or as a file to be skipped. -/
def readSource (tree : FileTree) (origin : String) (found : String × Location) :
    SourceUnit ⊕ SkippedSource :=
  match tree.lookup? found.2 with
  | some (.file content) =>
    match content.read with
    | .ok code => .inl { code, filename := some found.1, origin := some origin }
    | .error e => .inr ⟨found.1, e.message⟩
  | _ => .inr ⟨found.1, FileError.message ⟨.notFound, found.1⟩⟩

/-- Sources below a root. -/
def readRoot (tree : FileTree) (workingDirectory : String) (root : SourceRoot) :
    List (SourceUnit ⊕ SkippedSource) :=
  (tree.discover root).map (readSource tree (root.origin workingDirectory))

/-- The sources that could be read. -/
def readable (found : List (SourceUnit ⊕ SkippedSource)) : List SourceUnit :=
  found.filterMap fun | .inl unit => some unit | .inr _ => none

/-- The files that could not be read. -/
def unreadable (found : List (SourceUnit ⊕ SkippedSource)) : List SkippedSource :=
  found.filterMap fun | .inl _ => none | .inr skipped => some skipped

/-- Registry of the sources below roots. -/
def Registry.ofRoots (tree : FileTree) (workingDirectory : String) (roots : List SourceRoot) :
    Except LoadError Registry := do
  if roots.any fun root => root.text.toList.contains '\x00' then throw .nullInRoot
  let found := roots.flatMap (readRoot tree workingDirectory)
  let r ← Registry.load false (readable found)
  return { r with skipped := unreadable found ++ r.skipped }

end Skeletal
