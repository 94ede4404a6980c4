import Skeletal.FileTree.Basic
import Skeletal.Text.Utf8

/-!
# Discovery of sources

The source files below a root, listed the way a reader would list them: of each directory its own
files in dictionary order, then what is below its subdirectories in dictionary order. Directories
for build output and tools are not entered; the root itself is, whatever its name. Every other
directory below a root counts as readable, however deep it is and however long its path.
-/

set_option autoImplicit false

namespace Skeletal

/-- Directories that never hold sources. -/
def skippedDirectories : List String :=
  ["target", "build", "out", "node_modules", ".git", ".idea"]

/-- Whether a directory is not entered; upper and lower case are the same. -/
def isSkippedDirectory (name : String) : Bool :=
  skippedDirectories.contains name.toLower

/-- Ending of source files. -/
def sourceExtension : String := ".java"

/-- Whether a file is a source by its name. -/
def isSourceName (name : String) : Bool :=
  sourceExtension.toList.isSuffixOf name.toList

/-- Order of relative paths: a directory's own files first. -/
def walkOrder : List String → List String → Bool
  | [], _ => true
  | _ :: _, [] => false
  | [a], [b] => a ≤ b
  | [_], _ :: _ :: _ => true
  | _ :: _ :: _, [_] => false
  | a :: c :: as, b :: d :: bs =>
    if a = b then walkOrder (c :: as) (d :: bs) else a ≤ b

/-- Directory that sources are looked for in, with the text that names it. The empty text names
none. -/
structure SourceRoot where
  text : String
  path : FilePath
  deriving DecidableEq, Repr

namespace SourceRoot

/-- Root named by a text. -/
def ofText (text : String) : SourceRoot := ⟨text, FilePath.ofText text⟩

/-- Root at a path. -/
def ofPath (path : FilePath) : SourceRoot := ⟨path.text, path⟩

/-- Text of a path below a root. -/
def textBelow (root : SourceRoot) (path : List String) : String :=
  let joined := "/".intercalate path
  if root.text.toList.getLast? = some '/' then root.text ++ joined
  else root.text ++ "/" ++ joined

/-- Full path of a root, without double points. -/
def origin (workingDirectory : String) (root : SourceRoot) : String :=
  (root.path.normalized workingDirectory).text

end SourceRoot

namespace FileTree

/-- Relative paths of the files below a location. -/
def filesBelow (tree : FileTree) (location : Location) : List (List String) :=
  tree.entries.filterMap fun e =>
    match e.2 with
    | .file _ =>
      if location.isPrefixOf e.1 && location.length < e.1.length then
        some (e.1.drop location.length)
      else none
    | .directory => none

/-- Whether a relative path is a source that discovery finds. -/
def isDiscovered (path : List String) : Bool :=
  isSourceName (path.getLastD "") && path.dropLast.all fun name => !isSkippedDirectory name

/-- Relative paths of the sources below a location, in order. -/
def sourcesBelow (tree : FileTree) (location : Location) : List (List String) :=
  ((tree.filesBelow location).filter isDiscovered).mergeSort walkOrder

/-- Location of a root; none where no directory stands there. -/
def rootLocation? (tree : FileTree) (root : SourceRoot) : Option Location :=
  if root.text = "" then none
  else
    match tree.locate root.path with
    | .ok location => if tree.isDirectory location then some location else none
    | .error _ => none

/-- Sources below a root: their path texts and locations. -/
def discover (tree : FileTree) (root : SourceRoot) : List (String × Location) :=
  match tree.rootLocation? root with
  | none => []
  | some location =>
    (tree.sourcesBelow location).map fun path => (root.textBelow path, location ++ path)

end FileTree

/-- Text of a content, with unified line ends. An archive reads as the names in it. -/
def Content.read : Content → Except Text.Utf8Error String
  | .text t => .ok (String.ofList (Text.unifyLineEnds t.toList))
  | .bytes bs => (Text.decodeUtf8 0 bs).map fun cs => String.ofList (Text.unifyLineEnds cs)
  | .archive entries => .ok (String.join (entries.map (·.1)))

end Skeletal
