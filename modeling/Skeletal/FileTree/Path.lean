/-!
# File paths

Paths as dotted-out segments below an anchor. Empty segments and single points vanish when a path
is read, double points stay. A path that starts with exactly two slashes keeps both.
-/

set_option autoImplicit false

namespace Skeletal

/-- What the segments of a path start from: the working directory without naming it, the top of
all files, or a directory named by its full path. -/
inductive Anchor where
  | relative
  | top (slashes : String)
  | within (directory : String)
  deriving DecidableEq, Repr

/-- A path: its anchor and its segments. -/
structure FilePath where
  anchor : Anchor
  segments : List String
  deriving DecidableEq, Repr

/-- Parts of a text between slashes. -/
def splitSlashes (text : String) : List String :=
  (text.toList.splitOn '/').map String.ofList

namespace FilePath

/-- Anchor of a path text, by its leading slashes. -/
def anchorOf (text : String) : Anchor :=
  match (text.toList.takeWhile (· = '/')).length with
  | 0 => .relative
  | 2 => .top "//"
  | _ => .top "/"

/-- Segments that count. -/
def segmentsOf (text : String) : List String :=
  (splitSlashes text).filter fun s => s ≠ "" ∧ s ≠ "."

/-- Path of a text. -/
def ofText (text : String) : FilePath := ⟨anchorOf text, segmentsOf text⟩

/-- Path below a path; a text that names its own anchor replaces it. -/
def below (p : FilePath) (text : String) : FilePath :=
  match anchorOf text with
  | .relative => { p with segments := p.segments ++ segmentsOf text }
  | anchor => ⟨anchor, segmentsOf text⟩

/-- Path below a path by several texts in turn. -/
def belowAll (p : FilePath) (texts : List String) : FilePath := texts.foldl below p

/-- Text of a path. -/
def text (p : FilePath) : String :=
  let joined := "/".intercalate p.segments
  match p.anchor with
  | .relative => if p.segments.isEmpty then "." else joined
  | .top slashes => slashes ++ joined
  | .within directory => if p.segments.isEmpty then directory else directory ++ "/" ++ joined

/-- Path without its last segment. From a directory named by its full path a double point leads
up. -/
def parent (p : FilePath) : FilePath :=
  match p.anchor, p.segments with
  | .within _, [] => { p with segments := [".."] }
  | _, segments => { p with segments := segments.dropLast }

/-- Last segment; empty where there is none. -/
def name (p : FilePath) : String := p.segments.getLastD ""

/-- Path from the top of all files, given the working directory. -/
def absolute (workingDirectory : String) (p : FilePath) : FilePath :=
  match p.anchor with
  | .relative => { p with anchor := .within workingDirectory }
  | _ => p

/-- Segments with each double point taken together with the segment before it. -/
def collapse (segments : List String) : List String :=
  (segments.foldl (fun before s => if s = ".." then before.drop 1 else s :: before) []).reverse

/-- Reversed segments with one more behind them. A double point takes the name before it away. -/
def leadOn (before : List String) (segment : String) : List String :=
  match before with
  | name :: up => if segment = ".." ∧ name ≠ ".." then up else segment :: before
  | [] => [segment]

/-- Segments with each double point taken together with the name before it, if there is one. -/
def contract (segments : List String) : List String := (segments.foldl leadOn []).reverse

/-- Full path without double points. -/
def normalized (workingDirectory : String) (p : FilePath) : FilePath :=
  let p := p.absolute workingDirectory
  { p with segments := collapse p.segments }

end FilePath

end Skeletal
