import Skeletal.FileTree.Path
import Skeletal.Text.Basic

/-!
# File trees

Directories and files below a working directory, and what can be done to them. A location is a
list of names from the working directory down; names of two points lead from it up, and a name of
one slash stands for the top of all files. Those two kinds of places are always directories.

A tree has no links, permissions, dates or limits of space: every file can be read and written,
and an operation fails for what stands in its way, for a name or path that is too long, and for a
null character alone.
-/

set_option autoImplicit false

namespace Skeletal

/-- Place of a file or directory. -/
abbrev Location := List String

/-- What a file holds: a text, bytes, or an archive of named contents. -/
inductive Content where
  | text (text : String)
  | bytes (bytes : List Nat)
  | archive (entries : List (String × Content))
  deriving Repr

namespace Content

mutual

/-- Equality of contents, entry by entry in archives. -/
def decEq : (a b : Content) → Decidable (a = b)
  | .text s, .text t => decidable_of_iff (s = t) ⟨congrArg text, text.inj⟩
  | .bytes s, .bytes t => decidable_of_iff (s = t) ⟨congrArg bytes, bytes.inj⟩
  | .archive s, .archive t =>
    match decEqEntries s t with
    | isTrue h => isTrue (congrArg archive h)
    | isFalse h => isFalse fun heq => h (archive.inj heq)
  | .text _, .bytes _ | .text _, .archive _ | .bytes _, .text _ | .bytes _, .archive _
  | .archive _, .text _ | .archive _, .bytes _ => isFalse nofun

/-- Equality of the entries of archives. -/
def decEqEntries : (xs ys : List (String × Content)) → Decidable (xs = ys)
  | [], [] => isTrue rfl
  | [], _ :: _ | _ :: _, [] => isFalse nofun
  | (m, a) :: xs, (n, b) :: ys =>
    match decEq a b, decEqEntries xs ys with
    | isTrue hab, isTrue hrest => decidable_of_iff (m = n) (by simp [hab, hrest])
    | isFalse hab, _ => isFalse (by simp [hab])
    | _, isFalse hrest => isFalse (by simp [hrest])

end

instance : DecidableEq Content := decEq

end Content

/-- What stands at a location. -/
inductive Entry where
  | directory
  | file (content : Content)
  deriving DecidableEq, Repr

/-- Locations with what stands there. -/
structure FileTree where
  entries : List (Location × Entry)
  deriving DecidableEq, Repr

/-- Reasons why an operation on files fails. -/
inductive FileFault where
  | notFound
  | alreadyExists
  | notDirectory
  | isDirectory
  | nameTooLong
  | embeddedNull
  deriving DecidableEq, Repr

/-- Failure of an operation on the file of a path. -/
structure FileError where
  fault : FileFault
  path : String
  deriving DecidableEq, Repr

/-- Number and words of a fault. -/
def FileFault.numbered? : FileFault → Option (Nat × String)
  | .notFound => some (2, "No such file or directory")
  | .alreadyExists => some (17, "File exists")
  | .notDirectory => some (20, "Not a directory")
  | .isDirectory => some (21, "Is a directory")
  | .nameTooLong => some (36, "File name too long")
  | .embeddedNull => none

/-- Failure in words. A path with a null character is refused before any file is looked at. -/
def FileError.message (e : FileError) : String :=
  match e.fault.numbered? with
  | some (number, words) => s!"[Errno {number}] {words}: {Text.quoted e.path}"
  | none => "embedded null byte"

/-- Longest name of a file, in bytes. -/
def maxNameBytes : Nat := 255

/-- Longest path, in bytes. -/
def maxPathBytes : Nat := 4095

namespace FileTree

/-- Whether a location is a directory in every tree. -/
def isGiven (location : Location) : Bool :=
  location == ["/"] || location.all (· == "..")

/-- What stands at a location. -/
def lookup? (tree : FileTree) (location : Location) : Option Entry :=
  if isGiven location then some .directory else tree.entries.lookup location

/-- Whether a directory stands at a location. -/
def isDirectory (tree : FileTree) (location : Location) : Bool :=
  tree.lookup? location == some .directory

/-- Tree without what stands at a location. -/
def erase (tree : FileTree) (location : Location) : FileTree :=
  ⟨tree.entries.filter fun e => e.1 ≠ location⟩

/-- Tree with something at a location. -/
def insert (tree : FileTree) (location : Location) (entry : Entry) : FileTree :=
  ⟨(tree.erase location).entries ++ [(location, entry)]⟩

/-- Tree without a location and all locations below it. -/
def eraseAll (tree : FileTree) (location : Location) : FileTree :=
  ⟨tree.entries.filter fun e => !location.isPrefixOf e.1⟩

/-- Location above a location. -/
def above (location : Location) : Location :=
  if location == ["/"] then location
  else if location.all (· == "..") then location ++ [".."]
  else location.dropLast

/-- Location that a segment leads to. -/
def step (location : Location) (segment : String) : Location :=
  if segment = ".." then above location else location ++ [segment]

/-- Location that segments lead to. All but the last have to lead to directories. -/
def follow (tree : FileTree) (location : Location) : List String → Except FileFault Location
  | [] => .ok location
  | segment :: rest =>
    match tree.lookup? location with
    | none => .error .notFound
    | some (.file _) => .error .notDirectory
    | some .directory =>
      if segment.utf8ByteSize > maxNameBytes then .error .nameTooLong
      else follow tree (step location segment) rest

/-- Location that an anchor stands for. -/
def anchorLocation : Anchor → Location
  | .relative => []
  | .top _ => ["/"]
  | .within _ => []

/-- Location of a path. -/
def locate (tree : FileTree) (p : FilePath) : Except FileFault Location :=
  if p.text.toList.contains '\x00' then .error .embeddedNull
  else if p.text.utf8ByteSize > maxPathBytes then .error .nameTooLong
  else tree.follow (anchorLocation p.anchor) p.segments

/-- What stands at a path. -/
def entryAt? (tree : FileTree) (p : FilePath) : Option Entry :=
  match tree.locate p with
  | .ok location => tree.lookup? location
  | .error _ => none

/-- Whether a file stands at a path. -/
def hasFile (tree : FileTree) (p : FilePath) : Bool :=
  match tree.entryAt? p with
  | some (.file _) => true
  | _ => false

end FileTree

/-- Operations on a file tree. What was done before a failure stays done. -/
abbrev FileAction := ExceptT FileError (StateM FileTree)

namespace FileAction

/-- Failure at a path. -/
def fail {α : Type} (p : FilePath) (fault : FileFault) : FileAction α :=
  throw ⟨fault, p.text⟩

/-- Location of a path. -/
def locate (p : FilePath) : FileAction Location := do
  match (← getThe FileTree).locate p with
  | .ok location => return location
  | .error fault => fail p fault

/-- Whether a directory stands at a path; a path that leads nowhere has none. -/
def isDirectory (p : FilePath) : FileAction Bool := do
  match (← getThe FileTree).locate p with
  | .ok location => return (← getThe FileTree).isDirectory location
  | .error .nameTooLong => fail p .nameTooLong
  | .error _ => return false

/-- New directory. -/
def makeDirectory (p : FilePath) : FileAction Unit := do
  let location ← locate p
  match (← getThe FileTree).lookup? location with
  | some _ => fail p .alreadyExists
  | none => modifyThe FileTree fun tree => tree.insert location .directory

/-- New directory unless there is one. -/
def ensureDirectory (p : FilePath) : FileAction Unit :=
  tryCatch (makeDirectory p) fun e =>
    if e.fault = .notFound ∨ e.fault = .embeddedNull then throw e
    else do unless ← isDirectory p do throw e

/-- New directory with all directories above it, by its reversed segments. -/
def ensureDirectoriesTo (anchor : Anchor) : List String → FileAction Unit
  | [] => ensureDirectory ⟨anchor, []⟩
  | segment :: up =>
    let p : FilePath := ⟨anchor, (segment :: up).reverse⟩
    tryCatch (ensureDirectory p) fun e =>
      if e.fault = .notFound then do
        ensureDirectoriesTo anchor up
        ensureDirectory p
      else throw e

/-- New directory with all directories above it, as far as there are none. -/
def ensureDirectories (p : FilePath) : FileAction Unit :=
  ensureDirectoriesTo p.anchor p.segments.reverse

/-- File with a content in the place of what it held. -/
def write (p : FilePath) (content : Content) : FileAction Unit := do
  let location ← locate p
  if (← getThe FileTree).isDirectory location then fail p .isDirectory
  else modifyThe FileTree fun tree => tree.insert location (.file content)

/-- Removal of a file; a file that is not there is none to remove. -/
def remove (p : FilePath) : FileAction Unit := do
  match (← getThe FileTree).locate p with
  | .error .notFound => return
  | .error fault => fail p fault
  | .ok location =>
    match (← getThe FileTree).lookup? location with
    | none => return
    | some .directory => fail p .isDirectory
    | some (.file _) => modifyThe FileTree fun tree => tree.erase location

/-- Content of a file. -/
def read (p : FilePath) : FileAction Content := do
  let location ← locate p
  match (← getThe FileTree).lookup? location with
  | none => fail p .notFound
  | some .directory => fail p .isDirectory
  | some (.file content) => return content

end FileAction

end Skeletal
