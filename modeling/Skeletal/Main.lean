import Skeletal.CommandLine.Run

/-!
# The command

The outer layer of the command. It reads the files below the working directory and the source
roots, lets the command run on them, and puts what is new or changed in place. It starts no other
program, so that no compiler is ever found.
-/

set_option autoImplicit false

open Skeletal

/-- Entries of a directory on the disk and of all directories below it. -/
partial def entriesBelow (location : Location) (found : Array IO.FS.DirEntry) :
    IO (List (Location × Entry)) := do
  let mut entries := []
  for item in found do
    let place := location ++ [item.fileName]
    if ← item.path.isDir then
      entries := entries ++ (place, .directory) ::
        (← entriesBelow place (← item.path.readDir))
    else
      let bytes ← IO.FS.readBinFile item.path
      entries := entries ++ [(place, .file (.bytes (bytes.toList.map UInt8.toNat)))]
  return entries

/-- Directories above a location and at it. -/
def directoriesTo (location : Location) : List (Location × Entry) :=
  ((List.range (location.length + 1)).map fun n => (location.take n, Entry.directory)).filter
    fun e => !FileTree.isGiven e.1

/-- Location of a source root by its text alone. -/
def rootPlace (text : String) : Location :=
  let path := FilePath.ofText text
  path.segments.foldl FileTree.step (FileTree.anchorLocation path.anchor)

/-- Whether a location is outside the working directory. -/
def isOutside (location : Location) : Bool :=
  location.head?.any fun name => name == ".." || name == "/"

/-- Entries of a source root outside the working directory; none where it cannot be read. -/
def rootEntries (text : String) : IO (List (Location × Entry)) := do
  if isOutside (rootPlace text) then
    try
      let found ← (← IO.FS.realPath text).readDir
      return directoriesTo (rootPlace text) ++ (← entriesBelow (rootPlace text) found)
    catch _ => return []
  else return []

/-- Files that a run with the given source roots may look at. -/
def readFiles (roots : List String) : IO FileTree := do
  let here ← entriesBelow [] (← (← IO.currentDir).readDir)
  let outside ← roots.mapM rootEntries
  return ⟨here ++ outside.flatten⟩

/-- Path of a location on the disk. -/
def diskPath : Location → String
  | "/" :: names => "/" ++ "/".intercalate names
  | names => "/".intercalate names

/-- Bytes of a content; an archive has none of its own. -/
def contentBytes : Content → ByteArray
  | .text t => t.toUTF8
  | .bytes bs => ⟨(bs.map UInt8.ofNat).toArray⟩
  | .archive _ => ByteArray.empty

/-- Puts the entries of a tree in place that another does not have. -/
def writeChanges (before after : FileTree) : IO Unit := do
  for (location, entry) in after.entries do
    if before.entries.lookup location != some entry then
      match entry with
      | .directory => IO.FS.createDirAll (diskPath location)
      | .file content => IO.FS.writeBinFile (diskPath location) (contentBytes content)

/-- Settings of the surroundings, or why there are none. -/
def readSettings : IO (Except String Settings) := do
  let classSuffix := (← IO.getEnv "IMPL_CLASS_SUFFIX").getD "Impl"
  let generatedExtension := (← IO.getEnv "IMPL_SOURCE_EXTENSION").getD ".java"
  let timeout := (← IO.getEnv "IMPL_COMPILE_TIMEOUT").getD "60"
  match LineSeparator.read ((← IO.getEnv "IMPL_LINE_SEPARATOR").getD "\\n"),
      (Text.trim timeout).toInt? with
  | .ok lineSeparator, some compileTimeout =>
    return .ok { classSuffix, generatedExtension, lineSeparator, compileTimeout }
  | .ok _, none =>
    return .error ("invalid literal for int() with base 10: " ++ Text.quoted timeout)
  | .error e, _ => return .error e.message

/-- Source roots that arguments name. -/
def namedRoots (arguments : List String) : List String :=
  match CommandLine.parseArguments arguments with
  | .ok a => a.sourcePaths
  | .error _ => []

/-- Runs the command. -/
def main (arguments : List String) : IO UInt32 := do
  match ← readSettings with
  | .error message =>
    IO.eprintln message
    return 1
  | .ok settings =>
    let tree ← readFiles (namedRoots arguments)
    let workshop : Workshop :=
      { tree, workingDirectory := (← IO.currentDir).toString, scratchName := ".scratch",
        compiler := none }
    let (report, after) := CommandLine.run settings workshop arguments
    writeChanges tree after.tree
    IO.print report.stdout
    IO.eprint report.stderr
    match report.ending with
    | .usage code | .returned code => return UInt32.ofNat code
    | .cleanUp e =>
      IO.eprintln e.message
      return 1
    | .misdated fault =>
      IO.eprintln fault.message
      return 1
    | .missingValue => return 1
