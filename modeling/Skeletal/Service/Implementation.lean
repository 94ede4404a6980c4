import Skeletal.Load.Roots
import Skeletal.Output.Implement
import Skeletal.Service.Response
import Skeletal.Service.Submission

/-!
# Implementing submissions

The work behind the requests: the graph of submitted types, the generated source of one of them,
and its compiled class in an archive. For an archive the files are laid out by their packages in
a scratch directory, where the compiler finds them.
-/

set_option autoImplicit false

namespace Skeletal.Service

/-- Service computations. They end early with the response that refuses the request. -/
abbrev Serving := ExceptT Response (StateM Workshop)

/-- Value of a computation that may end with a response. -/
def ofResult {ε α : Type} (refuse : ε → Response) (result : Except ε α) : Serving α :=
  match result with
  | .ok a => return a
  | .error e => throw (refuse e)

/-- Response to a failure of loading. -/
def refuseLoad (e : LoadError) : Response := .refusal 400 e.message

/-- Response to an unknown type. -/
def refuseType (e : Registry.UnknownType) : Response := .refusal 404 e.message

/-- Response to a failure of implementing. A failure of cleaning up is unforeseen, and so is a date
that no archive can hold. -/
def refuseImplement (e : ImplementError) : Response :=
  let reason := s!"{e.label}: {e.message}"
  match e with
  | .synthesis _ => .refusal 422 reason
  | .compilation _ => .refusal 502 reason
  | .placement _ => .refusal 500 reason
  | .cleanUp _ | .misdated _ => .unforeseen

/-- Source unit of a submitted file. -/
def SourceFile.unit (file : SourceFile) : SourceUnit :=
  { code := file.code, filename := some file.filename }

/-- Registry of submitted files, all of which have to be compilation units. -/
def loadFiles (files : List SourceFile) : Serving Registry :=
  ofResult refuseLoad (Registry.load true (files.map SourceFile.unit))

/-- Graph of submitted types. -/
def graphOf (files : List SourceFile) : Serving Response := do
  let r ← loadFiles files
  return .success (.graph r.world r.graph)

/-- Generated source of a submitted type. -/
def sourceOf (s : Settings) (submission : Submission) : Serving Response := do
  let r ← loadFiles submission.files
  let (t, u) ← ofResult refuseType (r.resolve submission.typeName)
  let source ← ofResult (fun e => refuseImplement (.synthesis e)) (s.generateSource u t)
  let d := u.get t
  return .success <| .source
    { className := s.className d
      package := d.package
      path := (s.outputPath (FilePath.ofText "") d s.generatedExtension).text
      source }

/-- Operation on files whose failure is unforeseen. -/
def onFiles {α : Type} (action : FileAction α) : Serving α := do
  let w ← getThe Workshop
  let (result, tree) := action.run.run w.tree
  set { w with tree }
  ofResult (fun _ => .unforeseen) result

/-- Submitted file written below `sources` into the directory of its package, under the last
segment of its name. No two files may have one place; `placed` are the places taken. -/
def placeFile (sources : FilePath) (placed : List FilePath) (file : SourceFile) :
    Serving (List FilePath) := do
  let refuse (reason : String) : Response := .refusal 400 s!"{file.filename}: {reason}"
  let content ← ofResult (fun e => refuse e.message) (Source.parse file.code)
  let directory := packageDirectory sources content.package
  let target := directory.below (FilePath.ofText file.filename).name
  if target ∈ placed then
    let relative := "/".intercalate (target.segments.drop sources.segments.length)
    throw (refuse s!"duplicate file {relative}")
  onFiles do
    FileAction.ensureDirectories directory
    FileAction.write target (.text file.code)
  return target :: placed

/-- Entries of an archive. -/
def archiveEntries (path : FilePath) : Serving (List (String × Content)) := do
  match ← onFiles (FileAction.read path) with
  | .archive entries => return entries
  | _ => return []

/-- Implementing as a part of serving. -/
def implementing {α : Type} (work : Implementing α) : Serving α := do
  let (result, w) := Implementing.outcome work (← getThe Workshop)
  set w
  ofResult refuseImplement result

/-- Archive with the compiled class of a submitted type. -/
def archiveOf (s : Settings) (submission : Submission) : Serving Response := do
  let w ← getThe Workshop
  let scratch : FilePath := ⟨.within w.workingDirectory, [w.scratchName]⟩
  onFiles (FileAction.makeDirectory scratch)
  let sources := scratch.below "src"
  let _ ← submission.files.foldlM (placeFile sources) []
  let tree := (← getThe Workshop).tree
  let r ← ofResult refuseLoad
    (Registry.ofRoots tree w.workingDirectory [SourceRoot.ofPath sources])
  let (t, u) ← ofResult refuseType (r.resolve submission.typeName)
  let filename := s.className (u.get t) ++ ".jar"
  let archive := (scratch.below "out").below filename
  let written ← implementing (Implementing.implementArchive s u t archive)
  let entries ← archiveEntries written
  match receivedHeader? (attachmentHeader filename) with
  | some disposition => return .success (.archive disposition entries)
  | none => throw .unforeseen

end Skeletal.Service
