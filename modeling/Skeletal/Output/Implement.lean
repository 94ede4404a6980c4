import Skeletal.Output.Compiler

/-!
# Implementing

The two flows of the implementor. The source flow generates the source of a type and writes it
below a root. The archive flow does so in a scratch directory beside the archive, compiles the
source there, packs the class and removes the scratch directory however it ends.

A type that cannot be implemented is refused before any file is touched, and a source is complete
before its file is opened.
-/

set_option autoImplicit false

namespace Skeletal

/-- What implementing works on: the files, the working directory, the name of a fresh scratch
directory, the compiler, and the command lines that were run. -/
structure Workshop where
  tree : FileTree
  workingDirectory : String
  scratchName : String
  compiler : Option Compiler
  commands : List (List String) := []

/-- Year of the class that the compiler writes beside a source. It is the one date that matters, so
the tree has none. -/
def Workshop.classYear (w : Workshop) (source : FilePath) : Nat :=
  match w.compiler.bind fun c => c.classFile source with
  | some file => file.year
  | none => usualYear

/-- Implementing computations. What was done before a failure stays done. -/
abbrev Implementing := ExceptT ImplementError (StateM Workshop)

namespace Implementing

/-- Operation on files with its failure reported as `report` says. -/
def onFiles {α : Type} (report : FileError → ImplementError) (action : FileAction α) :
    Implementing α := do
  let w ← getThe Workshop
  let (result, tree) := action.run.run w.tree
  set { w with tree }
  match result with
  | .ok a => return a
  | .error e => throw (report e)

/-- A synthesis that may fail. -/
def ofSynthesis {α : Type} (result : Except SynthesisError α) : Implementing α :=
  match result with
  | .ok a => return a
  | .error e => throw (.synthesis e)

/-- Content written to a path. A path that cannot be written is cleaned up. -/
def writeOrCleanUp {α : Type} (report : FileError → PlacementError) (p : FilePath)
    (write : FileAction α) : Implementing α :=
  tryCatch (onFiles (fun e => .placement (report e)) write) fun e => do
    onFiles .cleanUp (FileAction.remove p)
    throw e

/-- Source text written to a path with all directories above it. -/
def writeSource (p : FilePath) (text : String) : Implementing Unit := do
  onFiles (fun e => .placement (.noDirectory p.parent.text e))
    (FileAction.ensureDirectories p.parent)
  writeOrCleanUp (.notWritten p.text) p (FileAction.write p (.text text))

/-- Source flow: path of the source written below a root. -/
def implement (s : Settings) (u : Universe) (t : TypeId) (root : Option FilePath) :
    Implementing FilePath := do
  ofSynthesis (u.checkImplementable t)
  let source ← ofSynthesis (s.generateSource u t)
  match root with
  | none => throw (.placement .noRoot)
  | some root =>
    let p := s.outputPath root (u.get t) s.generatedExtension
    writeSource p source
    return p

/-- Class that a compiler writes beside a source. A run that cannot write it has not started. -/
def writeClass (s : Settings) (c : Compiler) (source : FilePath) : Implementing Unit :=
  match c.classFile source with
  | none => pure ()
  | some file =>
    onFiles (fun e => .compilation (.notStarted e.message))
      (FileAction.write (besideSource s.generatedExtension source) file.content)

/-- Compilation of a source into a directory. -/
def compile (s : Settings) (source output : FilePath) (roots : List String) :
    Implementing Unit := do
  match (← getThe Workshop).compiler with
  | none => throw (.compilation .noCompiler)
  | some c =>
    modifyThe Workshop fun w =>
      { w with commands := w.commands ++ [c.commandLine output source roots] }
    writeClass s c source
    match c.run.error? s.compileTimeout with
    | some e => throw (.compilation e)
    | none => pure ()

/-- Source and compiled class of a type below a directory. -/
def compileBelow (s : Settings) (u : Universe) (t : TypeId) (root : FilePath) :
    Implementing Unit := do
  let source ← implement s u t (some root)
  compile s source root (u.sourceRoots t)

/-- Member of an archive for what stands at a path: a file with its content, a directory as a name
that ends in a slash. -/
def memberAt (p : FilePath) (name : String) : FileAction (String × Content) := do
  if ← FileAction.isDirectory p then return (name ++ "/", .text "")
  else return (name, ← FileAction.read p)

/-- Archive of a compiled class that is dated in a year, put in the place of what the path held. The
archive is opened with its description, and stays so where it cannot hold the year: the fault is
given back, for it is none of the files. -/
def packInto (archive compiled : FilePath) (entry : String) (year : Nat) :
    FileAction (Option DateFault) := do
  FileAction.write archive (.archive [(manifestEntry, .text manifestText)])
  let member ← memberAt compiled (memberName entry)
  match dateFault? year with
  | some fault => return some fault
  | none =>
    FileAction.write archive (.archive [(manifestEntry, .text manifestText), member])
    return none

/-- Archive of a compiled class. Only a failure of files is handled by cleaning up. -/
def pack (archive compiled : FilePath) (entry : String) (year : Nat) : Implementing Unit := do
  match ← writeOrCleanUp (.noArchive archive.text) archive
      (packInto archive compiled entry year) with
  | some fault => throw (.misdated fault)
  | none => return

/-- Archive with the compiled class below a directory. -/
def writeArchive (s : Settings) (d : Descriptor) (root archive : FilePath) :
    Implementing Unit := do
  let w ← getThe Workshop
  pack archive (s.compiledPath root d) (s.classEntry d)
    (w.classYear (s.outputPath root d s.generatedExtension))

/-- Scratch directory beside a path. -/
def scratchBeside (p : FilePath) : Implementing FilePath := do
  let w ← getThe Workshop
  let parent := (p.absolute w.workingDirectory).parent
  let scratch := parent.below w.scratchName
  let report (e : FileError) : ImplementError :=
    if e.fault = .embeddedNull then .cleanUp e else .placement (.noScratch parent.text e)
  onFiles report do
    FileAction.ensureDirectories parent
    FileAction.makeDirectory scratch
  return scratch

/-- Files without a scratch directory. -/
def discardScratch (scratch : FilePath) : Implementing Unit :=
  modifyThe Workshop fun w =>
    match w.tree.locate scratch with
    | .ok location => { w with tree := w.tree.eraseAll location }
    | .error _ => w

/-- Work in a scratch directory beside a path, which is removed however the work ends. -/
def withScratch {α : Type} (p : FilePath) (work : FilePath → Implementing α) :
    Implementing α := do
  let scratch ← scratchBeside p
  let result ← tryCatch (Except.ok <$> work scratch) fun e => pure (.error e)
  discardScratch scratch
  match result with
  | .ok a => return a
  | .error e => throw e

/-- Archive flow: path of the archive with the compiled class. -/
def implementArchive (s : Settings) (u : Universe) (t : TypeId) (archive : FilePath) :
    Implementing FilePath := do
  ofSynthesis (u.checkImplementable t)
  withScratch archive fun scratch => do
    compileBelow s u t scratch
    writeArchive s (u.get t) scratch archive
    return archive

/-- Outcome and the workshop after it. -/
def outcome {α : Type} (work : Implementing α) (w : Workshop) :
    Except ImplementError α × Workshop :=
  work.run.run w

end Implementing

end Skeletal
