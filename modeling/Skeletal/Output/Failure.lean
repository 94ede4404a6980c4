import Skeletal.FileTree.Basic
import Skeletal.Output.Place
import Skeletal.Synthesis.Failure

/-!
# Failures of implementing

Reasons why the implementation of a type is not put in place. Synthesis, the compiler and the
files have failures of their own. A failure of cleaning up a file that could not be written is
the one that is reported, in place of the failure before it. A class whose date an archive cannot
hold is no failure of files, and nothing is cleaned up.
-/

set_option autoImplicit false

namespace Skeletal

/-- Failures of compiling a generated class. -/
inductive CompilationError where
  | noCompiler
  | timeout (seconds : Int)
  | notStarted (reason : String)
  | rejected (exit : Int) (detail : String)
  deriving DecidableEq, Repr

/-- Failure in words. -/
def CompilationError.message : CompilationError → String
  | .noCompiler => "Can not find java compiler"
  | .timeout seconds => s!"javac timed out after {seconds}s"
  | .notStarted reason => s!"javac could not be started: {reason}"
  | .rejected exit detail => s!"Can not compile generated code (exit {exit}): {detail}"

/-- Failures of putting files in place. -/
inductive PlacementError where
  | noRoot
  | noDirectory (path : String) (cause : FileError)
  | notWritten (path : String) (cause : FileError)
  | noScratch (path : String) (cause : FileError)
  | noArchive (path : String) (cause : FileError)
  deriving DecidableEq, Repr

/-- Failure in words. -/
def PlacementError.message : PlacementError → String
  | .noRoot =>
    "Invalid output root None: expected str, bytes or os.PathLike object, not NoneType"
  | .noDirectory path cause => s!"Cannot create output directory {path}: {cause.message}"
  | .notWritten path cause => s!"Cannot write {path}: {cause.message}"
  | .noScratch path cause =>
    s!"Cannot create temporary directory in {path}: {cause.message}"
  | .noArchive path cause => s!"Cannot write jar {path}: {cause.message}"

/-- Failures of implementing a type. -/
inductive ImplementError where
  | synthesis (error : SynthesisError)
  | compilation (error : CompilationError)
  | placement (error : PlacementError)
  | cleanUp (error : FileError)
  | misdated (fault : DateFault)
  deriving DecidableEq, Repr

/-- Failure in words. -/
def ImplementError.message : ImplementError → String
  | .synthesis e => e.message
  | .compilation e => e.message
  | .placement e => e.message
  | .cleanUp e => e.message
  | .misdated fault => fault.message

/-- Name of the kind of a failure. -/
def ImplementError.label : ImplementError → String
  | .synthesis e => e.label
  | .compilation _ => "CompilationFailed"
  | .placement _ => "IOFailure"
  | .cleanUp _ => "CleanUpFailure"
  | .misdated fault => fault.label

end Skeletal
