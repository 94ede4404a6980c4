import Skeletal.FileTree.Basic
import Skeletal.Output.Failure
import Skeletal.Text.CharacterClass

/-!
# Compilers

The external compiler of generated classes: where it is found, how it is called and what its
outcome means. What a run does is a value, so that the flow around it can be reasoned about
without running anything.
-/

set_option autoImplicit false

namespace Skeletal

/-- Outcome of a run of the compiler. -/
inductive CompilerRun where
  | timesOut
  | doesNotStart (reason : String)
  | ends (writesClass : Bool) (exit : Int) (stdout stderr : String)
  deriving DecidableEq, Repr

/-- Most characters of the compiler's words that a failure repeats. -/
def maxDetail : Nat := 2000

/-- Beginning of what the compiler said, on its error stream or else on its output. -/
def detailOf (stdout stderr : String) : String :=
  let said := Text.trim (if stderr = "" then stdout else stderr)
  String.ofList (said.toList.take maxDetail)

/-- Failure that an outcome means, where a run has a limit. -/
def CompilerRun.error? (limit : Int) : CompilerRun → Option CompilationError
  | .timesOut => some (.timeout limit)
  | .doesNotStart reason => some (.notStarted reason)
  | .ends _ exit stdout stderr =>
    if exit = 0 then none else some (.rejected exit (detailOf stdout stderr))

/-- Path of the class beside a source with an extension. -/
def besideSource (extension : String) (source : FilePath) : FilePath :=
  let stem := String.ofList (source.name.toList.take (source.name.length - extension.length))
  source.parent.below (stem ++ classExtension)

/-- Compiled form of a source. -/
def compiledContent (source : FilePath) : String := "class " ++ source.name

/-- Year that a file is dated in if nothing else is said. -/
def usualYear : Nat := 2000

/-- File of a class: what it holds, and the year that it is dated in. -/
structure ClassFile where
  content : Content
  year : Nat := usualYear
  deriving DecidableEq, Repr

/-- What a run writes beside a source if nothing else is said. -/
def CompilerRun.writes : CompilerRun → FilePath → Option ClassFile
  | .ends true _ _ _, source => some { content := .text (compiledContent source) }
  | _, _ => none

/-- A compiler: its command, the outcome of running it, and the class that a run writes beside a
source, whatever its outcome. -/
structure Compiler where
  command : String
  run : CompilerRun
  classFile : FilePath → Option ClassFile := run.writes

/-- Command line of a compilation. The sources of other types are looked up below the roots but
not compiled. -/
def Compiler.commandLine (c : Compiler) (output source : FilePath) (roots : List String) :
    List String :=
  let sourcePath := if roots.isEmpty then [] else ["-sourcepath", ":".intercalate roots]
  [c.command, "-d", output.text, "-cp", output.text, "-implicit:none"] ++ sourcePath ++
    [source.text]

/-- Name of the compiler's program. -/
def compilerProgram : String := "javac"

/-- Surroundings in which a compiler is looked for: the configured command, the home directory of
the tools and the directory of programs, and which files are programs. -/
structure CompilerSearch where
  configured : String
  home : Option String
  programs : String
  executable : List Location

/-- Command of the compiler: the configured one, the file in the home directory, or the program
in the directory of programs. -/
def findCompiler (tree : FileTree) (workingDirectory : String) (search : CompilerSearch) :
    Option String :=
  let configured := Text.trim search.configured
  if configured ≠ "" then some configured
  else
    let directory (text : String) := (FilePath.ofText text).absolute workingDirectory
    let atHome := (search.home.filter (· ≠ "")).map fun home =>
      ((directory home).below "bin").below compilerProgram
    match atHome.filter tree.hasFile with
    | some path => some path.text
    | none =>
      let path := (directory search.programs).below compilerProgram
      match tree.locate path with
      | .ok location =>
        if tree.hasFile path && search.executable.contains location then some path.text else none
      | .error _ => none

end Skeletal
