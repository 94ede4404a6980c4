import Skeletal.CommandLine.Arguments
import Skeletal.Load.Roots
import Skeletal.Output.Implement

/-!
# Runs of the command

The command reads its arguments, loads the sources, finds the type and implements it. It ends
with 0 and the path that was written, with 1 where nothing was tried, or with 2 where implementing
failed. Faulty arguments end it with 2 as well, before anything else happens.
-/

set_option autoImplicit false

namespace Skeletal.CommandLine

/-- Ends of a run: by the reading of its arguments, by a return, by a failure to clean up, by a
class whose date no archive can hold, or by an argument without value. -/
inductive Ending where
  | usage (code : Nat)
  | returned (code : Nat)
  | cleanUp (error : FileError)
  | misdated (fault : DateFault)
  | missingValue
  deriving DecidableEq, Repr

/-- A run: its end and what it printed. -/
structure Report where
  ending : Ending
  stdout : String := ""
  stderr : String := ""
  deriving DecidableEq, Repr

/-- Report of a stop in the arguments. -/
def Stop.report : Stop → Report
  | .help => ⟨.usage 0, helpText, ""⟩
  | .usage message => ⟨.usage 2, "", usageMessage message⟩

/-- Report of a run that returns with a line of complaint. -/
def complaint (code : Nat) (stderr line : String) : Report :=
  ⟨.returned code, "", stderr ++ line ++ "\n"⟩

/-- Whether a text can be the path of an output. -/
def isOutputPath (text : String) : Bool :=
  !Text.isAllBlank text && !text.toList.contains '\x00'

/-- Roots that are loaded where none is given. -/
def defaultRoots : List String := ["."]

/-- Lines about skipped sources. -/
def skippedLines (skipped : List SkippedSource) : String :=
  String.join (skipped.map fun s => s!"Skipped {s.file}: {s.reason}\n")

/-- Flow that the arguments ask for. -/
def flow (s : Settings) (archive : Bool) (u : Universe) (t : TypeId) (output : FilePath) :
    Implementing FilePath :=
  if archive then Implementing.implementArchive s u t output
  else Implementing.implement s u t (some output)

/-- Report of an outcome of implementing. -/
def outcomeReport (stderr : String) : Except ImplementError FilePath → Report
  | .ok path => ⟨.returned 0, path.text ++ "\n", stderr⟩
  | .error (.cleanUp e) => ⟨.cleanUp e, "", stderr⟩
  | .error (.misdated fault) => ⟨.misdated fault, "", stderr⟩
  | .error (.synthesis (.noResultType _)) => ⟨.missingValue, "", stderr⟩
  | .error e =>
    complaint 2 stderr ("Failed to generate implementation code for class given: " ++ e.message)

/-- Run with a type name and an output. -/
def runWith (s : Settings) (w : Workshop) (arguments : Arguments) (typeName output : String) :
    Report × Workshop :=
  let roots := if arguments.sourcePaths.isEmpty then defaultRoots else arguments.sourcePaths
  match Registry.ofRoots w.tree w.workingDirectory (roots.map SourceRoot.ofText) with
  | .error e => (complaint 1 "" ("Failed to load sources: " ++ e.message), w)
  | .ok r =>
    let stderr := skippedLines r.skipped
    match r.resolve typeName with
    | .error e => (complaint 1 stderr ("Failed to implement class given: " ++ e.message), w)
    | .ok (t, u) =>
      let (result, w) :=
        Implementing.outcome (flow s arguments.archive u t (FilePath.ofText output)) w
      (outcomeReport stderr result, w)

/-- Run of the command with its arguments. -/
def run (s : Settings) (w : Workshop) (texts : List String) : Report × Workshop :=
  match parseArguments texts with
  | .error stop => (stop.report, w)
  | .ok arguments =>
    match arguments.typeName, arguments.output with
    | none, _ => (⟨.missingValue, "", ""⟩, w)
    | some typeName, output =>
      if Text.isAllBlank typeName then (complaint 1 "" "Expected a non-empty type name", w)
      else
        match output with
        | none => (⟨.missingValue, "", ""⟩, w)
        | some output =>
          if isOutputPath output then runWith s w arguments typeName output
          else
            (complaint 1 "" ("Failed to create path for output file: invalid path " ++
              Text.quoted output), w)

end Skeletal.CommandLine
