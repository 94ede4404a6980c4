import Skeletal.CommandLine.Run
import Skeletal.Proofs.Output.ArchiveFlow
import Skeletal.Proofs.Output.Foreseen
import Skeletal.Proofs.Output.SourceFlow

/-!
# Outcomes of the command

A run of the command whose arguments are accepted ends by returning a number, by a failure to clean
up, for the date of a class, or for want of a value. What it returns tells what was done
(`run_outcome`): after 1 nothing was changed, after 2 implementing failed as foreseen, and after 0
the path that was printed holds the source or the archive. A run returns 1 exactly if nothing could
be tried, except that an argument without value ends it before. Such an argument is accepted where
its only word is taken for a second end of the options (`unnamed_not_returned`).
-/

set_option autoImplicit false

namespace Skeletal.CommandLine

open Implementing (outcome)
open ImplementError (foreseenLabels)

variable {s : Settings} {w : Workshop} {arguments : Arguments} {texts : List String}
  {typeName output stderr : String} {r : Registry} {t : TypeId} {u : Universe} {path : FilePath}

/-! ## Sources -/

/-- Registry of the sources that the arguments name. -/
def loaded (w : Workshop) (arguments : Arguments) : Except LoadError Registry :=
  Registry.ofRoots w.tree w.workingDirectory
    ((if arguments.sourcePaths.isEmpty then defaultRoots else arguments.sourcePaths).map
      SourceRoot.ofText)

/-- Sources below roots are loaded as units, and names are resolved as among these. -/
theorem exists_load_of_ofRoots {tree : FileTree} {workingDirectory : String}
    {roots : List SourceRoot} (h : Registry.ofRoots tree workingDirectory roots = .ok r) :
    ∃ units r', Registry.load false units = .ok r' ∧ ∀ name, r.resolve name = r'.resolve name := by
  rw [Registry.ofRoots] at h
  split_ifs at h
  · cases h
  · obtain ⟨r', hload, h⟩ := bind_eq_ok_iff.1 h
    obtain rfl := Except.ok.inj h
    exact ⟨_, r', hload, fun _ => rfl⟩

/-! ## What a run is about -/

/-- The run gets as far as implementing: the type name and the output have values that pass, the
sources load, and the name is resolved. -/
structure Tries (w : Workshop) (arguments : Arguments) (output : String) (t : TypeId)
    (u : Universe) : Prop where
  named : ∃ typeName r, arguments.typeName = some typeName ∧
    Text.isAllBlank typeName = false ∧ loaded w arguments = .ok r ∧
      r.resolve typeName = .ok (t, u)
  output_eq : arguments.output = some output
  isOutputPath : isOutputPath output = true

/-- Nothing can be tried: the type name is blank, the output is no path, the sources do not load, or
the name is not resolved. -/
inductive Untried (w : Workshop) (arguments : Arguments) : Prop
  | blankName {typeName : String} (given : arguments.typeName = some typeName)
      (blank : Text.isAllBlank typeName = true)
  | noPath {output : String} (given : arguments.output = some output)
      (noPath : isOutputPath output = false)
  | unloaded {e : LoadError} (fails : loaded w arguments = .error e)
  | unresolved {typeName : String} {r : Registry} {e : Registry.UnknownType}
      (given : arguments.typeName = some typeName) (loads : loaded w arguments = .ok r)
      (unknown : r.resolve typeName = .error e)

/-- A value is missing that is asked for: the type name, or the output after a type name that is
not blank. -/
def Missing (arguments : Arguments) : Prop :=
  ∀ typeName, arguments.typeName = some typeName →
    Text.isAllBlank typeName = false ∧ arguments.output = none

/-- The ways through a run with accepted arguments. -/
inductive RunCases (s : Settings) (w : Workshop) (arguments : Arguments) : Report × Workshop → Prop
  | missing (values : Missing arguments) : RunCases s w arguments (⟨.missingValue, "", ""⟩, w)
  | untried {stderr line : String} (values : ¬ Missing arguments) (reason : Untried w arguments) :
      RunCases s w arguments (complaint 1 stderr line, w)
  | tried {output stderr : String} {t : TypeId} {u : Universe} (values : ¬ Missing arguments)
      (tries : Tries w arguments output t u) : RunCases s w arguments
        (outcomeReport stderr
            (outcome (flow s arguments.archive u t (FilePath.ofText output)) w).1,
          (outcome (flow s arguments.archive u t (FilePath.ofText output)) w).2)

theorem runCases (s : Settings) (w : Workshop) (h : parseArguments texts = .ok arguments) :
    RunCases s w arguments (run s w texts) := by
  rw [run, h]
  simp only
  cases htype : arguments.typeName with
  | none => exact .missing fun _ h => nomatch htype.symm.trans h
  | some typeName =>
      simp only
      by_cases hblank : Text.isAllBlank typeName = true
      · rw [if_pos hblank]
        refine .untried (fun hmissing => ?_) (.blankName htype hblank)
        rw [(hmissing typeName htype).1] at hblank
        exact absurd hblank Bool.false_ne_true
      · rw [if_neg hblank]
        have hname := Bool.eq_false_iff.2 hblank
        cases houtput : arguments.output with
        | none =>
            refine .missing fun other hother => ?_
            obtain rfl := Option.some.inj (htype.symm.trans hother)
            exact ⟨hname, houtput⟩
        | some output =>
            have hvalues : ¬ Missing arguments := fun hmissing =>
              nomatch houtput.symm.trans (hmissing typeName htype).2
            simp only
            by_cases hpath : isOutputPath output = true
            · rw [if_pos hpath, runWith]
              cases hloaded : loaded w arguments with
              | error e =>
                  rw [loaded] at hloaded
                  simp only [hloaded]
                  exact .untried hvalues (.unloaded hloaded)
              | ok r =>
                  have hroots := hloaded
                  rw [loaded] at hroots
                  simp only [hroots]
                  cases hresolve : r.resolve typeName with
                  | error e => exact .untried hvalues (.unresolved htype hloaded hresolve)
                  | ok found =>
                      exact .tried hvalues
                        ⟨⟨typeName, r, htype, hname, hloaded, hresolve⟩, houtput, hpath⟩
            · rw [if_neg hpath]
              exact .untried hvalues (.noPath houtput (Bool.eq_false_iff.2 hpath))

/-! ## Reports -/

theorem ending_outcomeReport_ne_one (stderr : String) (result : Except ImplementError FilePath) :
    (outcomeReport stderr result).ending ≠ .returned 1 := by
  cases result with
  | ok path => simp [outcomeReport]
  | error e =>
      cases e with
      | synthesis rejection => cases rejection <;> simp [outcomeReport, complaint]
      | compilation cause => simp [outcomeReport, complaint]
      | placement cause => simp [outcomeReport, complaint]
      | cleanUp fault => simp [outcomeReport]
      | misdated fault => simp [outcomeReport]

/-- A report with 0 is that of a path. -/
theorem exists_of_ending_eq_zero {result : Except ImplementError FilePath}
    (h : (outcomeReport stderr result).ending = .returned 0) :
    ∃ path, result = .ok path ∧ (outcomeReport stderr result).stdout = path.text ++ "\n" := by
  cases result with
  | ok path => exact ⟨path, rfl, rfl⟩
  | error e =>
      cases e with
      | synthesis rejection => cases rejection <;> simp [outcomeReport, complaint] at h
      | compilation cause => simp [outcomeReport, complaint] at h
      | placement cause => simp [outcomeReport, complaint] at h
      | cleanUp fault => simp [outcomeReport] at h
      | misdated fault => simp [outcomeReport] at h

/-- A report with 2 is that of a failure that is foreseen. -/
theorem exists_of_ending_eq_two {result : Except ImplementError FilePath}
    (h : (outcomeReport stderr result).ending = .returned 2) :
    ∃ e, result = .error e ∧ e.label ∈ foreseenLabels ∧
      (outcomeReport stderr result).stdout = "" := by
  have hforeseen := (Implementing.ending_outcomeReport_iff stderr result).1 (by simp [h])
  cases result with
  | ok path => simp [outcomeReport] at h
  | error e =>
      refine ⟨e, rfl, hforeseen e rfl, ?_⟩
      cases e with
      | synthesis rejection => cases rejection <;> rfl
      | compilation cause => rfl
      | placement cause => rfl
      | cleanUp fault => rfl
      | misdated fault => rfl

/-! ## What is delivered -/

/-- The path holds what was asked for: the generated source, or an archive with the class that the
compiler made of it. -/
inductive Delivers (s : Settings) (w : Workshop) (arguments : Arguments) (output : FilePath)
    (t : TypeId) (u : Universe) (tree : FileTree) (path : FilePath) : Prop
  | source {source : String} (asked : arguments.archive = false)
      (generated : s.generateSource u t = .ok source)
      (path_eq : path = s.outputPath output (u.get t) s.generatedExtension)
      (stands : tree.entryAt? path = some (.file (.text source)))
  | archive {source : String} {file : ClassFile} (asked : arguments.archive = true)
      (generated : s.generateSource u t = .ok source) (path_eq : path = output)
      (compiled : Implementing.WritesClass s u t output w file)
      (stands : tree.entryAt? path = some (.file (.archive
        [(manifestEntry, .text manifestText), (s.classEntry (u.get t), file.content)])))

/-- What the archive flow returns was made of a source that was generated. -/
theorem exists_generateSource_of_implementArchive {archive : FilePath}
    (h : (outcome (Implementing.implementArchive s u t archive) w).1 = .ok path) :
    ∃ source, s.generateSource u t = .ok source := by
  -- only a run that got as far as packing returns, and packing comes after the source
  have hrun := Implementing.archiveRun s u t archive w
  generalize outcome (Implementing.beforePacking s u t archive) w = before at hrun
  generalize outcome (Implementing.implementArchive s u t archive) w = after at hrun h
  cases hrun with
  | refused gate => cases h
  | unprepared gate beside => cases h
  | uncompiled gate beside compiled => cases h
  | packing gate beside compiled packed =>
      obtain ⟨written, w', himplement, -⟩ := runFrom_bind_eq_ok_iff.1 compiled
      obtain ⟨source, hsource, -⟩ := Implementing.implement_ok himplement
      exact ⟨source, hsource⟩

/-- A flow that returns has delivered. -/
theorem delivers_of_flow {name : String} (hloaded : loaded w arguments = .ok r)
    (hresolve : r.resolve name = .ok (t, u)) (hs : s.NamesFiles)
    {output : FilePath} (hfresh : arguments.archive = true → w.FreshScratch output)
    (h : (outcome (flow s arguments.archive u t output) w).1 = .ok path) :
    Delivers s w arguments output t u
      (outcome (flow s arguments.archive u t output) w).2.tree path := by
  cases harchive : arguments.archive with
  | false =>
      simp only [flow, harchive, Bool.false_eq_true, if_false] at h ⊢
      have hrun : runFrom (Implementing.implement s u t (some output)) w =
          (.ok path, (outcome (Implementing.implement s u t (some output)) w).2) := Prod.ext h rfl
      obtain ⟨source, hsource, hpath, hstands⟩ := Implementing.implement_ok hrun
      exact .source harchive hsource hpath hstands
  | true =>
      simp only [flow, harchive, if_true] at h ⊢
      obtain ⟨units, r', hload, hsame⟩ := exists_load_of_ofRoots hloaded
      have hoffers : r'.Offers t u := Or.inr ⟨name, (hsame name).symm.trans hresolve⟩
      have hleaves := Implementing.leavesArchive hs (Registry.namesFiles_of_offers hload hoffers)
        (hfresh harchive)
      obtain ⟨rfl, file, hfile, hstands⟩ := hleaves.returned path h
      obtain ⟨source, hsource⟩ := exists_generateSource_of_implementArchive h
      exact .archive harchive hsource rfl hfile hstands

/-! ## Outcomes -/

/-- What a run with accepted arguments says by how it ends. -/
structure RunOutcome (s : Settings) (w : Workshop) (arguments : Arguments)
    (after : Report × Workshop) : Prop where
  /-- After 1 the files are as they were, no compiler was run, and nothing is printed. -/
  one : after.1.ending = .returned 1 → after.2 = w ∧ after.1.stdout = ""
  /-- After 2 a type was found, implementing it failed as is foreseen, and nothing is printed. -/
  two : after.1.ending = .returned 2 → after.1.stdout = "" ∧ ∃ output t u e,
    Tries w arguments output t u ∧
      (outcome (flow s arguments.archive u t (FilePath.ofText output)) w).1 = .error e ∧
        e.label ∈ foreseenLabels
  /-- After 0 the path that was returned is printed with a line end. It holds what was asked for. -/
  zero : after.1.ending = .returned 0 → ∃ output t u path, Tries w arguments output t u ∧
    (outcome (flow s arguments.archive u t (FilePath.ofText output)) w).1 = .ok path ∧
      after.1.stdout = path.text ++ "\n" ∧
        Delivers s w arguments (FilePath.ofText output) t u after.2.tree path
  /-- A value that is missing ends the run with nothing done. -/
  missing : Missing arguments → after = (⟨.missingValue, "", ""⟩, w)
  /-- Unless a value is missing, 1 is returned where nothing can be tried. -/
  one_iff : (after.1.ending = .returned 1 ↔ Untried w arguments) ↔
    (Missing arguments → ¬ Untried w arguments)

theorem Tries.not_untried (h : Tries w arguments output t u) : ¬ Untried w arguments := by
  obtain ⟨⟨typeName, r, htype, hname, hloaded, hresolve⟩, houtput, hpath⟩ := h
  rintro (⟨given, blank⟩ | ⟨given, noPath⟩ | ⟨fails⟩ | ⟨given, loads, unknown⟩)
  · obtain rfl := Option.some.inj (htype.symm.trans given)
    exact Bool.false_ne_true (hname.symm.trans blank)
  · obtain rfl := Option.some.inj (houtput.symm.trans given)
    exact Bool.false_ne_true (noPath.symm.trans hpath)
  · exact nomatch hloaded.symm.trans fails
  · obtain rfl := Option.some.inj (htype.symm.trans given)
    obtain rfl := Except.ok.inj (hloaded.symm.trans loads)
    exact nomatch hresolve.symm.trans unknown

/-- What a run of the command says by how it ends, if its arguments are accepted. -/
theorem run_outcome (h : parseArguments texts = .ok arguments) (hs : s.NamesFiles)
    (hfresh : ∀ output ∈ arguments.output, arguments.archive = true →
      w.FreshScratch (FilePath.ofText output)) :
    RunOutcome s w arguments (run s w texts) := by
  have hcases := runCases s w h
  generalize run s w texts = after at hcases ⊢
  cases hcases with
  | missing values =>
      refine ⟨nofun, nofun, nofun, fun _ => rfl, ?_⟩
      constructor
      · -- the run does not return, so that what is equivalent to 1 is not the case
        intro hiff _ huntried
        exact nomatch hiff.2 huntried
      · intro hnone
        exact iff_of_false nofun (hnone values)
  | untried values reason =>
      refine ⟨fun _ => ⟨rfl, rfl⟩, nofun, nofun, fun hmissing => absurd hmissing values, ?_⟩
      exact iff_of_true (iff_of_true rfl reason) fun hmissing => absurd hmissing values
  | @tried output stderr t u values tries =>
      -- the ending is that of the flow, which gives 0 or 2 but never 1
      refine ⟨fun hone => absurd hone (ending_outcomeReport_ne_one _ _), ?_, ?_,
        fun hmissing => absurd hmissing values, ?_⟩
      · intro htwo
        obtain ⟨e, hresult, hlabel, hstdout⟩ := exists_of_ending_eq_two htwo
        exact ⟨hstdout, output, t, u, e, tries, hresult, hlabel⟩
      · intro hzero
        obtain ⟨path, hresult, hstdout⟩ := exists_of_ending_eq_zero hzero
        obtain ⟨typeName, r, -, -, hloaded, hresolve⟩ := tries.named
        exact ⟨output, t, u, path, tries, hresult, hstdout,
          delivers_of_flow hloaded hresolve hs (hfresh output tries.output_eq) hresult⟩
      · exact iff_of_true (iff_of_false (ending_outcomeReport_ne_one _ _) tries.not_untried)
          fun hmissing => absurd hmissing values

/-- A workshop with one source, and a compiler that writes a class of its own. -/
def penWorkshop : Workshop where
  tree := ⟨[(["src"], .directory), (["src", "Pen.java"],
    .file (.text "package p; public class Pen \x7b public Pen() \x7b \x7d \x7d"))]⟩
  workingDirectory := "/work"
  scratchName := "skeletal-1"
  compiler := some { command := "compiler", run := .ends true 0 "" "" }

/-- A run for an archive. -/
theorem run_outcome_pen : ∃ arguments,
    parseArguments ["-jar", "-sp", "src", "p.Pen", "out/pen.jar"] = .ok arguments ∧
      ({} : Settings).NamesFiles ∧
      (∀ output ∈ arguments.output, arguments.archive = true →
        penWorkshop.FreshScratch (FilePath.ofText output)) ∧
      RunOutcome {} penWorkshop arguments
        (run {} penWorkshop ["-jar", "-sp", "src", "p.Pen", "out/pen.jar"]) := by
  have hparse : parseArguments ["-jar", "-sp", "src", "p.Pen", "out/pen.jar"] =
      .ok ⟨true, ["src"], some "p.Pen", some "out/pen.jar"⟩ := by
    decide +kernel
  have hfresh : ∀ output ∈ some "out/pen.jar", true = true →
      penWorkshop.FreshScratch (FilePath.ofText output) := by
    intro output houtput _
    obtain rfl := Option.some.inj houtput
    decide +kernel
  exact ⟨_, hparse, Settings.namesFiles_default, hfresh,
    run_outcome hparse Settings.namesFiles_default hfresh⟩

/-- A workshop without files. -/
def bareWorkshop : Workshop where
  tree := ⟨[]⟩
  workingDirectory := "/work"
  scratchName := "skeletal-1"
  compiler := none

/-- Dashes after the end of the options leave the output without value, and the run does not return
for a name that is not resolved. -/
theorem unnamed_not_returned : ∃ arguments,
    parseArguments ["Nope", "--", "--"] = .ok arguments ∧ Untried bareWorkshop arguments ∧
      (run {} bareWorkshop ["Nope", "--", "--"]).1.ending ≠ .returned 1 := by
  have hparse : parseArguments ["Nope", "--", "--"] = .ok ⟨false, [], some "Nope", none⟩ := by
    decide +kernel
  have hunknown : (loaded bareWorkshop ⟨false, [], some "Nope", none⟩).toOption.any
      (fun r => (r.resolve "Nope").toOption.isNone) = true := by
    decide +kernel
  refine ⟨_, hparse, ?_, by decide +kernel⟩
  cases hloaded : loaded bareWorkshop ⟨false, [], some "Nope", none⟩ with
  | error e =>
      rw [hloaded] at hunknown
      cases hunknown
  | ok r =>
      rw [hloaded, Except.toOption, Option.any_some] at hunknown
      cases hresolve : r.resolve "Nope" with
      | error e => exact .unresolved rfl hloaded hresolve
      | ok found =>
          rw [hresolve] at hunknown
          cases hunknown

end Skeletal.CommandLine
