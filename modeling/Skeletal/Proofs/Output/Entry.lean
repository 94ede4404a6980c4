import Skeletal.Output.Implement
import Skeletal.Proofs.Load.Offered

/-!
# Paths and archive entries of classes

A class is compiled to a path below a root and packed under an entry of an archive. The two are
built apart, the path by joining directories and the entry by joining texts. The segments of the
entry lead from the root to the path, so the class is packed from where it is compiled to, and each
of the two determines the package and the simple name of the type (`outputPath_classEntry`).

The suffix of the class may be any text. One with slashes moves the class into further directories,
on the path and in the entry alike.
-/

set_option autoImplicit false

namespace Skeletal

open Implementing (outcome packInto writeArchive writeOrCleanUp)

variable {s : Settings} {d e : Descriptor} {root : FilePath} {extension : String}

/-- Identifiers name files, and so do identifiers with points between them. -/
theorem Descriptor.namesFiles_of_isIdentifier (hname : Source.isIdentifier d.name = true)
    (hpackage : Source.IsPackageName d.package) : d.NamesFiles where
  name := isFileName_of_isIdentifier hname
  package _ hsegment := isFileName_of_mem_packageSegments hpackage hsegment

theorem compiledPath_eq_outputPath (hd : d.NamesFiles) (root : FilePath) :
    s.compiledPath root d = s.outputPath root d classExtension := by
  have hname : FilePath.anchorOf (s.className d ++ classExtension) = .relative := by
    rw [className_append]
    exact FilePath.anchorOf_append hd.name _
  exact compiledPath_eq_of_relative
    (fun segment hsegment => FilePath.anchorOf_of_not_mem (hd.package segment hsegment).1) hname
    root

/-- Segments of a file of a class, whatever the suffix of the class. -/
theorem segments_outputPath (hd : d.NamesFiles) (root : FilePath) (extension : String) :
    (s.outputPath root d extension).segments = root.segments ++ (packageSegments d.package ++
      FilePath.segmentsOf (d.name ++ (s.classSuffix ++ extension))) := by
  have hname := FilePath.anchorOf_append hd.name (s.classSuffix ++ extension)
  rw [Settings.outputPath, packageDirectory, FilePath.belowAll_of_isFileName hd.package,
    className_append, FilePath.below_of_relative hname, List.append_assoc]

/-- Types with different names have different files. -/
theorem outputPath_inj (hd : d.NamesFiles) (he : e.NamesFiles)
    (h : s.outputPath root d extension = s.outputPath root e extension) :
    d.package = e.package ∧ d.name = e.name := by
  have hsegments := congrArg FilePath.segments h
  rw [segments_outputPath hd, segments_outputPath he, List.append_cancel_left_eq] at hsegments
  -- behind the names stands the same for both types
  obtain ⟨first, rest, htail⟩ := FilePath.exists_segmentsOf_append (s.classSuffix ++ extension)
  rw [htail d.name hd.name, htail e.name he.name] at hsegments
  obtain ⟨hpackage, hnames⟩ := List.append_inj' hsegments rfl
  have hname := (List.cons.inj hnames).1
  exact ⟨packageSegments_inj hpackage, (String.append_left_inj first).1 hname⟩

/-- The places of a class are made of its package and its simple name. -/
theorem outputPath_congr (hpackage : d.package = e.package) (hname : d.name = e.name)
    (root : FilePath) (extension : String) :
    s.outputPath root d extension = s.outputPath root e extension := by
  rw [Settings.outputPath, Settings.outputPath, Settings.className, Settings.className, hpackage,
    hname]

theorem classEntry_congr (hpackage : d.package = e.package) (hname : d.name = e.name) :
    s.classEntry d = s.classEntry e := by
  rw [Settings.classEntry, Settings.classEntry, Settings.className, Settings.className, hpackage,
    hname]

/-- Entries determine the paths of the classes. -/
theorem outputPath_eq_of_classEntry_eq (hd : d.NamesFiles) (he : e.NamesFiles)
    (h : s.classEntry d = s.classEntry e) (root : FilePath) :
    s.outputPath root d classExtension = s.outputPath root e classExtension := by
  rw [← compiledPath_eq_outputPath hd, ← compiledPath_eq_outputPath he, Settings.compiledPath,
    Settings.compiledPath, h]

/-- The path of a class is the root with the segments of the archive entry behind it, and there the
class is read when it is packed under that entry. Two types have the same files below a root exactly
if their classes have the same entry, that is, if they have the same package and the same name. -/
theorem Settings.outputPath_classEntry (s : Settings) (hd : d.NamesFiles) (he : e.NamesFiles)
    (root : FilePath) :
    s.outputPath root d classExtension = root.belowAll (splitSlashes (s.classEntry d)) ∧
      (∀ archive w, outcome (writeArchive s d root archive) w = outcome (do
        match ← writeOrCleanUp (.noArchive archive.text) archive
          (packInto archive (s.outputPath root d classExtension) (s.classEntry d)
            (w.classYear (s.outputPath root d s.generatedExtension))) with
        | some fault => throw (.misdated fault)
        | none => return) w) ∧
      (∀ extension, s.outputPath root d extension = s.outputPath root e extension ↔
        s.classEntry d = s.classEntry e) ∧
      (s.classEntry d = s.classEntry e ↔ d.package = e.package ∧ d.name = e.name) := by
  have hread := compiledPath_eq_outputPath (s := s) hd root
  have hentry : s.classEntry d = s.classEntry e → d.package = e.package ∧ d.name = e.name :=
    fun h => outputPath_inj hd he (outputPath_eq_of_classEntry_eq hd he h root)
  refine ⟨hread.symm, fun archive w => ?_, fun extension => ⟨fun h => ?_, fun h => ?_⟩, hentry,
    fun h => classEntry_congr h.1 h.2⟩
  · rw [writeArchive, hread]
    rfl
  · obtain ⟨hpackage, hname⟩ := outputPath_inj hd he h
    exact classEntry_congr hpackage hname
  · obtain ⟨hpackage, hname⟩ := hentry h
    exact outputPath_congr hpackage hname root extension

/-- A class of a package. -/
def branch : Descriptor := { name := "Branch", canonical := "tree.Branch", package := "tree" }

/-- A class of a package inside that of `branch`, with a longer name. -/
def branchTip : Descriptor :=
  { name := "BranchTip", canonical := "tree.branch.BranchTip", package := "tree.branch" }

theorem namesFiles_branch : branch.NamesFiles :=
  Descriptor.namesFiles_of_isIdentifier (by decide +kernel) ⟨[⟨"tree", by decide +kernel⟩], rfl⟩

theorem namesFiles_branchTip : branchTip.NamesFiles :=
  Descriptor.namesFiles_of_isIdentifier (by decide +kernel)
    ⟨[⟨"tree", by decide +kernel⟩, ⟨"branch", by decide +kernel⟩], by decide⟩

/-- The class for `branch` is packed from its path, and no file of it is one for `branchTip`. -/
theorem outputPath_classEntry_branch : branch.NamesFiles ∧ branchTip.NamesFiles ∧
    Settings.outputPath {} (.ofText "out") branch classExtension =
      (FilePath.ofText "out").belowAll ["tree", "BranchImpl.class"] ∧
    (∀ archive w, outcome (writeArchive {} branch (.ofText "out") archive) w = outcome (do
      match ← writeOrCleanUp (.noArchive archive.text) archive
        (packInto archive (Settings.outputPath {} (.ofText "out") branch classExtension)
          "tree/BranchImpl.class"
          (w.classYear (Settings.outputPath {} (.ofText "out") branch ".java"))) with
      | some fault => throw (.misdated fault)
      | none => return) w) ∧
    (∀ extension, Settings.outputPath {} (.ofText "out") branch extension ≠
      Settings.outputPath {} (.ofText "out") branchTip extension) ∧
    Settings.classEntry {} branch ≠ Settings.classEntry {} branchTip := by
  have hentry : Settings.classEntry {} branch = "tree/BranchImpl.class" := by decide
  have hsegments : splitSlashes "tree/BranchImpl.class" = ["tree", "BranchImpl.class"] := by decide
  obtain ⟨hpath, hpacked, hpaths, hentries⟩ := Settings.outputPath_classEntry {} namesFiles_branch
    namesFiles_branchTip (.ofText "out")
  rw [hentry, hsegments] at hpath
  rw [hentry] at hpacked
  have hne : Settings.classEntry {} branch ≠ Settings.classEntry {} branchTip :=
    fun h => absurd (hentries.1 h).1 (by decide)
  exact ⟨namesFiles_branch, namesFiles_branchTip, hpath, hpacked,
    fun extension h => hne ((hpaths extension).1 h), hne⟩

end Skeletal
