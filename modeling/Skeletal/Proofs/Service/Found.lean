import Mathlib.Data.List.Flatten
import Mathlib.Data.List.Pairwise
import Skeletal.Proofs.FileTree.NullFree
import Skeletal.Proofs.Load.Reread
import Skeletal.Proofs.Service.Layout

/-!
# Files found again

Where files are laid out, discovery finds those whose packages have no directory that is not
entered, in an order of its own (`Laid.sourcesBelow_perm`). Their units are those that were
submitted, but for line ends, names and origins. So the registry of the discovered sources says the
same as that of the submitted ones if discovery enters the directories of all files with types
(`Laid.exists_registry`), and only then (`Laid.allEntered`).
-/

set_option autoImplicit false

namespace Skeletal.Service

variable {file : SourceFile} {files : List SourceFile} {directory : String} {base : List String}
  {tree before : FileTree} {r : Registry}

namespace SourceFile

/-- No directory on the way to the file is one that discovery does not enter. -/
def IsEntered (file : SourceFile) : Prop :=
  ∀ name ∈ packageSegments file.package, isSkippedDirectory name = false

instance (file : SourceFile) : Decidable file.IsEntered := inferInstanceAs (Decidable (∀ _ ∈ _, _))

/-- Text of the file when it is read again. -/
def unified (file : SourceFile) : String := String.ofList (Text.unifyLineEnds file.code.toList)

/-- Source unit of the file when it is found below a root. -/
def unitBelow (workingDirectory : String) (root : SourceRoot) (file : SourceFile) : SourceUnit :=
  { code := file.unified
    filename := some (root.textBelow file.relativePath)
    origin := some (root.origin workingDirectory) }

theorem isDiscovered_relativePath (h : isSourceName file.baseName = true) :
    FileTree.isDiscovered file.relativePath = true ↔ file.IsEntered := by
  rw [FileTree.isDiscovered, relativePath, List.getLastD_concat, h, List.dropLast_concat,
    Bool.true_and, List.all_eq_true]
  simp [IsEntered]

end SourceFile

/-- Discovery looks at the place of the root. -/
theorem eq_place_of_rootLocation? {root : SourceRoot} {location : Location}
    (h : tree.rootLocation? root = some location) : location = root.path.place := by
  rw [FileTree.rootLocation?] at h
  split_ifs at h
  cases hlocate : tree.locate root.path with
  | error fault =>
      rw [hlocate] at h
      cases h
  | ok place =>
      simp only [hlocate] at h
      split_ifs at h
      obtain rfl := Option.some.inj h
      exact (FileTree.locate_eq_ok_iff.1 hlocate).2.2

theorem rootLocation?_of_entryAt? (root : SourceRoot) (htext : root.text ≠ "")
    (h : tree.entryAt? root.path = some .directory) :
    tree.rootLocation? root = some root.path.place := by
  obtain ⟨hlocate, hdirectory⟩ := FileTree.entryAt?_eq_some_iff.1 h
  rw [FileTree.rootLocation?, if_neg htext, hlocate]
  simp [FileTree.isDirectory, hdirectory]

theorem text_within_ne_empty (directory : String) (hne : base ≠ []) :
    FilePath.text ⟨.within directory, base⟩ ≠ "" := by
  obtain ⟨name, rest, rfl⟩ := List.exists_cons_of_ne_nil hne
  intro hempty
  have hslash : '/' ∈ (directory ++ "/" ++ "/".intercalate (name :: rest)).toList := by simp
  rw [show directory ++ "/" ++ "/".intercalate (name :: rest) = "" from hempty] at hslash
  exact absurd hslash List.not_mem_nil

section

variable (h : Laid directory base before files tree)

include h

/-- The sources below the location, in some order. -/
theorem Laid.sourcesBelow_perm (hname : ∀ file ∈ files, isSourceName file.baseName = true) :
    (tree.sourcesBelow base).Perm
      ((files.filter fun file => file.IsEntered).map SourceFile.relativePath) := by
  rw [FileTree.sourcesBelow, h.found, List.filter_map]
  refine (List.mergeSort_perm _ _).trans (List.Perm.of_eq (congrArg _ ?_))
  refine List.filter_congr fun file hfile => ?_
  rw [Function.comp_apply, Bool.eq_iff_iff, SourceFile.isDiscovered_relativePath (hname file hfile)]
  simp

/-- The sources below the location are discovered. -/
theorem Laid.discover_eq (hbase : ∀ name ∈ base, IsFileName name) (hne : base ≠ []) :
    tree.discover (SourceRoot.ofPath ⟨.within directory, base⟩) =
      (tree.sourcesBelow base).map fun path =>
        ((SourceRoot.ofPath ⟨.within directory, base⟩).textBelow path, base ++ path) := by
  rw [FileTree.discover]
  cases hroot : tree.rootLocation? (SourceRoot.ofPath ⟨.within directory, base⟩) with
  | some location =>
      obtain rfl : location = base := (eq_place_of_rootLocation? hroot).trans (place_within hbase)
      rfl
  | none =>
      -- nothing is laid out, or the root would stand
      rcases files with _ | ⟨file, rest⟩
      · have hnone : tree.sourcesBelow base = [] := by
          rw [FileTree.sourcesBelow, h.found, List.map_nil, List.filter_nil, List.mergeSort_nil]
        rw [hnone]
        rfl
      · have hstands := h.stands (List.cons_ne_nil file rest)
        have hroot' := rootLocation?_of_entryAt? (SourceRoot.ofPath ⟨.within directory, base⟩)
          (text_within_ne_empty directory hne) hstands
        rw [hroot] at hroot'
        cases hroot'

/-- A file that is laid out is read as its unit. -/
theorem Laid.readSource_eq (hfile : file ∈ files) (workingDirectory : String) (root : SourceRoot) :
    readSource tree (root.origin workingDirectory)
        (root.textBelow file.relativePath, base ++ file.relativePath) =
      .inl (file.unitBelow workingDirectory root) := by
  simp only [readSource, h.contents file hfile, Content.read]
  rfl

/-- All that is found below the root are the units of the files that discovery enters. -/
theorem Laid.readRoot_perm (hbase : ∀ name ∈ base, IsFileName name) (hne : base ≠ [])
    (hname : ∀ file ∈ files, isSourceName file.baseName = true) (workingDirectory : String) :
    (readRoot tree workingDirectory (SourceRoot.ofPath ⟨.within directory, base⟩)).Perm
      ((files.filter fun file => file.IsEntered).map fun file =>
        .inl (file.unitBelow workingDirectory (SourceRoot.ofPath ⟨.within directory, base⟩))) := by
  rw [readRoot, h.discover_eq hbase hne, List.map_map]
  refine ((h.sourcesBelow_perm hname).map _).trans (List.Perm.of_eq ?_)
  rw [List.map_map]
  refine List.map_congr_left fun file hfile => ?_
  exact h.readSource_eq (List.mem_of_mem_filter hfile) workingDirectory _

/-- The registry of the sources below the root is loaded from the units of the files that discovery
enters, in some order. -/
theorem Laid.exists_ofRoots (hbase : ∀ name ∈ base, IsFileName name) (hne : base ≠ [])
    (hname : ∀ file ∈ files, isSourceName file.baseName = true)
    (hnull : FilePath.NullFree ⟨.within directory, base⟩) (workingDirectory : String) :
    ∃ units : List SourceUnit,
      units.Perm ((files.filter fun file => file.IsEntered).map fun file =>
        file.unitBelow workingDirectory (SourceRoot.ofPath ⟨.within directory, base⟩)) ∧
      Registry.ofRoots tree workingDirectory [SourceRoot.ofPath ⟨.within directory, base⟩] =
        Registry.load false units := by
  have hperm := h.readRoot_perm hbase hne hname workingDirectory
  refine ⟨readable (readRoot tree workingDirectory (SourceRoot.ofPath ⟨.within directory, base⟩)),
    ?_, ?_⟩
  · refine (hperm.filterMap _).trans (List.Perm.of_eq ?_)
    rw [List.filterMap_map]
    exact congrFun List.filterMap_eq_map _
  · have hall : unreadable (readRoot tree workingDirectory
        (SourceRoot.ofPath ⟨.within directory, base⟩)) = [] := by
      refine List.Perm.eq_nil ((hperm.filterMap _).trans (List.Perm.of_eq ?_))
      rw [List.filterMap_map]
      exact List.filterMap_eq_nil_iff.2 fun _ _ => rfl
    have hchecked : ([SourceRoot.ofPath ⟨.within directory, base⟩].any
        fun root => root.text.toList.contains '\x00') = false := by
      have hnot : '\x00' ∉ (FilePath.text ⟨.within directory, base⟩).toList := hnull
      simp [SourceRoot.ofPath, hnot]
    rw [Registry.ofRoots, hchecked]
    simp only [Bool.false_eq_true, if_false, List.flatMap_cons, List.flatMap_nil, List.append_nil,
      hall]
    cases Registry.load false
      (readable (readRoot tree workingDirectory (SourceRoot.ofPath ⟨.within directory, base⟩))) with
    | error e => rfl
    | ok r => rfl

end

/-! ## Registries of files that are found again -/

/-- The files load, their names are names of sources, no two have one place, and no two declare a
type in common. -/
structure Submitted (files : List SourceFile) (r : Registry) : Prop where
  loads : Registry.load true (files.map SourceFile.unit) = .ok r
  named : ∀ file ∈ files, isSourceName file.baseName = true
  places : (files.map fun file => (file.package, file.baseName)).Nodup
  apart : files.Pairwise fun a b => a.unit.declaredNames.Disjoint b.unit.declaredNames

/-- The files say the same when their line ends are made one, and no two of their types share a
binary name. -/
structure ReadAlike (files : List SourceFile) : Prop where
  lines : ∀ file ∈ files, Source.parse file.unified = Source.parse file.code
  binary : (files.flatMap fun file => file.unit.declaredBinaryNames).Nodup

/-- Discovery enters the directories of all files with types. -/
def AllEntered (files : List SourceFile) : Prop :=
  ∀ file ∈ files, file.unit.declaredNames ≠ [] → file.IsEntered

instance (files : List SourceFile) : Decidable (AllEntered files) :=
  inferInstanceAs (Decidable (∀ _ ∈ _, _))

/-- A file without carriage returns is read as it was written. -/
theorem SourceFile.unified_of_not_mem (h : '\r' ∉ file.code.toList) : file.unified = file.code := by
  have hsame : ∀ text : List Char, '\r' ∉ text → Text.unifyLineEnds text = text := by
    intro text htext
    fun_induction Text.unifyLineEnds text with
    | case1 rest => exact absurd List.mem_cons_self htext
    | case2 rest => exact absurd List.mem_cons_self htext
    | case3 c rest _ _ ih => rw [ih fun hrest => htext (List.mem_cons_of_mem c hrest)]
    | case4 => rfl
  rw [SourceFile.unified, hsame _ h, String.ofList_toList]

/-- No two files of different places or packages have one path. -/
theorem Submitted.nodup_relativePath (h : Submitted files r) :
    (files.map SourceFile.relativePath).Nodup := by
  have hplaces := List.pairwise_map.1 h.places
  refine List.pairwise_map.2 (hplaces.imp fun hne hsame => hne ?_)
  obtain ⟨hpackage, hname⟩ := relativePath_inj hsame
  exact Prod.ext hpackage hname

/-- Units that were found have the contents of the files. -/
theorem content_perm {units : List SourceUnit} {entered : List SourceFile}
    (hlines : ∀ file ∈ entered, Source.parse file.unified = Source.parse file.code)
    {workingDirectory : String} {root : SourceRoot}
    (h : units.Perm (entered.map fun file => file.unitBelow workingDirectory root)) :
    ((entered.map SourceFile.unit).map SourceUnit.content).Perm (units.map SourceUnit.content) := by
  refine List.Perm.trans (List.Perm.of_eq ?_) (h.symm.map SourceUnit.content)
  rw [List.map_map, List.map_map]
  exact List.map_congr_left fun file hfile => (hlines file hfile).symm

section

variable (h : Laid directory base before files tree) (hsubmitted : Submitted files r)
  (hread : ReadAlike files) (hbase : ∀ name ∈ base, IsFileName name) (hne : base ≠ [])
  (hnull : FilePath.NullFree ⟨.within directory, base⟩)

include h hsubmitted hread hbase hne hnull

/-- The registry of the sources below the root says the same as that of the submitted files, if
discovery enters the directories of all files with types. -/
theorem Laid.exists_registry (hentered : AllEntered files) (workingDirectory : String) :
    ∃ units r', Registry.ofRoots tree workingDirectory
          [SourceRoot.ofPath ⟨.within directory, base⟩] = .ok r' ∧
      Registry.load false units = .ok r' ∧ r'.skipped = [] ∧ r.LoadedAlike r' ∧
      ∀ name, ResolvedAlike (r.resolve name) (r'.resolve name) := by
  obtain ⟨units, hperm, hroots⟩ :=
    h.exists_ofRoots hbase hne hsubmitted.named hnull workingDirectory
  have hload := Registry.load_filter hsubmitted.loads fun file hfile hnames =>
    decide_eq_true (hentered file hfile hnames)
  have hsub : (files.filter fun file => file.IsEntered).Sublist files := List.filter_sublist
  have hcontent := content_perm (fun file hfile => hread.lines file (hsub.subset hfile)) hperm
  have hbinary := (hsub.flatMap fun file => file.unit.declaredBinaryNames).nodup hread.binary
  obtain ⟨r', hload', hrest⟩ := Registry.load_again hload hcontent
    (List.pairwise_map.2 (hsubmitted.apart.sublist hsub)) (by rwa [List.flatMap_map])
  exact ⟨units, r', hroots.trans hload', hload', hrest⟩

/-- The registry of the sources below the root has all types of the submitted files only if
discovery enters their directories. -/
theorem Laid.allEntered {r' : Registry} {workingDirectory : String}
    (hroots : Registry.ofRoots tree workingDirectory
      [SourceRoot.ofPath ⟨.within directory, base⟩] = .ok r')
    (halike : r.LoadedAlike r') : AllEntered files := by
  obtain ⟨units, hperm, hsame⟩ :=
    h.exists_ofRoots hbase hne hsubmitted.named hnull workingDirectory
  have hsub : (files.filter fun file => file.IsEntered).Sublist files := List.filter_sublist
  have hcontent := content_perm (fun file hfile => hread.lines file (hsub.subset hfile)) hperm
  have hapart : (files.map SourceFile.unit).Pairwise
      fun a b => a.declaredNames.Disjoint b.declaredNames := List.pairwise_map.2 hsubmitted.apart
  have hapart' := pairwise_disjoint_of_perm hcontent
    (List.pairwise_map.2 (hsubmitted.apart.sublist hsub))
  intro file hfile hnames
  obtain ⟨name, hname⟩ := List.exists_mem_of_ne_nil _ hnames
  -- a name of the file is one of a file that was entered
  have hsome := (Registry.isSome_summary?_of_load hsubmitted.loads hapart name).2
    ⟨file.unit, List.mem_map_of_mem hfile, hname⟩
  rw [← Option.isSome_map, halike name, Option.isSome_map,
    Registry.isSome_summary?_of_load (hsame.symm.trans hroots) hapart'] at hsome
  obtain ⟨unit, hunit, hfound⟩ := hsome
  have hnamesPerm := (perm_declaredNames hcontent).mem_iff.2 (List.mem_map_of_mem hunit)
  rw [List.map_map, List.mem_map] at hnamesPerm
  obtain ⟨other, hother, hdeclared⟩ := hnamesPerm
  obtain ⟨hmem, hentered⟩ := List.mem_filter.1 hother
  have hname' : name ∈ other.unit.declaredNames := (congrArg (name ∈ ·) hdeclared).mpr hfound
  -- which is the file itself
  have heq : file = other := by
    by_contra hdifferent
    have : Std.Symm fun a b : SourceFile => a.unit.declaredNames.Disjoint b.unit.declaredNames :=
      ⟨fun _ _ hdisjoint => hdisjoint.symm⟩
    exact hsubmitted.apart.forall hfile hmem hdifferent hname hname'
  exact heq ▸ of_decide_eq_true hentered

end

end Skeletal.Service
