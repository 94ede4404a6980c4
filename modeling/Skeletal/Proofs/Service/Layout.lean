import Skeletal.Proofs.FileTree.Created
import Skeletal.Proofs.Load.Offered
import Skeletal.Service.Implementation

/-!
# Files laid out by their packages

A submitted file goes into the directory of its package, under the last segment of its name. If the
system takes all paths and no two files have one place, all files are laid out, and the files below
the directory are the submitted ones (`Laid`, `laid_foldlM_placeFile`).
-/

set_option autoImplicit false

namespace Skeletal.Service

open FileTree (AddsDirectories Clear isGiven)

/-! ## Places -/

namespace SourceFile

/-- Package that the file declares. -/
def package (file : SourceFile) : String :=
  match Source.parse file.code with
  | .ok content => content.package
  | .error _ => ""

/-- Last segment of the name of the file. -/
def baseName (file : SourceFile) : String := (FilePath.ofText file.filename).name

/-- Path of the file below the directory that it is laid out in. -/
def relativePath (file : SourceFile) : List String :=
  packageSegments file.package ++ [file.baseName]

end SourceFile

variable {file file' : SourceFile} {files placed : List SourceFile} {directory : String}
  {base path : List String} {tree tree' before : FileTree} {w : Workshop} {location : Location}

theorem isPackageName_package (file : SourceFile) : Source.IsPackageName file.package := by
  rw [SourceFile.package]
  cases Source.parse file.code with
  | ok content => exact content.isPackageName_package
  | error e => exact ⟨[], rfl⟩

theorem isIdentifier_of_mem_package {segment : String}
    (h : segment ∈ packageSegments file.package) : Source.isIdentifier segment = true :=
  isIdentifier_of_mem_packageSegments (isPackageName_package file) h

theorem isFileName_of_mem_package {segment : String}
    (h : segment ∈ packageSegments file.package) : IsFileName segment :=
  isFileName_of_mem_packageSegments (isPackageName_package file) h

/-- The name of a source file is no directory of a package. -/
theorem isSourceName_ne_identifier {name : String} (h : isSourceName name = true) :
    Source.isIdentifier name = false := by
  rw [Bool.eq_false_iff]
  intro hidentifier
  have hdot : '.' ∈ name.toList := by
    have hsuffix := List.isSuffixOf_iff_suffix.1 h
    exact hsuffix.subset (by decide)
  exact absurd (isIdentifierPart_of_isIdentifier hidentifier hdot) (by decide +kernel)

/-- No file is laid out in the place of a directory. -/
theorem not_prefix_package (h : isSourceName file.baseName = true) (file' : SourceFile) :
    ¬ file.relativePath <+: packageSegments file'.package := by
  intro hstart
  have hmem : file.baseName ∈ file.relativePath :=
    List.mem_append_right _ (List.mem_singleton_self file.baseName)
  have hidentifier := isIdentifier_of_mem_package (hstart.subset hmem)
  rw [isSourceName_ne_identifier h] at hidentifier
  exact Bool.false_ne_true hidentifier

/-- The last segment of a name has no slash. -/
theorem slash_not_mem_baseName (file : SourceFile) : '/' ∉ file.baseName.toList := by
  rw [SourceFile.baseName, FilePath.name, List.getLastD_eq_getLast?]
  cases hlast : (FilePath.ofText file.filename).segments.getLast? with
  | none => decide
  | some name =>
      have hmem : name ∈ splitSlashes file.filename :=
        List.mem_of_mem_filter (List.mem_of_getLast? hlast)
      exact Text.not_mem_of_mem_partsAt hmem

theorem isFileName_baseName (h : isSourceName file.baseName = true) : IsFileName file.baseName := by
  refine ⟨slash_not_mem_baseName file, fun hmem => ?_⟩
  have hnone : ∀ name ∈ ["", ".", ".."], isSourceName name = false := by decide
  rw [hnone _ hmem] at h
  exact Bool.false_ne_true h

theorem isFileName_of_mem_relativePath (h : isSourceName file.baseName = true) :
    ∀ name ∈ file.relativePath, IsFileName name := by
  intro name hname
  rcases List.mem_append.1 hname with hname | hname
  · exact isFileName_of_mem_package hname
  · rw [List.mem_singleton.1 hname]
    exact isFileName_baseName h

theorem relativePath_inj (h : file.relativePath = file'.relativePath) :
    file.package = file'.package ∧ file.baseName = file'.baseName := by
  obtain ⟨hpackage, hname⟩ := List.append_inj' h rfl
  exact ⟨packageSegments_inj hpackage, List.singleton_inj.1 hname⟩

/-! ## Computations -/

theorem runFrom_ofResult {ε α : Type} (refuse : ε → Response) (result : Except ε α) (w : Workshop) :
    runFrom (ofResult refuse result) w =
      match result with
      | .ok a => (.ok a, w)
      | .error e => (.error (refuse e), w) := by
  cases result with
  | ok a => rfl
  | error e => rfl

theorem runFrom_onFiles {α : Type} (action : FileAction α) (w : Workshop) :
    runFrom (onFiles action) w =
      match runFrom action w.tree with
      | (.ok a, tree) => (.ok a, { w with tree })
      | (.error _, tree) => (.error .unforeseen, { w with tree }) := by
  rw [onFiles, runFrom_bind, runFrom_get]
  rcases hrun : runFrom action w.tree with ⟨e | a, tree⟩
  · rw [runFrom] at hrun
    simp only [hrun]
    rfl
  · rw [runFrom] at hrun
    simp only [hrun]
    rfl

/-! ## Laying out -/

/-- Path of a file that is laid out below a directory. -/
def SourceFile.pathBelow (directory : String) (base : List String) (file : SourceFile) : FilePath :=
  ⟨.within directory, base ++ file.relativePath⟩

/-- The files are laid out below a location: they are the files there, and the directories there are
those of their packages. All else is as it was before. -/
structure Laid (directory : String) (base : List String) (before : FileTree)
    (files : List SourceFile) (tree : FileTree) : Prop where
  found : tree.filesBelow base = files.map SourceFile.relativePath
  contents : ∀ file ∈ files,
    tree.lookup? (base ++ file.relativePath) = some (.file (.text file.code))
  stands : files ≠ [] → tree.entryAt? ⟨.within directory, base⟩ = some .directory
  only : ∀ path entry, tree.lookup? (base ++ path) = some entry →
    (∃ file ∈ files, path = file.relativePath) ∨
      entry = .directory ∧ ∃ file ∈ files, path <+: packageSegments file.package
  outside : ∀ location, ¬ base <+: location → tree.lookup? location = before.lookup? location

/-- Nothing stands below a location, and directories lead up to it. -/
structure Vacant (base : List String) (before : FileTree) : Prop where
  names : ∀ name ∈ base, IsFileName name
  way : ∀ way, way <+: base → way ≠ base → before.lookup? way = some .directory
  free : ∀ e ∈ before.entries, ¬ base <+: e.1

theorem place_within (h : ∀ name ∈ base, IsFileName name) :
    FilePath.place ⟨.within directory, base⟩ = base :=
  FileTree.place_of_names h (.within directory)

/-- The way to the directory of a package leads through places of its names. -/
theorem place_way {way : List String} (hbase : ∀ name ∈ base, IsFileName name)
    (hway : way <+: base ++ packageSegments file.package) :
    FilePath.place ⟨.within directory, way⟩ = way :=
  place_within fun name hname => (List.mem_append.1 (hway.subset hname)).elim (hbase name)
    isFileName_of_mem_package

theorem Vacant.lookup? (h : Vacant base before) (hne : base ≠ []) (hbelow : base <+: location) :
    before.lookup? location = none := by
  obtain ⟨name, hname⟩ := List.exists_mem_of_ne_nil base hne
  have hgiven := FileTree.not_isGiven_of_mem (h.names name hname) (hbelow.subset hname)
  rw [FileTree.lookup?_of_not_isGiven hgiven, List.lookup_eq_none_iff]
  intro e he
  rw [bne_iff_ne]
  rintro rfl
  exact h.free e he hbelow

theorem Vacant.laid_nil (h : Vacant base before) (hne : base ≠ []) :
    Laid directory base before [] before where
  found := by
    rw [List.map_nil, FileTree.filesBelow, List.filterMap_eq_nil_iff]
    intro e he
    have hnot : base.isPrefixOf e.1 = false := by
      rw [Bool.eq_false_iff, Ne, List.isPrefixOf_iff_prefix]
      exact h.free e he
    rw [hnot]
    cases e.2 with
    | directory => rfl
    | file content => rfl
  contents file hfile := absurd hfile List.not_mem_nil
  stands h := absurd rfl h
  only path entry hlookup := by
    rw [h.lookup? hne (List.prefix_append _ _)] at hlookup
    cases hlookup
  outside _ _ := rfl

/-- What starts two lists in turn ends in the first or in the second. -/
theorem prefix_append_cases {α : Type} {way l r : List α} (h : way <+: l ++ r) :
    way <+: l ∧ way ≠ l ∨ ∃ more, more <+: r ∧ way = l ++ more := by
  obtain ⟨rest, hrest⟩ := h
  rcases List.append_eq_append_iff.1 hrest with ⟨more, rfl, -⟩ | ⟨more, rfl, hmore⟩
  · by_cases hmore : more = []
    · subst hmore
      exact Or.inr ⟨[], List.nil_prefix, by simp⟩
    · refine Or.inl ⟨List.prefix_append _ _, fun heq => hmore ?_⟩
      simpa using heq
  · exact Or.inr ⟨more, ⟨rest, hmore.symm⟩, rfl⟩

section

variable (h : Laid directory base before placed tree) (hbefore : Vacant base before)
  (hplaced : ∀ file ∈ placed, isSourceName file.baseName = true)

include h hbefore hplaced

/-- No file stands on the way to a package. -/
theorem Laid.clear (hfits : (file.pathBelow directory base).FitsWhole) :
    tree.Clear ⟨.within directory, base ++ packageSegments file.package⟩ := by
  rw [SourceFile.pathBelow, SourceFile.relativePath, ← List.append_assoc] at hfits
  refine ⟨hfits.of_append, ?_⟩
  rintro _ ⟨way, hway, rfl⟩ content hfile
  rw [place_way hbefore.names hway] at hfile
  -- above the base there are directories, and below it only the files that are laid out
  rcases prefix_append_cases hway with ⟨hstart, hne⟩ | ⟨more, hmore, rfl⟩
  · have houtside : ¬ base <+: way := fun hlonger =>
      hne (hstart.eq_of_length_le hlonger.length_le)
    rw [h.outside way houtside, hbefore.way way hstart hne] at hfile
    cases hfile
  · rcases h.only more _ hfile with ⟨other, hother, rfl⟩ | ⟨hdirectory, -⟩
    · exact not_prefix_package (hplaced other hother) file hmore
    · cases hdirectory

omit hbefore hplaced in
/-- The place of a file is free if none of the files that are laid out has it. -/
theorem Laid.lookup?_eq_none (hname : isSourceName file.baseName = true)
    (hnew : file.relativePath ∉ placed.map SourceFile.relativePath) :
    tree.lookup? (base ++ file.relativePath) = none := by
  cases hlookup : tree.lookup? (base ++ file.relativePath) with
  | none => rfl
  | some entry =>
      rcases h.only _ entry hlookup with ⟨other, hother, hsame⟩ | ⟨-, other, -, hstart⟩
      · exact absurd (hsame ▸ List.mem_map_of_mem hother) hnew
      · exact absurd hstart (not_prefix_package hname other)

omit h hplaced in
/-- Directories that are added on the way to a package are on the way to what is laid out, or below
it. -/
theorem lookup?_of_addsDirectories
    (hadds : AddsDirectories ⟨.within directory, base ++ packageSegments file.package⟩ tree tree')
    (location : Location) : tree'.lookup? location = tree.lookup? location ∨
      tree.lookup? location = none ∧ tree'.lookup? location = some .directory ∧
        location <+: base ++ packageSegments file.package := by
  refine (hadds location).imp_right fun ⟨hnone, hdirectory, way, hway, hplace⟩ => ?_
  rw [place_way hbefore.names hway] at hplace
  exact ⟨hnone, hdirectory, hplace ▸ hway⟩

omit hplaced in
/-- Files that are laid out stay so when a file is put into the directory of its package. -/
theorem Laid.insert (hname : isSourceName file.baseName = true)
    (hnew : file.relativePath ∉ placed.map SourceFile.relativePath)
    (hadds : AddsDirectories ⟨.within directory, base ++ packageSegments file.package⟩ tree tree')
    (hkeeps : FileTree.KeepsFiles tree tree')
    (hstands : tree'.entryAt? ⟨.within directory, base ++ packageSegments file.package⟩ =
      some .directory) :
    tree'.lookup? (base ++ file.relativePath) = none ∧
      Laid directory base before (placed ++ [file])
        (tree'.insert (base ++ file.relativePath) (.file (.text file.code))) := by
  have hlookup := lookup?_of_addsDirectories hbefore hadds
  have hnone : tree'.lookup? (base ++ file.relativePath) = none := by
    rcases hlookup (base ++ file.relativePath) with hsame | ⟨-, -, hstart⟩
    · rw [hsame, h.lookup?_eq_none hname hnew]
    · exact absurd ((List.prefix_append_right_inj base).1 hstart) (not_prefix_package hname file)
  have hfree : tree'.lookup? (base ++ file.relativePath) ≠ some .directory :=
    hnone ▸ (Option.some_ne_none _).symm
  have hgiven := FileTree.not_isGiven_of_lookup? hfree
  -- the directories that were added hold no files, and the file that is put comes last
  refine ⟨hnone, ?_, ?_, ?_, ?_, ?_⟩
  · rw [FileTree.filesBelow_insert_file (by simp [SourceFile.relativePath]) hnone, hkeeps, h.found,
      List.map_append, List.map_singleton]
  · intro other hother
    rw [FileTree.lookup?_insert hgiven]
    rcases List.mem_append.1 hother with hother | hother
    · have hne : base ++ other.relativePath ≠ base ++ file.relativePath := by
        intro heq
        rw [List.append_cancel_left_eq] at heq
        exact hnew (heq ▸ List.mem_map_of_mem hother)
      rw [if_neg hne]
      exact hadds.lookup? (h.contents other hother)
    · rw [List.mem_singleton.1 hother, if_pos rfl]
  · intro _
    exact FileTree.entryAt?_directory_mono (FileTree.entryAt?_of_append hstands)
      (FileTree.confined_insert hfree _).directory
  · intro path entry hentry
    rw [FileTree.lookup?_insert hgiven] at hentry
    split_ifs at hentry with heq
    · exact Or.inl ⟨file, by simp, List.append_cancel_left heq⟩
    · rcases hlookup (base ++ path) with hsame | ⟨-, hdirectory, hstart⟩
      · rw [hsame] at hentry
        refine (h.only path entry hentry).imp ?_ (And.imp_right ?_)
        · exact fun ⟨other, hother, hpath⟩ => ⟨other, List.mem_append_left _ hother, hpath⟩
        · exact fun ⟨other, hother, hpath⟩ => ⟨other, List.mem_append_left _ hother, hpath⟩
      · rw [hdirectory] at hentry
        exact Or.inr ⟨(Option.some.inj hentry).symm, file, by simp,
          (List.prefix_append_right_inj base).1 hstart⟩
  · intro location hnot
    have hne : location ≠ base ++ file.relativePath :=
      fun heq => hnot (heq ▸ List.prefix_append _ _)
    rw [FileTree.lookup?_insert hgiven, if_neg hne]
    rcases hlookup location with hsame | ⟨hmissing, -, hstart⟩
    · rw [hsame, h.outside location hnot]
    · -- the directories on the way to what is laid out were there before
      rcases prefix_append_cases hstart with ⟨hway, hproper⟩ | ⟨more, -, rfl⟩
      · rw [h.outside location hnot, hbefore.way location hway hproper] at hmissing
        cases hmissing
      · exact absurd (List.prefix_append _ _) hnot

/-- A file is laid out beside those that are, if the system takes its path and its place is new. -/
theorem runFrom_placeFile (w : Workshop) (hw : w.tree = tree)
    (hparse : (Source.parse file.code).isOk = true)
    (hname : isSourceName file.baseName = true) (hfits : (file.pathBelow directory base).FitsWhole)
    (hnew : file.relativePath ∉ placed.map SourceFile.relativePath) :
    ∃ tree', runFrom (placeFile ⟨.within directory, base⟩
          ((placed.map (SourceFile.pathBelow directory base)).reverse) file) w =
        (.ok (((placed ++ [file]).map (SourceFile.pathBelow directory base)).reverse),
          { w with tree := tree' }) ∧
      Laid directory base before (placed ++ [file]) tree' := by
  have hpackage : packageDirectory ⟨.within directory, base⟩ file.package =
      ⟨.within directory, base ++ packageSegments file.package⟩ :=
    FilePath.belowAll_of_isFileName (fun _ => isFileName_of_mem_package) _
  have htarget : FilePath.below ⟨.within directory, base ++ packageSegments file.package⟩
      (FilePath.ofText file.filename).name = file.pathBelow directory base := by
    rw [SourceFile.pathBelow, SourceFile.relativePath, ← List.append_assoc]
    exact FilePath.below_of_isFileName (isFileName_baseName hname) _
  have hfree : file.pathBelow directory base ∉
      (placed.map (SourceFile.pathBelow directory base)).reverse := by
    rw [List.mem_reverse, List.mem_map]
    rintro ⟨other, hother, hsame⟩
    have hsegments := List.append_cancel_left (congrArg FilePath.segments hsame)
    exact hnew (hsegments ▸ List.mem_map_of_mem hother)
  -- the directory of the package is created first
  obtain ⟨tree₁, hcreate⟩ := FileAction.exists_ensureDirectories (h.clear hbefore hplaced hfits)
  have hadds := (FileAction.moves_ensureDirectories _).of_run hcreate
  have hkeeps := (FileAction.keepsFiles_ensureDirectories _).of_run hcreate
  have hstands := FileAction.ensureDirectories_ok hcreate
  obtain ⟨hnone, hlaid⟩ := h.insert hbefore hname hnew hadds hkeeps hstands
  -- and then the file is written
  have hplace : (file.pathBelow directory base).place = base ++ file.relativePath :=
    place_within fun name hmem => (List.mem_append.1 hmem).elim (hbefore.names name)
      (isFileName_of_mem_relativePath hname name)
  have hwrite : runFrom (FileAction.write (file.pathBelow directory base) (.text file.code)) tree₁ =
      (.ok (), tree₁.insert (base ++ file.relativePath) (.file (.text file.code))) := by
    have hleads : tree₁.LeadsUpTo (file.pathBelow directory base) :=
      FileTree.leadsUpTo_of_entryAt? hstands rfl
        (by simp [SourceFile.pathBelow, SourceFile.relativePath, ← List.append_assoc])
    rcases FileAction.write_of_leadsUpTo hleads (.text file.code) with ⟨hbars, -, -⟩ | ⟨-, hrun⟩
    · rcases hbars with hfault | hdirectory
      · exact absurd hfits.fits hfault
      · rw [FileTree.entryAt?_eq_some_iff, hplace, hnone] at hdirectory
        cases hdirectory.2
    · rw [hrun, hplace]
  refine ⟨_, ?_, hlaid⟩
  cases hcontent : Source.parse file.code with
  | error e =>
      rw [hcontent] at hparse
      cases hparse
  | ok content =>
      have hsame : content.package = file.package := by rw [SourceFile.package, hcontent]
      rw [placeFile]
      simp only [hcontent, runFrom_bind, runFrom_ofResult, hsame, hpackage, htarget]
      rw [if_neg hfree]
      simp only [runFrom_bind, runFrom_pure, runFrom_onFiles, hw, hcreate, hwrite]
      simp

end

/-- Files are laid out one after another. -/
theorem laid_foldlM_placeFile (hbefore : Vacant base before) (placed : List SourceFile)
    (hparse : ∀ file ∈ files, (Source.parse file.code).isOk = true)
    (hname : ∀ file ∈ files, isSourceName file.baseName = true)
    (hfits : ∀ file ∈ files, (file.pathBelow directory base).FitsWhole)
    (hplaced : ∀ file ∈ placed, isSourceName file.baseName = true)
    (hnew : ((placed ++ files).map SourceFile.relativePath).Nodup)
    (w : Workshop) (h : Laid directory base before placed w.tree) :
    ∃ tree', runFrom (files.foldlM (placeFile ⟨.within directory, base⟩)
          ((placed.map (SourceFile.pathBelow directory base)).reverse)) w =
        (.ok (((placed ++ files).map (SourceFile.pathBelow directory base)).reverse),
          { w with tree := tree' }) ∧
      Laid directory base before (placed ++ files) tree' := by
  -- the list that is threaded holds the paths of what is laid out so far, the last one first
  induction files generalizing placed w with
  | nil =>
      rw [List.append_nil]
      exact ⟨w.tree, rfl, h⟩
  | cons file rest ih =>
      have hfresh : file.relativePath ∉ placed.map SourceFile.relativePath := by
        rw [List.map_append, List.nodup_append] at hnew
        exact fun hmem => hnew.2.2 _ hmem _ List.mem_cons_self rfl
      obtain ⟨tree₁, hrun, hlaid⟩ := runFrom_placeFile h hbefore hplaced w rfl
        (hparse file List.mem_cons_self) (hname file List.mem_cons_self)
        (hfits file List.mem_cons_self) hfresh
      have hplaced' : ∀ f ∈ placed ++ [file], isSourceName f.baseName = true := fun f hf =>
        (List.mem_append.1 hf).elim (hplaced f) fun hlast =>
          List.mem_singleton.1 hlast ▸ hname file List.mem_cons_self
      obtain ⟨tree₂, hrest, hall⟩ := ih (placed ++ [file])
        (fun f hf => hparse f (List.mem_cons_of_mem _ hf))
        (fun f hf => hname f (List.mem_cons_of_mem _ hf))
        (fun f hf => hfits f (List.mem_cons_of_mem _ hf)) hplaced'
        (by simpa using hnew) { w with tree := tree₁ } hlaid
      rw [List.append_assoc, List.singleton_append] at hrest hall
      refine ⟨tree₂, ?_, hall⟩
      rw [List.foldlM_cons, runFrom_bind, hrun]
      exact hrest

end Skeletal.Service
