import Skeletal.Proofs.Service.Found
import Skeletal.Proofs.Service.Stages

/-!
# Room for submitted files

Where nothing stands in the place of the scratch directory and the system takes all paths
(`HasRoom`), the endpoint for archives lays out the files and finds a registry. It says the same as
that of the submitted files exactly if discovery enters the directories of all files with types
(`exists_archiveRegistry`, `allEntered_of_loadedAlike`). A type of the registry then comes as far as
the compiler (`exists_beforeCompiling_archive`), or it is rejected by synthesis.
-/

set_option autoImplicit false

namespace Skeletal.Service

variable {s : Settings} {files : List SourceFile} {r r' : Registry} {u : Universe} {t : TypeId}
  {scratch : FilePath} {w w' : Workshop} {tree : FileTree} {typeName filename : String}

/-- Nothing stands where the scratch directory is to be, and the system takes the paths of the files
in it, and that of the compiler's own scratch directory. -/
structure HasRoom (w : Workshop) (files : List SourceFile) : Prop where
  name : IsFileName w.scratchName
  free : ∀ e ∈ w.tree.entries, ¬ [w.scratchName] <+: e.1
  files : ∀ file ∈ files, (file.pathBelow w.workingDirectory [w.scratchName, "src"]).FitsWhole
  inner : FilePath.FitsWhole ⟨.within w.workingDirectory, [w.scratchName, "out", w.scratchName]⟩

/-- The files with the scratch directory, before files are laid out. -/
def emptied (w : Workshop) : FileTree := w.tree.insert [w.scratchName] .directory

section

variable (h : HasRoom w files)

include h

/-- Before it is created, nothing stands at or below the scratch directory. -/
theorem HasRoom.lookup?_tree {location : Location} (hbelow : [w.scratchName] <+: location) :
    w.tree.lookup? location = none := by
  have hmem : w.scratchName ∈ location := hbelow.subset (List.mem_singleton_self _)
  rw [FileTree.lookup?_of_not_isGiven (FileTree.not_isGiven_of_mem h.name hmem),
    List.lookup_eq_none_iff]
  intro e he
  rw [bne_iff_ne]
  rintro rfl
  exact h.free e he hbelow

theorem HasRoom.lookup?_emptied (location : Location) :
    (emptied w).lookup? location =
      if location = [w.scratchName] then some .directory else w.tree.lookup? location :=
  FileTree.lookup?_insert
    (FileTree.not_isGiven_of_mem h.name (List.mem_singleton_self _)) _ _

theorem HasRoom.makeDirectory :
    runFrom (FileAction.makeDirectory ⟨.within w.workingDirectory, [w.scratchName]⟩) w.tree =
      (.ok (), emptied w) := by
  have hfits : FilePath.FitsWhole ⟨.within w.workingDirectory, [w.scratchName]⟩ :=
    FilePath.FitsWhole.of_append h.inner
  have hplace : FilePath.place ⟨.within w.workingDirectory, [w.scratchName]⟩ = [w.scratchName] :=
    place_within (by simpa using h.name)
  have hgiven : w.tree.lookup? [] = some .directory := FileTree.lookup?_of_isGiven rfl
  have hlocate : w.tree.locate ⟨.within w.workingDirectory, [w.scratchName]⟩ =
      .ok (FilePath.place ⟨.within w.workingDirectory, [w.scratchName]⟩) :=
    FileTree.locate_eq_ok_iff.2 ⟨hfits.1, .cons hgiven (hfits.2 _ (by simp)) .nil, rfl⟩
  have hnone : w.tree.lookup?
      (FilePath.place ⟨.within w.workingDirectory, [w.scratchName]⟩) = none := by
    rw [hplace]
    exact h.lookup?_tree List.prefix_rfl
  rw [FileAction.makeDirectory_ok hlocate hnone, hplace, emptied]

/-- The files are laid out below an empty directory. -/
theorem HasRoom.vacant : Vacant [w.scratchName, "src"] (emptied w) where
  names := by
    have hsrc : IsFileName "src" := by decide
    simp [h.name, hsrc]
  way way hway hne := by
    rw [h.lookup?_emptied]
    rcases List.prefix_cons_iff.1 hway with rfl | ⟨rest, rfl, hrest⟩
    · rw [if_neg (List.cons_ne_nil _ _).symm]
      exact FileTree.lookup?_of_isGiven rfl
    · rcases List.prefix_cons_iff.1 hrest with rfl | ⟨rest, rfl, hnil⟩
      · exact if_pos rfl
      · rw [List.prefix_nil.1 hnil] at hne
        exact absurd rfl hne
  free e he hbelow := by
    rw [emptied, FileTree.entries_insert (h.lookup?_tree List.prefix_rfl), List.mem_append,
      List.mem_singleton] at he
    rcases he with he | rfl
    · exact h.free e he ((List.prefix_append [w.scratchName] ["src"]).trans hbelow)
    · exact absurd hbelow.length_le (by simp)

/-- Below the directory for archives, names lead to places of their own. -/
theorem HasRoom.isFileName {rest : List String} (hrest : ∀ name ∈ rest, IsFileName name) :
    ∀ name ∈ w.scratchName :: "out" :: rest, IsFileName name := by
  have hout : IsFileName "out" := by decide
  exact List.forall_mem_cons.2 ⟨h.name, List.forall_mem_cons.2 ⟨hout, hrest⟩⟩

variable (hlaid : Laid w.workingDirectory [w.scratchName, "src"] (emptied w) files tree)

include hlaid

/-- Nothing is laid out beside the sources. -/
theorem HasRoom.lookup?_laid (rest : List String) :
    tree.lookup? (w.scratchName :: "out" :: rest) = none := by
  have houtside : ¬ [w.scratchName, "src"] <+: w.scratchName :: "out" :: rest := by
    rw [List.prefix_cons_inj, List.cons_prefix_cons]
    exact fun hsame => absurd hsame.1 (by decide)
  rw [hlaid.outside _ houtside, h.lookup?_emptied, if_neg (by simp)]
  exact h.lookup?_tree (List.prefix_append _ _)

theorem HasRoom.lookup?_place {rest : List String} (hrest : ∀ name ∈ rest, IsFileName name) :
    tree.lookup? (FilePath.place ⟨.within w.workingDirectory, w.scratchName :: "out" :: rest⟩) =
      none := by
  rw [place_within (h.isFileName hrest)]
  exact h.lookup?_laid hlaid rest

/-- So the ways beside them are clear. -/
theorem HasRoom.clear {rest : List String} (hrest : ∀ name ∈ rest, IsFileName name)
    (hfits : FilePath.FitsWhole ⟨.within w.workingDirectory, w.scratchName :: "out" :: rest⟩) :
    tree.Clear ⟨.within w.workingDirectory, w.scratchName :: "out" :: rest⟩ := by
  refine ⟨hfits, ?_⟩
  rintro _ ⟨way, hway, rfl⟩ content hfile
  rw [place_within fun name hname => h.isFileName hrest name (hway.subset hname)] at hfile
  -- the anchor and the scratch directory are directories, and behind them nothing stands
  rcases List.prefix_cons_iff.1 hway with rfl | ⟨more, rfl, hmore⟩
  · rw [FileTree.lookup?_of_isGiven rfl] at hfile
    cases hfile
  · rcases List.prefix_cons_iff.1 hmore with rfl | ⟨more, rfl, -⟩
    · have houtside : ¬ [w.scratchName, "src"] <+: [w.scratchName] := fun hlonger =>
        absurd hlonger.length_le (by simp)
      rw [hlaid.outside _ houtside, h.lookup?_emptied, if_pos rfl] at hfile
      cases hfile
    · rw [h.lookup?_laid hlaid] at hfile
      cases hfile

end

/-! ## The two registries -/

theorem Submitted.parses (h : Submitted files r) :
    ∀ file ∈ files, (Source.parse file.code).isOk = true := by
  obtain ⟨known, skipped, hunits, rfl⟩ :=
    Registry.exists_of_read (Registry.read_of_load h.loads)
  exact fun file hfile => parses_of_readUnits hunits file.unit (List.mem_map_of_mem hfile)

/-- The files are laid out, and the registry is that of what discovery finds. -/
theorem runFrom_archiveRegistry (hroom : HasRoom w files) (hsubmitted : Submitted files r) :
    ∃ tree, Laid w.workingDirectory [w.scratchName, "src"] (emptied w) files tree ∧
      runFrom (archiveRegistry files) w =
        match Registry.ofRoots tree w.workingDirectory
          [SourceRoot.ofPath ⟨.within w.workingDirectory, [w.scratchName, "src"]⟩] with
        | .ok r' => (.ok (⟨.within w.workingDirectory, [w.scratchName]⟩, r'), { w with tree })
        | .error e => (.error (refuseLoad e), { w with tree }) := by
  have hsources : FilePath.below ⟨.within w.workingDirectory, [w.scratchName]⟩ "src" =
      ⟨.within w.workingDirectory, [w.scratchName, "src"]⟩ :=
    FilePath.below_of_isFileName (by decide) _
  obtain ⟨tree, hfold, hlaid⟩ := laid_foldlM_placeFile hroom.vacant [] hsubmitted.parses
    hsubmitted.named hroom.files (fun _ hfile => absurd hfile List.not_mem_nil)
    hsubmitted.nodup_relativePath { w with tree := emptied w }
    (hroom.vacant.laid_nil (List.cons_ne_nil _ _))
  refine ⟨tree, hlaid, ?_⟩
  simp only [archiveRegistry, runFrom_bind, runFrom_get, runFrom_onFiles, hroom.makeDirectory,
    hsources]
  rw [List.map_nil, List.reverse_nil] at hfold
  simp only [hfold, runFrom_ofResult]
  cases Registry.ofRoots tree w.workingDirectory
    [SourceRoot.ofPath ⟨.within w.workingDirectory, [w.scratchName, "src"]⟩] with
  | error e => rfl
  | ok r' => rfl

theorem HasRoom.nullFree (h : HasRoom w files) :
    FilePath.NullFree ⟨.within w.workingDirectory, [w.scratchName, "src"]⟩ := by
  have hsrc : NullFree "src" := by decide
  have hinner : FilePath.NullFree
      ⟨.within w.workingDirectory, [w.scratchName, "out", w.scratchName]⟩ := h.inner.1.1
  rw [FilePath.nullFree_iff] at hinner ⊢
  exact ⟨hinner.1, by simp [hsrc, hinner.2 w.scratchName (by simp)]⟩

/-- Where discovery enters all directories, both registries say the same. -/
theorem exists_archiveRegistry (hroom : HasRoom w files) (hsubmitted : Submitted files r)
    (hread : ReadAlike files) (hentered : AllEntered files) :
    ∃ tree units r', Laid w.workingDirectory [w.scratchName, "src"] (emptied w) files tree ∧
      runFrom (archiveRegistry files) w =
        (.ok (⟨.within w.workingDirectory, [w.scratchName]⟩, r'), { w with tree }) ∧
      Registry.load false units = .ok r' ∧ r.LoadedAlike r' ∧
      ∀ name, ResolvedAlike (r.resolve name) (r'.resolve name) := by
  obtain ⟨tree, hlaid, hrun⟩ := runFrom_archiveRegistry hroom hsubmitted
  obtain ⟨units, r', hroots, hload, -, hsame⟩ := hlaid.exists_registry hsubmitted hread
    hroom.vacant.names (List.cons_ne_nil _ _) hroom.nullFree hentered w.workingDirectory
  refine ⟨tree, units, r', hlaid, ?_, hload, hsame⟩
  rw [hrun, hroots]

/-- The endpoint for archives has all types only if discovery enters all directories. -/
theorem allEntered_of_loadedAlike (hroom : HasRoom w files) (hsubmitted : Submitted files r)
    (hread : ReadAlike files)
    (hrun : runFrom (archiveRegistry files) w = (.ok (scratch, r'), w'))
    (halike : r.LoadedAlike r') : AllEntered files := by
  obtain ⟨tree, hlaid, hrun'⟩ := runFrom_archiveRegistry hroom hsubmitted
  rw [hrun] at hrun'
  cases hroots : Registry.ofRoots tree w.workingDirectory
    [SourceRoot.ofPath ⟨.within w.workingDirectory, [w.scratchName, "src"]⟩] with
  | error e =>
      rw [hroots] at hrun'
      cases (Prod.mk.inj hrun').1
  | ok r'' =>
      rw [hroots] at hrun'
      obtain ⟨-, rfl⟩ := Prod.mk.inj (Except.ok.inj (Prod.mk.inj hrun').1)
      exact hlaid.allEntered hsubmitted hread hroom.vacant.names (List.cons_ne_nil _ _)
        hroom.nullFree hroots halike

/-! ## Up to the compiler -/

section

variable (hroom : HasRoom w files)
  (hlaid : Laid w.workingDirectory [w.scratchName, "src"] (emptied w) files tree)

/-- Path of the archive. -/
theorem archivePath_eq (hfilename : IsFileName filename) :
    (FilePath.below ⟨.within w.workingDirectory, [w.scratchName]⟩ "out").below filename =
      ⟨.within w.workingDirectory, [w.scratchName, "out", filename]⟩ := by
  have hout : IsFileName "out" := by decide
  rw [FilePath.below_of_isFileName hout, FilePath.below_of_isFileName hfilename]
  rfl

include hroom

/-- Path of the scratch directory for the compiler. -/
theorem scratchPath_archive (tree : FileTree) (filename : String) :
    Workshop.scratchPath { w with tree }
        ⟨.within w.workingDirectory, [w.scratchName, "out", filename]⟩ =
      ⟨.within w.workingDirectory, [w.scratchName, "out", w.scratchName]⟩ :=
  Workshop.scratchPath_eq hroom.name

include hlaid

/-- The scratch directory for the compiler can be created. -/
theorem exists_scratchBeside_archive (filename : String) :
    ∃ scratch w', runFrom (Implementing.scratchBeside
      ⟨.within w.workingDirectory, [w.scratchName, "out", filename]⟩) { w with tree } =
        (.ok scratch, w') := by
  have hpath := scratchPath_archive hroom tree filename
  have hrest : ∀ name ∈ [w.scratchName], IsFileName name := by simpa using hroom.name
  have hdirectory := hroom.isFileName (List.forall_mem_nil _)
  have hclear := hroom.clear hlaid hrest hroom.inner
  have hfree := hroom.lookup?_place hlaid hrest
  rw [← hpath] at hclear hfree
  obtain ⟨tree', hrun, -⟩ :=
    Implementing.exists_scratchBeside hclear hfree hroom.name hdirectory
  exact ⟨_, _, hrun⟩

/-- A source that is generated comes to the compiler, if the system takes its path. -/
theorem exists_beforeCompiling_archive (hs : s.NamesFiles)
    (hd : (u.get t).NamesFiles) {text : String} (hsource : s.generateSource u t = .ok text)
    (hfits : FilePath.FitsWhole
      ⟨.within w.workingDirectory, [w.scratchName, "out", w.scratchName] ++
        (packageSegments (u.get t).package ++ [s.className (u.get t) ++ s.generatedExtension])⟩) :
    ∃ path w', runFrom (Implementing.beforeCompiling s u t
        ((FilePath.below ⟨.within w.workingDirectory, [w.scratchName]⟩ "out").below
          (archiveName s (u.get t)))) { w with tree } = (.ok path, w') := by
  rw [archivePath_eq (isFileName_archiveName hs hd)]
  have hscratch := scratchPath_archive hroom tree (archiveName s (u.get t))
  have hpath := outputPath_eq hs hd
    ⟨.within w.workingDirectory, [w.scratchName, "out", w.scratchName]⟩ hs.extension
  have hdirectory := hroom.isFileName (List.forall_mem_nil _)
  have hrest : ∀ name ∈ w.scratchName :: (packageSegments (u.get t).package ++
      [s.className (u.get t) ++ s.generatedExtension]), IsFileName name := by
    intro name hname
    rw [List.mem_cons, List.mem_append, List.mem_singleton] at hname
    rcases hname with rfl | hname | rfl
    · exact hroom.name
    · exact hd.package name hname
    · exact isFileName_className hs hd hs.extension
  refine ⟨_, Implementing.exists_beforeCompiling hs hd hroom.name hdirectory hsource ?_ ?_ ?_⟩
  · rw [hscratch, hpath]
    exact hroom.clear hlaid hrest hfits
  · rw [hscratch]
    exact hroom.lookup?_place hlaid (by simpa using hroom.name)
  · rw [hscratch, hpath]
    exact hroom.lookup?_place hlaid hrest

/-- The archive flow rejects what synthesis rejects. -/
theorem implementArchive_rejected_iff_generateSource (hs : s.NamesFiles)
    {units : List SourceUnit} (hload : Registry.load false units = .ok r')
    (hresolve : r'.resolve typeName = .ok (t, u)) (e : SynthesisError) :
    (runFrom (Implementing.implementArchive s u t
        ((FilePath.below ⟨.within w.workingDirectory, [w.scratchName]⟩ "out").below
          (archiveName s (u.get t)))) { w with tree }).1 = .error (.synthesis e) ↔
      s.generateSource u t = .error e := by
  cases hgate : u.checkImplementable t with
  | error refusal =>
      rw [Settings.generateSource_of_refused hgate, Implementing.implementArchive, runFrom_bind,
        Implementing.runFrom_ofSynthesis, hgate]
      simp
  | ok pass =>
      have hd := Registry.namesFiles_of_offers hload (Or.inr ⟨typeName, hresolve⟩) hgate
      have hfilename := isFileName_archiveName hs hd
      obtain ⟨scratch, w', hbeside⟩ := exists_scratchBeside_archive hroom hlaid _
      rw [archivePath_eq hfilename]
      exact Implementing.implementArchive_rejected_iff hbeside

end

end Skeletal.Service
