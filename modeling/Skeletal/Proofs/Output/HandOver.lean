import Skeletal.Proofs.FileTree.Created
import Skeletal.Proofs.Output.Rejection

/-!
# What the compiler is given

The archive flow writes the source into the scratch directory and hands it to the compiler
(`beforeCompiling`), from where it goes on (`runFrom_implementArchive_of_ok`). What is handed over
is the source that was generated (`entryAt?_of_beforeCompiling`). It comes so far if the system
takes its path and nothing stands in its way (`exists_beforeCompiling`), and where the scratch
directory can be created, the flow rejects what synthesis rejects (`implementArchive_rejected_iff`).
-/

set_option autoImplicit false

namespace Skeletal

open FileTree (AddsDirectories Clear)

namespace Implementing

variable {s : Settings} {u : Universe} {t : TypeId} {archive root scratch : FilePath}
  {w w' : Workshop} {e : ImplementError} {source : String} {p : FilePath}

/-! ## Steps that succeed -/

/-- A scratch directory is created beside an archive, with directories on its way. -/
theorem exists_scratchBeside (hclear : w.tree.Clear (w.scratchPath archive))
    (hfree : w.tree.lookup? (w.scratchPath archive).place = none)
    (hname : IsFileName w.scratchName)
    (hnames : ∀ name ∈ (w.archiveDirectory archive).segments, IsFileName name) :
    ∃ tree, runFrom (scratchBeside archive) w =
        (.ok (w.scratchPath archive), { w with tree }) ∧
      AddsDirectories (w.scratchPath archive) w.tree tree := by
  have hpath : w.scratchPath archive = _ := w.scratchPath_eq hname
  rw [hpath] at hclear hfree ⊢
  have hall : ∀ name ∈ (w.archiveDirectory archive).segments ++ [w.scratchName],
      IsFileName name := by
    simpa [or_imp, forall_and, hname] using hnames
  -- the directory of the archive is created first
  obtain ⟨tree₁, hcreate⟩ := FileAction.exists_ensureDirectories hclear.of_append
  have hadds := (FileAction.moves_ensureDirectories _).of_run hcreate
  have hclear₁ := hclear.of_addsDirectories hadds
  have hlocate := hclear₁.locate_of_entryAt? (FileAction.ensureDirectories_ok hcreate)
  have hnone : tree₁.lookup? _ = none :=
    FileTree.lookup?_of_longer hadds hall (List.prefix_append _ _) (by simp) hfree
  have hmake := FileAction.makeDirectory_ok hlocate hnone
  refine ⟨_, ?_, IsTrans.trans _ _ _ (hadds.mono (List.prefix_append _ _))
    ((FileAction.moves_makeDirectory _).of_run hmake)⟩
  rw [← hpath] at hmake ⊢
  -- and then the scratch directory itself
  simp only [scratchBeside, runFrom_bind, runFrom_get, runFrom_onFiles]
  rw [Workshop.scratchPath, Workshop.archiveDirectory] at hmake ⊢
  rw [Workshop.archiveDirectory] at hcreate
  simp only [hcreate, hmake, runFrom_pure]

/-- A source is written in a free place. -/
theorem exists_writeSource {anchor : Anchor} {segments : List String} {last : String}
    (hnames : ∀ name ∈ segments ++ [last], IsFileName name)
    (hclear : w.tree.Clear ⟨anchor, segments ++ [last]⟩)
    (hfree : w.tree.lookup? (FilePath.place ⟨anchor, segments ++ [last]⟩) = none) (text : String) :
    ∃ w', runFrom (writeSource ⟨anchor, segments ++ [last]⟩ text) w = (.ok (), w') := by
  have hparent := FilePath.parent_append_singleton anchor segments last
  obtain ⟨tree₁, hcreate⟩ := FileAction.exists_ensureDirectories hclear.of_append
  have hadds := (FileAction.moves_ensureDirectories _).of_run hcreate
  have hnone : tree₁.lookup? _ = none :=
    FileTree.lookup?_of_longer hadds hnames (List.prefix_append _ _) (by simp) hfree
  have hleads : tree₁.LeadsUpTo ⟨anchor, segments ++ [last]⟩ :=
    FileTree.leadsUpTo_of_entryAt? (FileAction.ensureDirectories_ok hcreate) rfl (by simp)
  rcases FileAction.write_of_leadsUpTo hleads (.text text) with ⟨hbars, -, -⟩ | ⟨-, hwrite⟩
  · rcases hbars with hfault | hdirectory
    · exact absurd hclear.fits.fits hfault
    · rw [FileTree.entryAt?_eq_some_iff, hnone] at hdirectory
      cases hdirectory.2
  · rw [writeSource, hparent, runFrom_bind, runFrom_onFiles, hcreate]
    simp only [runFrom_writeOrCleanUp, hwrite]
    exact ⟨_, rfl⟩

/-! ## Up to the compiler -/

/-- The steps of the archive flow up to the compiler. They give the path of the source. -/
def beforeCompiling (s : Settings) (u : Universe) (t : TypeId) (archive : FilePath) :
    Implementing FilePath := do
  ofSynthesis (u.checkImplementable t)
  let scratch ← scratchBeside archive
  implement s u t (some scratch)

/-- What comes to the compiler is the source that was generated. -/
theorem entryAt?_of_beforeCompiling
    (h : runFrom (beforeCompiling s u t archive) w = (.ok p, w')) :
    ∃ text, s.generateSource u t = .ok text ∧
      w'.tree.entryAt? p = some (.file (.text text)) := by
  obtain ⟨⟨⟩, w₁, -, h⟩ := runFrom_bind_eq_ok_iff.1 h
  obtain ⟨scratch, w₂, -, hsource⟩ := runFrom_bind_eq_ok_iff.1 h
  obtain ⟨text, hgenerated, -, hstands⟩ := implement_ok hsource
  exact ⟨text, hgenerated, hstands⟩

/-- Work in a scratch directory that was created, which is removed however the work ends. -/
def discarding {α : Type} (scratch : FilePath) (work : Implementing α) : Implementing α := do
  let result ← tryCatch (Except.ok <$> work) fun e => pure (.error e)
  discardScratch scratch
  match result with
  | .ok a => return a
  | .error e => throw e

/-- The steps of the archive flow from the compiler on. -/
def fromCompiling (s : Settings) (u : Universe) (t : TypeId) (archive scratch source : FilePath) :
    Implementing FilePath :=
  discarding scratch do
    compile s source scratch (u.sourceRoots t)
    writeArchive s (u.get t) scratch archive
    return archive

/-- However the work ends, the directory is discarded after it. -/
theorem runFrom_discarding {α : Type} (scratch : FilePath) (work : Implementing α) (w : Workshop) :
    runFrom (discarding scratch work) w =
      ((runFrom work w).1, discarded scratch (runFrom work w).2) := by
  simp only [discarding, runFrom_bind, runFrom_tryCatch, runFrom_map]
  rcases runFrom work w with ⟨e | a, w'⟩
  · rfl
  · rfl

/-- The flow goes on from the source in the scratch directory. -/
theorem runFrom_implementArchive_of_ok
    (h : runFrom (beforeCompiling s u t archive) w = (.ok p, w')) :
    ∃ scratch, runFrom (implementArchive s u t archive) w =
      runFrom (fromCompiling s u t archive scratch p) w' := by
  obtain ⟨⟨⟩, w₁, hgate, h⟩ := runFrom_bind_eq_ok_iff.1 h
  obtain ⟨scratch, w₂, hbeside, hsource⟩ := runFrom_bind_eq_ok_iff.1 h
  refine ⟨scratch, ?_⟩
  rw [implementArchive, runFrom_bind, hgate]
  simp only [runFrom_withScratch, hbeside]
  have hwork : runFrom (do
        compileBelow s u t scratch
        writeArchive s (u.get t) scratch archive
        return archive) w₂ =
      runFrom (do
        compile s p scratch (u.sourceRoots t)
        writeArchive s (u.get t) scratch archive
        return archive) w' := by
    rw [compileBelow, bind_assoc, runFrom_bind, hsource]
  rw [hwork, fromCompiling, runFrom_discarding]

/-- What synthesis refuses does not come to the compiler, and what the archive flow refuses is
refused by synthesis. -/
theorem implementArchive_rejected_iff {rejection : SynthesisError} {scratch : FilePath}
    (hbeside : runFrom (scratchBeside archive) w = (.ok scratch, w')) :
    (runFrom (implementArchive s u t archive) w).1 = .error (.synthesis rejection) ↔
      s.generateSource u t = .error rejection := by
  constructor
  · intro h
    have houtcome : outcome (implementArchive s u t archive) w =
        (.error (.synthesis rejection), _) := Prod.ext h rfl
    rcases implementArchive_rejected_cases houtcome with ⟨hgate, -⟩ | ⟨-, hsource, -⟩
    · exact Settings.generateSource_of_refused hgate
    · exact hsource
  · intro hsource
    rw [implementArchive, runFrom_bind, runFrom_ofSynthesis]
    cases hgate : u.checkImplementable t with
    | error e =>
        rw [Settings.generateSource_of_refused hgate] at hsource
        rw [Except.error.inj hsource]
    | ok pass =>
        simp only [runFrom_withScratch, hbeside, compileBelow, bind_assoc, runFrom_bind,
          runFrom_implement_of_error (some scratch) w' hsource]

/-- A source that is generated comes to the compiler, where nothing stands in its place. -/
theorem exists_beforeCompiling (hs : s.NamesFiles) (hd : (u.get t).NamesFiles)
    (hname : IsFileName w.scratchName)
    (hnames : ∀ name ∈ (w.archiveDirectory archive).segments, IsFileName name)
    (hsource : s.generateSource u t = .ok source)
    (hclear : w.tree.Clear (s.outputPath (w.scratchPath archive) (u.get t) s.generatedExtension))
    (hfree : w.tree.lookup? (w.scratchPath archive).place = none)
    (hnone : w.tree.lookup?
      (s.outputPath (w.scratchPath archive) (u.get t) s.generatedExtension).place = none) :
    ∃ w', runFrom (beforeCompiling s u t archive) w =
      (.ok (s.outputPath (w.scratchPath archive) (u.get t) s.generatedExtension), w') := by
  have hpath : s.outputPath (w.scratchPath archive) (u.get t) s.generatedExtension = _ :=
    outputPath_eq hs hd (w.scratchPath archive) hs.extension
  have hscratch : w.scratchPath archive = _ := w.scratchPath_eq hname
  have hgate := Settings.checkImplementable_of_generateSource hsource
  have hall : ∀ name ∈ (w.scratchPath archive).segments ++ packageSegments (u.get t).package ++
      [s.className (u.get t) ++ s.generatedExtension], IsFileName name := by
    rw [hscratch]
    intro name hmem
    simp only [List.mem_append, List.mem_singleton] at hmem
    rcases hmem with ((hmem | rfl) | hmem) | rfl
    · exact hnames name hmem
    · exact hname
    · exact hd.package name hmem
    · exact isFileName_className hs hd hs.extension
  rw [hpath, ← List.append_assoc] at hclear hnone ⊢
  -- the scratch directory is created first, and then the source is written below it
  have habove : w.tree.Clear (w.scratchPath archive) :=
    Clear.of_append (List.append_assoc .. ▸ hclear)
  obtain ⟨tree, hbeside, hadds⟩ := exists_scratchBeside habove hfree hname hnames
  have hstart : (w.scratchPath archive).segments <+:
      (w.scratchPath archive).segments ++ packageSegments (u.get t).package ++
        [s.className (u.get t) ++ s.generatedExtension] := by
    rw [List.append_assoc]
    exact List.prefix_append _ _
  have hlonger : (w.scratchPath archive).segments ≠
      (w.scratchPath archive).segments ++ packageSegments (u.get t).package ++
        [s.className (u.get t) ++ s.generatedExtension] := by
    intro heq
    simpa using congrArg List.length heq
  have hstill := FileTree.lookup?_of_longer hadds hall hstart hlonger hnone
  obtain ⟨w', hwrite⟩ := exists_writeSource (w := { w with tree }) hall
    (hclear.of_addsDirectories hadds) hstill source
  refine ⟨w', ?_⟩
  rw [beforeCompiling, runFrom_bind, runFrom_ofSynthesis, hgate]
  simp only [runFrom_bind, hbeside, runFrom_implement_of_ok _ _ hsource, hpath,
    ← List.append_assoc, hwrite]

end Implementing

end Skeletal
