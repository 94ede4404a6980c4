import Skeletal.CommandLine.Run
import Skeletal.Proofs.FileTree.NullFree
import Skeletal.Proofs.Load.Results
import Skeletal.Proofs.Output.Rejection
import Skeletal.Service.Implementation

/-!
# Foreseen failures

Implementing foresees six kinds of failures. Of an offered type there are two others: a file that
cannot be written cannot be cleaned up either, where a directory stands in its place or its path
does not fit the system, and no archive can hold a class of some dates. The flows fail foreseen
unless the place of the source or of the archive is barred like this or the class is dated like that
(`implementing_foreseen_iff`). Only foreseen failures are answered by a code of the command or a
reason of the service.
-/

set_option autoImplicit false

namespace Skeletal

variable {s : Settings} {u : Universe} {t : TypeId} {root archive : FilePath} {w : Workshop}

/-- Kinds of failures that implementing foresees. -/
def ImplementError.foreseenLabels : List String :=
  ["UnsupportedToken", "OpaqueAncestor", "InaccessibleAncestor", "NoAccessibleConstructor",
    "CompilationFailed", "IOFailure"]

theorem ImplementError.label_mem_foreseenLabels_iff {e : ImplementError} :
    e.label ∈ foreseenLabels ↔ (∀ fault, e ≠ .cleanUp fault) ∧ (∀ fault, e ≠ .misdated fault) ∧
      ∀ method, e ≠ .synthesis (.noResultType method) := by
  cases e with
  | synthesis rejection =>
      cases rejection <;> simp [label, SynthesisError.label, foreseenLabels]
  | compilation cause => simp [label, foreseenLabels]
  | placement cause => simp [label, foreseenLabels]
  | cleanUp fault => simp [label, foreseenLabels]
  | misdated fault => cases fault <;> simp [label, DateFault.label, foreseenLabels]

namespace Implementing

open ImplementError (foreseenLabels)

/-- A path is returned, or the failure is of a kind that is foreseen. -/
def Foreseen (result : Except ImplementError FilePath) : Prop :=
  ∀ e, result = .error e → e.label ∈ foreseenLabels

instance (result : Except ImplementError FilePath) : Decidable (Foreseen result) :=
  match result with
  | .ok _ => isTrue nofun
  | .error e => decidable_of_iff (e.label ∈ foreseenLabels)
    ⟨fun h _ he => Except.error.inj he ▸ h, fun h => h e rfl⟩

/-- No file can be put at the place of the source below a root, when all directories above it are
there. -/
def SourceBarred (s : Settings) (u : Universe) (t : TypeId) (root : FilePath) (w : Workshop) :
    Prop :=
  ∃ source tree, s.generateSource u t = .ok source ∧
    runFrom (FileAction.ensureDirectories
      (s.outputPath root (u.get t) s.generatedExtension).parent) w.tree = (.ok (), tree) ∧
    tree.Bars (s.outputPath root (u.get t) s.generatedExtension)

/-- No file can be put at the place of the source in the scratch directory, or at that of the
archive when it is to be packed. -/
def ArchiveBarred (s : Settings) (u : Universe) (t : TypeId) (archive : FilePath) (w : Workshop) :
    Prop :=
  (∃ scratch w₁, runFrom (scratchBeside archive) w = (.ok scratch, w₁) ∧
      SourceBarred s u t scratch w₁) ∨
    ∃ scratch w₂, outcome (beforePacking s u t archive) w = (.ok scratch, w₂) ∧
      w₂.tree.Bars archive

/-- A class is to be packed, where no directory stands in the place of the archive, and it is dated
before the first year that archives can hold or after the last one. -/
def ArchiveMisdated (s : Settings) (u : Universe) (t : TypeId) (archive : FilePath) (w : Workshop) :
    Prop :=
  ∃ scratch w₂, outcome (beforePacking s u t archive) w = (.ok scratch, w₂) ∧
    ¬ w₂.tree.Bars archive ∧
    (opened archive w₂.tree).entryAt? (s.compiledPath scratch (u.get t)) ≠ none ∧
    (w₂.classYear (s.outputPath scratch (u.get t) s.generatedExtension) < 1980 ∨
      2107 < w₂.classYear (s.outputPath scratch (u.get t) s.generatedExtension))

/-- The computation fails to clean up. -/
def CleanUpFails {α : Type} (work : Implementing α) (w : Workshop) : Prop :=
  ∃ fault w', runFrom work w = (.error (.cleanUp fault), w')

/-- The computation fails for a date. -/
def Misdates {α : Type} (work : Implementing α) (w : Workshop) : Prop :=
  ∃ fault w', runFrom work w = (.error (.misdated fault), w')

variable {α β : Type} {p : FilePath} {text : String}

/-! ## The source flow -/

theorem leadsUpTo_of_parent {tree : FileTree} (h : tree.entryAt? p.parent = some .directory) :
    tree.LeadsUpTo p := by
  obtain ⟨anchor, segments⟩ := p
  cases segments with
  | nil => exact FileTree.leadsUpTo_of_segments_eq_nil rfl
  | cons segment rest =>
      have hparent : FilePath.parent ⟨anchor, segment :: rest⟩ =
          ⟨anchor, (segment :: rest).dropLast⟩ := by
        cases anchor <;> rfl
      rw [hparent] at h
      exact FileTree.leadsUpTo_of_entryAt? h rfl rfl

/-- Writing a source fails to clean up where its place is barred. -/
theorem cleanUpFails_writeSource_iff : CleanUpFails (writeSource p text) w ↔
    ∃ tree, runFrom (FileAction.ensureDirectories p.parent) w.tree = (.ok (), tree) ∧
      tree.Bars p := by
  simp only [CleanUpFails, writeSource, runFrom_bind, runFrom_onFiles]
  rcases hensure : runFrom (FileAction.ensureDirectories p.parent) w.tree with ⟨e | ⟨⟩, tree⟩
  · simp
  · have hleads := leadsUpTo_of_parent (FileAction.ensureDirectories_ok hensure)
    simp only [runFrom_writeOrCleanUp]
    rcases FileAction.write_of_leadsUpTo hleads (.text text) with
      ⟨hbars, ⟨e, hwrite⟩, ⟨e', hremove⟩⟩ | ⟨hfree, hwrite⟩
    · simp [hwrite, hremove, hbars]
    · simp [hwrite, hfree]

/-- A computation fails to clean up in its first part or in what follows. -/
theorem cleanUpFails_bind_iff {x : Implementing α} {f : α → Implementing β} :
    CleanUpFails (x >>= f) w ↔
      CleanUpFails x w ∨ ∃ a w', runFrom x w = (.ok a, w') ∧ CleanUpFails (f a) w' := by
  simp only [CleanUpFails, runFrom_bind]
  rcases runFrom x w with ⟨e | a, w'⟩
  · simp
  · simp

/-- The source flow fails to clean up where the place of the source is barred. -/
theorem cleanUpFails_implement_iff :
    CleanUpFails (implement s u t (some root)) w ↔ SourceBarred s u t root w := by
  cases hsource : s.generateSource u t with
  | error e =>
      -- nothing is written that could be cleaned up
      constructor
      · rintro ⟨fault, w', h⟩
        cases (runFrom_implement_of_error (some root) w hsource).symm.trans h
      · rintro ⟨source, tree, hgenerated, -⟩
        cases hsource.symm.trans hgenerated
  | ok source =>
      have hfails : CleanUpFails (implement s u t (some root)) w ↔
          CleanUpFails
            (writeSource (s.outputPath root (u.get t) s.generatedExtension) source) w := by
        simp only [CleanUpFails, runFrom_implement_of_ok root w hsource]
        rcases runFrom (writeSource _ source) w with ⟨e | ⟨⟩, w'⟩
        · simp
        · simp
      rw [hfails, cleanUpFails_writeSource_iff]
      constructor
      · rintro ⟨tree, hensure, hbars⟩
        exact ⟨source, tree, hsource, hensure, hbars⟩
      · rintro ⟨_, tree, -, hensure, hbars⟩
        exact ⟨tree, hensure, hbars⟩

/-- Without a root there is nothing to be cleaned up. -/
theorem not_cleanUpFails_implement_none : ¬ CleanUpFails (implement s u t none) w := by
  rintro ⟨fault, w', h⟩
  cases hsource : s.generateSource u t with
  | error e => cases (runFrom_implement_of_error none w hsource).symm.trans h
  | ok source =>
      rw [implement, runFrom_bind, runFrom_ofSynthesis,
        Settings.checkImplementable_of_generateSource hsource] at h
      simp only [runFrom_bind, runFrom_ofSynthesis, hsource] at h
      cases h

theorem not_misdates_implement {root : Option FilePath} :
    ¬ Misdates (implement s u t root) w := by
  rintro ⟨fault, w', h⟩
  rcases failsWith_implement s u t root _ _ _ h with ⟨rejection, h⟩ | h
  · cases h
  · cases h

/-! ## The archive flow -/

/-- Compiling below a root fails to clean up where the source does. -/
theorem cleanUpFails_compileBelow_iff :
    CleanUpFails (compileBelow s u t root) w ↔ SourceBarred s u t root w := by
  rw [compileBelow, cleanUpFails_bind_iff, cleanUpFails_implement_iff]
  refine or_iff_left ?_
  rintro ⟨source, w₁, -, fault, w₂, h⟩
  cases failsWith_compile _ _ _ _ _ _ _ h

/-- Where its directories stand, packing an archive fails to clean up if its place is barred. A
class that is missing does not bar it: the archive was opened, and is removed. -/
theorem cleanUpFails_writeArchive_iff {d : Descriptor} (h : w.tree.LeadsUpTo archive) :
    CleanUpFails (writeArchive s d root archive) w ↔ w.tree.Bars archive := by
  simp only [CleanUpFails, runFrom_writeArchive, runFrom_pack]
  generalize hyear : w.classYear (s.outputPath root d s.generatedExtension) = year
  have hpacking := packing archive (s.compiledPath root d) (s.classEntry d) year w.tree
  rcases FileAction.write_of_leadsUpTo h (.archive [(manifestEntry, .text manifestText)]) with
    ⟨hbars, ⟨e, hwrite⟩, ⟨e', hremove⟩⟩ | ⟨hfree, -⟩
  · have hpack : runFrom (packInto archive (s.compiledPath root d) (s.classEntry d) year) w.tree =
        (.error e, w.tree) := by
      rw [packInto, runFrom_bind, hwrite]
    simp [hpack, hremove, hbars]
  · generalize runFrom (packInto archive (s.compiledPath root d) (s.classEntry d) year) w.tree =
      packed at hpacking
    refine iff_of_false ?_ hfree
    cases hpacking with
    | closed barred => exact absurd (h.takes_iff.2 hfree) barred
    | missing takes absent =>
        rcases FileAction.remove_cases archive (opened archive w.tree) with
          ⟨-, hnofile⟩ | ⟨-, hrun⟩
        · exact absurd (takes.entryAt?_insert _) (hnofile _)
        · simp [hrun]
    | misdated => simp
    | packed => simp

/-- Where its directories stand, packing an archive fails for a date if it is not barred, a class
stands, and its date is one that archives cannot hold. -/
theorem misdates_writeArchive_iff {d : Descriptor} (h : w.tree.LeadsUpTo archive) :
    Misdates (writeArchive s d root archive) w ↔ ¬ w.tree.Bars archive ∧
      (opened archive w.tree).entryAt? (s.compiledPath root d) ≠ none ∧
        (w.classYear (s.outputPath root d s.generatedExtension) < 1980 ∨
          2107 < w.classYear (s.outputPath root d s.generatedExtension)) := by
  simp only [Misdates, runFrom_writeArchive, pack_misdated_iff, h.takes_iff,
    ← dateFault?_ne_none_iff, Option.ne_none_iff_exists']
  constructor
  · rintro ⟨fault, w', hfree, hstands, hdate, -⟩
    exact ⟨hfree, hstands, fault, hdate⟩
  · rintro ⟨hfree, hstands, fault, hdate⟩
    exact ⟨fault, _, hfree, hstands, hdate, rfl⟩

/-- The way to the archive stands when it is to be packed. -/
theorem leadsUpTo_of_beforePacking {scratch : FilePath} {w₁ w₂ : Workshop}
    (hbeside : runFrom (scratchBeside archive) w = (.ok scratch, w₁))
    (hcompiled : runFrom (compileBelow s u t scratch) w₁ = (.ok (), w₂)) :
    w₂.tree.LeadsUpTo archive := by
  obtain ⟨source, w', hsource, hclass⟩ := runFrom_bind_eq_ok_iff.1 hcompiled
  have hkeeps : ∀ l, (w.prepared archive).lookup? l = some .directory →
      w₂.tree.lookup? l = some .directory := by
    intro l hl
    refine ((moves_compile _ _ _ _).of_run hclass).tree.directory l ?_
    refine ((moves_implement s u t scratch).of_run hsource).tree.directory l ?_
    rcases scratchBeside_cases w archive with ⟨fault, hfails⟩ | ⟨-, hnone, hcreated⟩
    · cases hbeside.symm.trans hfails
    · obtain ⟨-, rfl⟩ := Prod.mk.inj (hbeside.symm.trans hcreated)
      refine (FileTree.confined_insert ?_ _).directory l hl
      rw [hnone]
      exact nofun
  have hstands := FileTree.entryAt?_directory_mono (entryAt?_prepared hbeside) hkeeps
  rcases List.eq_nil_or_concat archive.segments with hnil | ⟨segments, name, hsegments⟩
  · exact FileTree.leadsUpTo_of_segments_eq_nil hnil
  · rw [List.concat_eq_append] at hsegments
    obtain ⟨hsame, hanchor⟩ := w.archiveDirectory_eq hsegments
    refine FileTree.leadsUpTo_of_entryAt? hstands hanchor ?_
    rw [hsame, hsegments, List.dropLast_concat]

/-- Without null characters, no scratch directory fails to be created but in a foreseen way. -/
theorem not_cleanUpFails_scratchBeside (harchive : archive.NullFree)
    (hdirectory : NullFree w.workingDirectory) (hname : NullFree w.scratchName) :
    ¬ CleanUpFails (scratchBeside archive) w := by
  have hparent : ((archive.absolute w.workingDirectory).parent).NullFree :=
    (harchive.absolute hdirectory).parent
  have hcreate : FailsWith FileAction.NoNull (do
      FileAction.ensureDirectories (archive.absolute w.workingDirectory).parent
      FileAction.makeDirectory
        ((archive.absolute w.workingDirectory).parent.below w.scratchName)) :=
    (FileAction.failsWith_ensureDirectories hparent).bind fun _ =>
      FileAction.failsWith_makeDirectory (hparent.below hname)
  rintro ⟨fault, w', h⟩
  rw [scratchBeside, runFrom_bind, runFrom_get] at h
  simp only at h
  rw [runFrom_bind, runFrom_onFiles] at h
  rcases hrun : runFrom (do
      FileAction.ensureDirectories (archive.absolute w.workingDirectory).parent
      FileAction.makeDirectory
        ((archive.absolute w.workingDirectory).parent.below w.scratchName)) w.tree with
    ⟨e | ⟨⟩, tree⟩
  · rw [hrun] at h
    simp only at h
    rw [if_neg (hcreate _ _ _ hrun)] at h
    cases h
  · rw [hrun] at h
    cases h

/-- The archive flow fails to clean up where the place of its source or its archive is barred. -/
theorem cleanUpFails_implementArchive_iff (harchive : archive.NullFree)
    (hdirectory : NullFree w.workingDirectory) (hname : NullFree w.scratchName) :
    CleanUpFails (implementArchive s u t archive) w ↔ ArchiveBarred s u t archive w := by
  have hrun := archiveRun s u t archive w
  have hscratch := not_cleanUpFails_scratchBeside harchive hdirectory hname
  rw [ArchiveBarred]
  change (∃ fault w', outcome (implementArchive s u t archive) w = _) ↔ _
  generalize outcome (beforePacking s u t archive) w = before at hrun ⊢
  generalize outcome (implementArchive s u t archive) w = after at hrun ⊢
  cases hrun with
  | refused gate =>
      refine iff_of_false ?_ ?_
      · rintro ⟨fault, w', h⟩
        cases h
      · rintro (⟨scratch, w₁, -, source, tree, hsource, -⟩ | ⟨scratch, w₂, h, -⟩)
        · cases (Settings.generateSource_of_refused gate).symm.trans hsource
        · cases h
  | unprepared gate beside =>
      refine iff_of_false ?_ ?_
      · rintro ⟨fault, w', h⟩
        obtain ⟨hfault, rfl⟩ := Prod.mk.inj h
        obtain rfl := Except.error.inj hfault
        exact hscratch ⟨fault, _, beside⟩
      · rintro (⟨scratch, w₁, h, -⟩ | ⟨scratch, w₂, h, -⟩)
        · cases beside.symm.trans h
        · cases h
  | @uncompiled scratch e w₁ w₂ gate beside compiled =>
      have hsource : CleanUpFails (compileBelow s u t scratch) w₁ ↔
          SourceBarred s u t scratch w₁ := cleanUpFails_compileBelow_iff
      constructor
      · rintro ⟨fault, w', h⟩
        obtain rfl := Except.error.inj (Prod.mk.inj h).1
        exact Or.inl ⟨scratch, w₁, beside, hsource.1 ⟨fault, w₂, compiled⟩⟩
      · rintro (⟨scratch', w₁', hbeside, hbarred⟩ | ⟨scratch', w₂', h, -⟩)
        · obtain ⟨hsame, rfl⟩ := Prod.mk.inj (beside.symm.trans hbeside)
          obtain rfl := Except.ok.inj hsame
          obtain ⟨fault, w', hfails⟩ := hsource.2 hbarred
          obtain ⟨he, -⟩ := Prod.mk.inj (compiled.symm.trans hfails)
          obtain rfl := Except.error.inj he
          exact ⟨fault, _, rfl⟩
        · cases h
  | @packing scratch result w₁ w₂ w₃ gate beside compiled packed =>
      have hpack : CleanUpFails (writeArchive s (u.get t) scratch archive) w₂ ↔
          w₂.tree.Bars archive :=
        cleanUpFails_writeArchive_iff (leadsUpTo_of_beforePacking beside compiled)
      constructor
      · rintro ⟨fault, w', h⟩
        cases result with
        | ok done => cases h
        | error e =>
            obtain rfl := Except.error.inj (Prod.mk.inj h).1
            exact Or.inr ⟨scratch, w₂, rfl, hpack.1 ⟨fault, w₃, packed⟩⟩
      · rintro (⟨scratch', w₁', hbeside, hbarred⟩ | ⟨scratch', w₂', h, hbarred⟩)
        · obtain ⟨hsame, rfl⟩ := Prod.mk.inj (beside.symm.trans hbeside)
          obtain rfl := Except.ok.inj hsame
          obtain ⟨fault, w', hfails⟩ := cleanUpFails_compileBelow_iff.2 hbarred
          cases compiled.symm.trans hfails
        · obtain ⟨-, rfl⟩ := Prod.mk.inj h
          obtain ⟨fault, w', hfails⟩ := hpack.2 hbarred
          obtain ⟨rfl, -⟩ := Prod.mk.inj (packed.symm.trans hfails)
          exact ⟨fault, _, rfl⟩

/-- The archive flow fails for a date where it comes to packing a class with such a date. -/
theorem misdates_implementArchive_iff :
    Misdates (implementArchive s u t archive) w ↔ ArchiveMisdated s u t archive w := by
  have hrun := archiveRun s u t archive w
  rw [ArchiveMisdated]
  change (∃ fault w', outcome (implementArchive s u t archive) w = _) ↔ _
  generalize outcome (beforePacking s u t archive) w = before at hrun ⊢
  generalize outcome (implementArchive s u t archive) w = after at hrun ⊢
  cases hrun with
  | refused gate =>
      refine iff_of_false ?_ ?_
      · rintro ⟨fault, w', h⟩
        cases h
      · rintro ⟨scratch, w₂, h, -⟩
        cases h
  | unprepared gate beside =>
      refine iff_of_false ?_ ?_
      · rintro ⟨fault, w', h⟩
        obtain rfl := Except.error.inj (Prod.mk.inj h).1
        cases failsWith_scratchBeside archive _ _ _ beside
      · rintro ⟨scratch, w₂, h, -⟩
        cases h
  | uncompiled gate beside compiled =>
      refine iff_of_false ?_ ?_
      · rintro ⟨fault, w', h⟩
        obtain rfl := Except.error.inj (Prod.mk.inj h).1
        exact misdated_ne_of_compileBelow compiled fault rfl
      · rintro ⟨scratch, w₂, h, -⟩
        cases h
  | @packing scratch result w₁ w₂ w₃ gate beside compiled packed =>
      have hpack : Misdates (writeArchive s (u.get t) scratch archive) w₂ ↔ _ :=
        misdates_writeArchive_iff (leadsUpTo_of_beforePacking beside compiled)
      constructor
      · rintro ⟨fault, w', h⟩
        cases result with
        | ok done => cases h
        | error e =>
            obtain rfl := Except.error.inj (Prod.mk.inj h).1
            exact ⟨scratch, w₂, rfl, hpack.1 ⟨fault, w₃, packed⟩⟩
      · rintro ⟨scratch', w₂', h, hmisdated⟩
        obtain ⟨hsame, rfl⟩ := Prod.mk.inj h
        obtain rfl := Except.ok.inj hsame
        obtain ⟨fault, w', hfails⟩ := hpack.2 hmisdated
        obtain ⟨rfl, -⟩ := Prod.mk.inj (packed.symm.trans hfails)
        exact ⟨fault, _, rfl⟩

/-! ## Foreseen failures -/

/-- A flow that does not fail for want of a result type fails foreseen unless it fails to clean up
or for a date. -/
theorem foreseen_iff {work : Implementing FilePath}
    (h : ∀ method after, outcome work w ≠ (.error (.synthesis (.noResultType method)), after)) :
    Foreseen (outcome work w).1 ↔ ¬ CleanUpFails work w ∧ ¬ Misdates work w := by
  change _ ↔ (¬ ∃ fault w', outcome work w = _) ∧ ¬ ∃ fault w', outcome work w = _
  rcases houtcome : outcome work w with ⟨e | path, after⟩
  · have hgiven : ∀ method, e ≠ .synthesis (.noResultType method) := by
      rintro method rfl
      exact h method after houtcome
    simp [Foreseen, ImplementError.label_mem_foreseenLabels_iff, hgiven]
  · exact iff_of_true nofun (by simp)

/-- How the flows fail for a type, and how a failure is answered. -/
structure FailsForeseen (s : Settings) (u : Universe) (t : TypeId) (w : Workshop) : Prop where
  /-- The source flow fails foreseen unless the place of the source is barred. -/
  source : ∀ root, Foreseen (outcome (implement s u t root) w).1 ↔
    ∀ directory, root = some directory → ¬ SourceBarred s u t directory w
  /-- The archive flow fails foreseen unless the place of the source or the archive is barred, or a
  class is to be packed with a date that archives cannot hold. -/
  archive : ∀ archive : FilePath, archive.NullFree →
    (Foreseen (outcome (implementArchive s u t archive) w).1 ↔
      ¬ ArchiveBarred s u t archive w ∧ ¬ ArchiveMisdated s u t archive w)
  /-- A run of the command that finds the type ends with 0 or 2 if the failure is foreseen, and only
  then. -/
  command : ∀ arguments typeName output r,
    Registry.ofRoots w.tree w.workingDirectory ((if arguments.sourcePaths.isEmpty then
      CommandLine.defaultRoots else arguments.sourcePaths).map SourceRoot.ofText) = .ok r →
    r.resolve typeName = .ok (t, u) →
    ((CommandLine.runWith s w arguments typeName output).1.ending ∈
        [CommandLine.Ending.returned 0, .returned 2] ↔
      Foreseen (outcome (CommandLine.flow s arguments.archive u t (FilePath.ofText output)) w).1)
  /-- The service answers a foreseen failure with its reason. -/
  service : ∀ e : ImplementError, e.label ∈ foreseenLabels → ∃ status ∈ [422, 500, 502],
    Service.refuseImplement e = .refusal status (e.label ++ ": " ++ e.message)
  /-- The service answers a failure to clean up, or for a date, without a reason. -/
  unforeseen : (∀ fault, Service.refuseImplement (.cleanUp fault) = .unforeseen) ∧
    ∀ fault, Service.refuseImplement (.misdated fault) = .unforeseen

/-- A failure is reported with a code exactly if it is foreseen. -/
theorem ending_outcomeReport_iff (stderr : String) (result : Except ImplementError FilePath) :
    (CommandLine.outcomeReport stderr result).ending ∈
      [CommandLine.Ending.returned 0, .returned 2] ↔ Foreseen result := by
  cases result with
  | ok path => exact iff_of_true (by simp [CommandLine.outcomeReport]) nofun
  | error e =>
      have hforeseen : Foreseen (.error e) ↔ e.label ∈ foreseenLabels :=
        ⟨fun h => h e rfl, fun h _ he => Except.error.inj he ▸ h⟩
      rw [hforeseen, ImplementError.label_mem_foreseenLabels_iff]
      cases e with
      | synthesis rejection =>
          cases rejection <;> simp [CommandLine.outcomeReport, CommandLine.complaint]
      | compilation cause => simp [CommandLine.outcomeReport, CommandLine.complaint]
      | placement cause => simp [CommandLine.outcomeReport, CommandLine.complaint]
      | cleanUp fault => simp [CommandLine.outcomeReport]
      | misdated fault => simp [CommandLine.outcomeReport]

/-- For an offered type, where neither the working directory nor the name of the scratch directory
has a null character, the flows fail foreseen unless a place is barred or the class that is packed
has a date that archives cannot hold, and what is foreseen is answered as such. -/
theorem implementing_foreseen_iff {strict : Bool} {units : List SourceUnit} {r : Registry}
    (h : Registry.load strict units = .ok r) (ht : r.Offers t u)
    (hdirectory : NullFree w.workingDirectory) (hname : NullFree w.scratchName) :
    FailsForeseen s u t w := by
  have hresults := s.generateSource_ne_noResultType (Registry.hasResults_of_offers h ht) t
  constructor
  case source =>
    intro root
    rw [foreseen_iff fun method after hfails => hresults method (implement_rejected hfails).1]
    cases root with
    | none =>
        exact iff_of_true ⟨not_cleanUpFails_implement_none, not_misdates_implement⟩ nofun
    | some root =>
        rw [and_iff_left not_misdates_implement, cleanUpFails_implement_iff]
        constructor
        · rintro hfree directory heq
          obtain rfl := Option.some.inj heq
          exact hfree
        · exact fun hfree => hfree root rfl
  case archive =>
    intro archive harchive
    rw [foreseen_iff fun method after hfails => ?_,
      cleanUpFails_implementArchive_iff harchive hdirectory hname, misdates_implementArchive_iff]
    rcases implementArchive_rejected_cases hfails with ⟨hgate, -⟩ | ⟨-, hsource, -⟩
    · exact hresults method (Settings.generateSource_of_refused hgate)
    · exact hresults method hsource
  case command =>
    intro arguments typeName output r hload hresolve
    simp only [CommandLine.runWith, hload, hresolve]
    exact ending_outcomeReport_iff _ _
  case service =>
    intro e he
    rw [ImplementError.label_mem_foreseenLabels_iff] at he
    cases e with
    | synthesis rejection => exact ⟨422, by simp, rfl⟩
    | compilation cause => exact ⟨502, by simp, rfl⟩
    | placement cause => exact ⟨500, by simp, rfl⟩
    | cleanUp fault => exact absurd rfl (he.1 fault)
    | misdated fault => exact absurd rfl (he.2.1 fault)
  case unforeseen => exact ⟨fun fault => rfl, fun fault => rfl⟩

/-- A class that can be implemented. -/
def sizedUnits : List SourceUnit :=
  [{ code := "package demo; public class Sized \x7b public Sized() \x7b \x7d \x7d" }]

/-- A workshop where a directory stands in the place of the generated source. -/
def sizedWorkshop : Workshop where
  tree := ⟨[(["out"], .directory), (["out", "demo"], .directory),
    (["out", "demo", "SizedImpl.java"], .directory)]⟩
  workingDirectory := "/work"
  scratchName := "skeletal-1"
  compiler := none

def sizedRoot : FilePath := ⟨.relative, ["out"]⟩

/-- The place of the source is barred. -/
theorem sized_barred : ∃ r t u, Registry.load true sizedUnits = .ok r ∧
    r.resolve "demo.Sized" = .ok (t, u) ∧ SourceBarred {} u t sizedRoot sizedWorkshop := by
  have htest : Registry.resolvesTo true sizedUnits "demo.Sized" (fun t u =>
      ({} : Settings).generatesPlain u t &&
        ({} : Settings).outputPath sizedRoot (u.get t) ({} : Settings).generatedExtension ==
          ⟨.relative, ["out", "demo", "SizedImpl.java"]⟩) = true := by
    decide +kernel
  obtain ⟨r, t, u, hload, hresolve, hsized⟩ := Registry.exists_of_resolvesTo htest
  rw [Bool.and_eq_true, beq_iff_eq] at hsized
  obtain ⟨source, hsource⟩ := Settings.exists_generateSource
    (Registry.hasResults_of_offers hload (Or.inr ⟨_, hresolve⟩)) hsized.1
  refine ⟨r, t, u, hload, hresolve, source, sizedWorkshop.tree, hsource, ?_⟩
  rw [hsized.2]
  exact ⟨by decide +kernel, by decide +kernel⟩

/-- How the flows fail for the class. -/
theorem implementing_foreseen_sized : ∃ r t u, Registry.load true sizedUnits = .ok r ∧
    r.Offers t u ∧ NullFree sizedWorkshop.workingDirectory ∧ NullFree sizedWorkshop.scratchName ∧
      FailsForeseen {} u t sizedWorkshop ∧ SourceBarred {} u t sizedRoot sizedWorkshop := by
  obtain ⟨r, t, u, hload, hresolve, hbarred⟩ := sized_barred
  have hoffers : r.Offers t u := Or.inr ⟨_, hresolve⟩
  have hdirectory : NullFree sizedWorkshop.workingDirectory := by decide
  have hname : NullFree sizedWorkshop.scratchName := by decide
  exact ⟨r, t, u, hload, hoffers, hdirectory, hname,
    implementing_foreseen_iff hload hoffers hdirectory hname, hbarred⟩

/-- The source flow of the class fails in a way that is not foreseen. -/
theorem sized_not_foreseen : ∃ r t u, Registry.load true sizedUnits = .ok r ∧
    r.resolve "demo.Sized" = .ok (t, u) ∧
      ¬ Foreseen (outcome (implement {} u t (some sizedRoot)) sizedWorkshop).1 := by
  obtain ⟨r, t, u, hload, hresolve, hbarred⟩ := sized_barred
  refine ⟨r, t, u, hload, hresolve, fun hforeseen => ?_⟩
  obtain ⟨fault, w', hfails⟩ := cleanUpFails_implement_iff.2 hbarred
  have hlabel := hforeseen (.cleanUp fault) (congrArg Prod.fst hfails)
  exact (ImplementError.label_mem_foreseenLabels_iff.1 hlabel).1 fault rfl

end Implementing

end Skeletal
