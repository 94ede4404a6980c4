import Skeletal.Proofs.Load.Results
import Skeletal.Proofs.Output.Packing
import Skeletal.Proofs.Output.Scratch
import Skeletal.Proofs.Output.SourceFlow

/-!
# The archive flow

The archive flow touches the archive and the directories on the way to it, and nothing else, at
whatever step it ends: no scratch directory is left, and a file that stood in the place of the
archive is kept until packing begins. Then the archive is filled or not there, but for a class of a
date that archives cannot hold. For that an archive stays with its description alone
(`implementArchive_leaves`).
-/

set_option autoImplicit false

namespace Skeletal

namespace Implementing

open FileTree (AddsDirectories Confined PlacesFile StaysBelow)

/-! ## Stages -/

/-- The steps of the archive flow before packing. They give the scratch directory. -/
def beforePacking (s : Settings) (u : Universe) (t : TypeId) (archive : FilePath) :
    Implementing FilePath := do
  ofSynthesis (u.checkImplementable t)
  let scratch ← scratchBeside archive
  compileBelow s u t scratch
  return scratch

variable {s : Settings} {u : Universe} {t : TypeId} {archive scratch : FilePath} {w : Workshop}

/-- Where the archive flow ends: at the gate, before the scratch directory, before packing, or after
it. The outcome before packing is set beside that of the whole flow. -/
inductive ArchiveRun (s : Settings) (u : Universe) (t : TypeId) (archive : FilePath)
    (w : Workshop) :
    Except ImplementError FilePath × Workshop → Except ImplementError FilePath × Workshop → Prop
  | refused {e : SynthesisError} (gate : u.checkImplementable t = .error e) :
      ArchiveRun s u t archive w (.error (.synthesis e), w) (.error (.synthesis e), w)
  | unprepared {e : ImplementError} {w₁ : Workshop} (gate : u.checkImplementable t = .ok ())
      (beside : runFrom (scratchBeside archive) w = (.error e, w₁)) :
      ArchiveRun s u t archive w (.error e, w₁) (.error e, w₁)
  | uncompiled {scratch : FilePath} {e : ImplementError} {w₁ w₂ : Workshop}
      (gate : u.checkImplementable t = .ok ())
      (beside : runFrom (scratchBeside archive) w = (.ok scratch, w₁))
      (compiled : runFrom (compileBelow s u t scratch) w₁ = (.error e, w₂)) :
      ArchiveRun s u t archive w (.error e, w₂) (.error e, discarded scratch w₂)
  | packing {scratch : FilePath} {result : Except ImplementError Unit} {w₁ w₂ w₃ : Workshop}
      (gate : u.checkImplementable t = .ok ())
      (beside : runFrom (scratchBeside archive) w = (.ok scratch, w₁))
      (compiled : runFrom (compileBelow s u t scratch) w₁ = (.ok (), w₂))
      (packed : runFrom (writeArchive s (u.get t) scratch archive) w₂ = (result, w₃)) :
      ArchiveRun s u t archive w (.ok scratch, w₂)
        (result.map fun _ => archive, discarded scratch w₃)

theorem archiveRun (s : Settings) (u : Universe) (t : TypeId) (archive : FilePath)
    (w : Workshop) : ArchiveRun s u t archive w (outcome (beforePacking s u t archive) w)
      (outcome (implementArchive s u t archive) w) := by
  change ArchiveRun s u t archive w (runFrom (beforePacking s u t archive) w)
    (runFrom (implementArchive s u t archive) w)
  rw [beforePacking, implementArchive, runFrom_bind, runFrom_bind, runFrom_ofSynthesis]
  -- both go through the same steps; the cases are the step at which they end
  cases hgate : u.checkImplementable t with
  | error e => exact .refused hgate
  | ok pass =>
      simp only [runFrom_bind, runFrom_withScratch]
      rcases hbeside : runFrom (scratchBeside archive) w with ⟨e | scratch, w₁⟩
      · exact .unprepared hgate hbeside
      · simp only
        rcases hcompiled : runFrom (compileBelow s u t scratch) w₁ with ⟨e | ⟨⟩, w₂⟩
        · exact .uncompiled hgate hbeside hcompiled
        · simp only
          rcases hpacked : runFrom (writeArchive s (u.get t) scratch archive) w₂ with
            ⟨e | ⟨⟩, w₃⟩
          · exact .packing hgate hbeside hcompiled hpacked
          · exact .packing hgate hbeside hcompiled hpacked

/-! ## What is left -/

/-- The compiler writes a file as the class of a type beside its source in the scratch directory. -/
def WritesClass (s : Settings) (u : Universe) (t : TypeId) (archive : FilePath) (w : Workshop)
    (file : ClassFile) : Prop :=
  ∃ c, w.compiler = some c ∧
    c.classFile (s.outputPath (w.scratchPath archive) (u.get t) s.generatedExtension) = some file

/-- A class of some years comes to be packed: the steps before packing give a scratch directory, a
file can be put in the place of the archive, and the compiler writes the class in one of the years. -/
structure PacksClass (s : Settings) (u : Universe) (t : TypeId) (archive : FilePath) (w : Workshop)
    (before : Except ImplementError FilePath × Workshop) (years : Nat → Prop) : Prop where
  begins : ∃ scratch, before.1 = .ok scratch
  takes : before.2.tree.Takes archive
  dated : ∃ file, WritesClass s u t archive w file ∧ years file.year

/-- What the archive flow leaves of a workshop, with the outcome of its steps before packing. -/
structure LeavesArchive (s : Settings) (u : Universe) (t : TypeId) (archive : FilePath)
    (w : Workshop) (before after : Except ImplementError FilePath × Workshop) : Prop where
  /-- No scratch directory is left. -/
  scratch : ∀ location, (w.scratchPath archive).place <+: location →
    after.2.tree.lookup? location = none
  /-- All else is as it was, but for the archive and new directories on the way to it. -/
  rest : PlacesFile (w.archiveDirectory archive) archive.place w.tree after.2.tree
  /-- The flow returns if a class comes to be packed with a date that archives can hold. -/
  returns : (∃ path, after.1 = .ok path) ↔
    PacksClass s u t archive w before fun year => 1980 ≤ year ∧ year ≤ 2107
  /-- If it returns, the archive holds its description and the class of the compiler. -/
  returned : ∀ path, after.1 = .ok path → path = archive ∧ ∃ file,
    WritesClass s u t archive w file ∧ after.2.tree.entryAt? archive = some (.file (.archive
      [("META-INF/MANIFEST.MF", .text "Manifest-Version: 1.0\r\n\r\n"),
        (s.classEntry (u.get t), file.content)]))
  /-- If the flow fails before packing, a file in the place of the archive stays as it is. -/
  unpacked : ∀ e, before.1 = .error e → after.1 = .error e ∧
    ∀ content, w.tree.entryAt? archive = some (.file content) →
      after.2.tree.entryAt? archive = some (.file content)
  /-- If packing fails where no directory is in its place, nothing stands there, unless it fails for
  the date of the class. -/
  packing : ∀ scratch, before.1 = .ok scratch →
    after.1 = (outcome (writeArchive s (u.get t) scratch archive) before.2).1.map
        (fun _ => archive) ∧
      ∀ e, after.1 = .error e → (∀ fault, e ≠ .misdated fault) →
        before.2.tree.entryAt? archive ≠ some .directory → after.2.tree.entryAt? archive = none
  /-- It fails for the date if a class comes to be packed that is dated too early. -/
  early : after.1 = .error (.misdated .early) ↔
    PacksClass s u t archive w before fun year => year < 1980
  /-- It fails for the date if a class comes to be packed that is dated too late. -/
  late : after.1 = .error (.misdated .late) ↔
    PacksClass s u t archive w before fun year => 2107 < year
  /-- Then an archive is left that holds its description alone. -/
  misdated : ∀ fault, after.1 = .error (.misdated fault) → after.2.tree.entryAt? archive =
    some (.file (.archive [("META-INF/MANIFEST.MF", .text "Manifest-Version: 1.0\r\n\r\n")]))

theorem PacksClass.imp {before : Except ImplementError FilePath × Workshop} {year : Nat}
    {years : Nat → Prop} (h : PacksClass s u t archive w before (· = year)) (hyear : years year) :
    PacksClass s u t archive w before years := by
  obtain ⟨hbegins, htakes, file, hfile, rfl⟩ := h
  exact ⟨hbegins, htakes, file, hfile, hyear⟩

variable {w₁ w₂ w₃ : Workshop} {e : ImplementError} {result : Except ImplementError Unit}

/-- A flow that ends before packing leaves no more than new directories on the way. -/
theorem leavesArchive_of_error (hscratch : ∀ location,
      (w.scratchPath archive).place <+: location → w₂.tree.lookup? location = none)
    (hadds : AddsDirectories (w.archiveDirectory archive) w.tree w₂.tree)
    (hdated : ∀ fault, e ≠ .misdated fault) :
    LeavesArchive s u t archive w (.error e, w₁) (.error e, w₂) where
  scratch := hscratch
  rest := hadds.placesFile _
  returns := iff_of_false nofun fun h => nomatch h.begins
  returned _ h := by cases h
  unpacked e' h := by
    obtain rfl := Except.error.inj h
    exact ⟨rfl, fun _ hcontent => hadds.entryAt? hcontent⟩
  packing _ h := by cases h
  early := iff_of_false (fun h => hdated .early (Except.error.inj h)) fun h => nomatch h.begins
  late := iff_of_false (fun h => hdated .late (Except.error.inj h)) fun h => nomatch h.begins
  misdated fault h := absurd (Except.error.inj h) (hdated fault)

/-- The date of a class that is packed is the one that the compiler gave it. -/
theorem classYear_eq {c : Compiler} {source : FilePath} {file : ClassFile}
    (hcompiler : w.compiler = some c) (hfile : c.classFile source = some file) :
    w.classYear source = file.year := by
  rw [Workshop.classYear, hcompiler, Option.bind_some, hfile]

/-- Work below the scratch directory leaves it standing. -/
theorem HasScratch.of_staysBelow (h : HasScratch w archive w₁)
    (hmoves : OnTree (StaysBelow (w.scratchPath archive)) w₁ w₂) : HasScratch w archive w₂ := by
  obtain ⟨hstands, hbelow⟩ := hmoves.tree h.stands
  exact ⟨h.located, hmoves.compiler.trans h.compiler,
    IsTrans.trans _ _ _ h.confined hbelow, hstands⟩

section

variable (hfresh : w.FreshScratch archive)

include hfresh

/-- What was done before packing comes down to new directories on the way to the archive. -/
theorem addsDirectories_discarded (h : HasScratch w archive w₂) :
    AddsDirectories (w.archiveDirectory archive) w.tree
      (w₂.tree.eraseAll (w.scratchPath archive).place) :=
  (w.addsDirectories_prepared archive).eraseAll hfresh.not_isGiven
    (fun _ => hfresh.lookup?_prepared) h.confined

/-- An archive stands below the scratch directory beside it only if it is that directory. -/
theorem place_eq_of_scratch (h : (w.scratchPath archive).place <+: archive.place) :
    archive.place = (w.scratchPath archive).place := by
  rcases List.eq_nil_or_concat archive.segments with hnil | ⟨segments, name, hsegments⟩
  · -- a path without segments leads to a directory that is given
    have hgiven := hfresh.not_isGiven _ h
    rw [FilePath.place, hnil, List.foldl_nil, FileTree.isGiven_anchorLocation] at hgiven
    cases hgiven
  · rw [List.concat_eq_append] at hsegments
    obtain ⟨hsame, hanchor⟩ := w.archiveDirectory_eq hsegments
    have hplace : archive.place = FileTree.step (w.archiveDirectory archive).place name := by
      rw [FilePath.place, hsegments, List.foldl_append, ← hanchor, ← hsame]
      rfl
    -- both are one step away from the directory of the archive
    rw [Workshop.place_scratchPath hfresh.1] at h ⊢
    rw [hplace] at h ⊢
    exact FileTree.step_eq_of_prefix h

/-- A directory on the way to the archive stands whether or not the scratch directory does. -/
theorem directory_discarded (hw₂ : HasScratch w archive w₂)
    (hpack : Confined (· = archive.place) w₂.tree w₃.tree) {location : Location}
    (h : (w.prepared archive).lookup? location = some .directory) :
    (w₃.tree.eraseAll (w.scratchPath archive).place).lookup? location = some .directory := by
  have houtside : ¬ (w.scratchPath archive).place <+: location := by
    intro hbelow
    rw [hfresh.lookup?_prepared hbelow] at h
    cases h
  rw [FileTree.lookup?_eraseAll hfresh.not_isGiven, if_neg houtside]
  exact hpack.directory _ (hw₂.confined.directory _ h)

/-- The archive is found as well without the scratch directory. -/
theorem locate_discarded (hw₂ : HasScratch w archive w₂)
    (hpack : Confined (· = archive.place) w₂.tree w₃.tree)
    (h : w₃.tree.locate archive = .ok archive.place) :
    (w₃.tree.eraseAll (w.scratchPath archive).place).locate archive = .ok archive.place := by
  obtain ⟨hadmissible, hleads, -⟩ := FileTree.locate_eq_ok_iff.1 h
  refine FileTree.locate_eq_ok_iff.2 ⟨hadmissible, ?_, rfl⟩
  rcases List.eq_nil_or_concat archive.segments with hnil | ⟨segments, name, hsegments⟩
  · rw [hnil]
    exact .nil
  · rw [List.concat_eq_append] at hsegments
    obtain ⟨hsame, hanchor⟩ := w.archiveDirectory_eq hsegments
    obtain ⟨-, hbeside, -⟩ := FileTree.locate_eq_ok_iff.1 hw₂.located
    -- the way to the archive is that to the scratch directory beside it
    rw [Workshop.scratchPath_eq hfresh.1, hsame, hanchor] at hbeside
    rw [hsegments] at hleads ⊢
    exact hleads.sibling
      (hbeside.mono fun _ hdirectory => directory_discarded hfresh hw₂ hpack hdirectory)

theorem lookup?_discarded (h : w₂.tree.entryAt? (w.scratchPath archive) = some .directory)
    (location : Location) :
    (discarded (w.scratchPath archive) w₂).tree.lookup? location =
      if (w.scratchPath archive).place <+: location then none else w₂.tree.lookup? location := by
  rw [tree_discarded h, FileTree.lookup?_eraseAll hfresh.not_isGiven]

/-- The archive that packing filled stands at its path when the scratch directory is discarded. -/
theorem entryAt?_discarded (hw₂ : HasScratch w archive w₂)
    (hpack : Confined (· = archive.place) w₂.tree w₃.tree) {content : Content}
    (h : w₃.tree.entryAt? archive = some (.file content)) :
    (discarded (w.scratchPath archive) w₃).tree.entryAt? archive = some (.file content) := by
  have hstands := FileTree.entryAt?_directory_mono hw₂.stands hpack.directory
  obtain ⟨hlocate, hlookup⟩ := FileTree.entryAt?_eq_some_iff.1 h
  refine FileTree.entryAt?_eq_some_iff.2 ⟨?_, ?_⟩
  · rw [tree_discarded hstands]
    exact locate_discarded hfresh hw₂ hpack hlocate
  · rw [lookup?_discarded hfresh hstands]
    split_ifs with hbelow
    · -- a directory stands in the place of the scratch directory, and no archive
      rw [place_eq_of_scratch hfresh hbelow, (FileTree.entryAt?_eq_some_iff.1 hstands).2] at hlookup
      cases hlookup
    · exact hlookup

/-- Where packing fails for files, no archive stands at its path when the scratch directory is
discarded. -/
theorem entryAt?_of_unpacked (hw₂ : HasScratch w archive w₂)
    (hpacked : runFrom (writeArchive s (u.get t) (w.scratchPath archive) archive) w₂ =
      (.error e, w₃))
    (hdated : ∀ fault, e ≠ .misdated fault) (hfree : w₂.tree.entryAt? archive ≠ some .directory) :
    (discarded (w.scratchPath archive) w₃).tree.entryAt? archive = none := by
  have hpack :=
    ((moves_writeArchive s (u.get t) (w.scratchPath archive) archive).of_run hpacked).tree
  rw [tree_discarded (FileTree.entryAt?_directory_mono hw₂.stands hpack.directory)]
  rw [runFrom_writeArchive] at hpacked
  cases hentry : (w₃.tree.eraseAll (w.scratchPath archive).place).entryAt? archive with
  | none => rfl
  | some entry =>
      -- what stands without the scratch directory stood with it
      have hstood := FileTree.entryAt?_of_eraseAll hfresh.not_isGiven hentry
      rw [entryAt?_of_pack_error hpacked hdated hfree] at hstood
      cases hstood

variable (hs : s.NamesFiles) (hd : (u.get t).NamesFiles)

include hs hd

/-- The compiled class stands strictly below the scratch directory, and the archive does not. -/
theorem place_compiledPath_ne :
    (s.compiledPath (w.scratchPath archive) (u.get t)).place ≠ archive.place := by
  rw [compiledPath_eq hs hd, place_outputPath hs hd _ slash_not_mem_classExtension]
  intro heq
  have hsame := place_eq_of_scratch hfresh (heq ▸ List.prefix_append _ _)
  rw [hsame, List.append_right_eq_self] at heq
  exact absurd heq (by simp)

/-- What stands at the path of the class when the archive is opened is what the compiler wrote. -/
theorem entryAt?_compiledPath {c : Compiler} (htakes : w₂.tree.Takes archive)
    (hclass : c.Wrote s (u.get t) (w.scratchPath archive) w₂.tree) :
    (opened archive w₂.tree).entryAt? (s.compiledPath (w.scratchPath archive) (u.get t)) =
      (c.classFile (s.outputPath (w.scratchPath archive) (u.get t) s.generatedExtension)).map
        fun file => .file file.content := by
  rw [entryAt?_opened htakes (place_compiledPath_ne hfresh hs hd), compiledPath_eq hs hd]
  exact hclass

section

variable {c : Compiler} (hw₂ : HasScratch w archive w₂) (hcompiler : w.compiler = some c)
  (hclass : c.Wrote s (u.get t) (w.scratchPath archive) w₂.tree)

include hw₂ hcompiler hclass

/-- An archive is filled with its description and the class that the compiler wrote, if the class
has a date that archives can hold. -/
theorem packed_iff_of_scratch :
    runFrom (writeArchive s (u.get t) (w.scratchPath archive) archive) w₂ = (.ok (), w₃) ↔
      w₂.tree.Takes archive ∧ ∃ file, WritesClass s u t archive w file ∧
        dateFault? file.year = none ∧ w₃ = { w₂ with
          tree := (opened archive w₂.tree).insert archive.place (.file (.archive
            [(manifestEntry, .text manifestText), (s.classEntry (u.get t), file.content)])) } := by
  rw [runFrom_writeArchive, pack_ok_iff]
  refine and_congr_right fun htakes => ?_
  rw [entryAt?_compiledPath hfresh hs hd htakes hclass]
  cases hfile : c.classFile
      (s.outputPath (w.scratchPath archive) (u.get t) s.generatedExtension) with
  | none => simp [WritesClass, hcompiler, hfile]
  | some file =>
      have hyear := classYear_eq (hw₂.compiler.trans hcompiler) hfile
      simp [WritesClass, hcompiler, hfile, hyear, Entry.member, memberName_classEntry hs hd]

/-- An archive is left with its description if the class that the compiler wrote has a date that
archives cannot hold. -/
theorem misdated_iff_of_scratch {fault : DateFault} :
    runFrom (writeArchive s (u.get t) (w.scratchPath archive) archive) w₂ =
        (.error (.misdated fault), w₃) ↔
      w₂.tree.Takes archive ∧
        (∃ file, WritesClass s u t archive w file ∧ dateFault? file.year = some fault) ∧
          w₃ = { w₂ with tree := opened archive w₂.tree } := by
  rw [runFrom_writeArchive, pack_misdated_iff]
  refine and_congr_right fun htakes => ?_
  rw [entryAt?_compiledPath hfresh hs hd htakes hclass, ← and_assoc]
  refine and_congr_left' ?_
  cases hfile : c.classFile
      (s.outputPath (w.scratchPath archive) (u.get t) s.generatedExtension) with
  | none => simp [WritesClass, hcompiler, hfile]
  | some file =>
      have hyear := classYear_eq (hw₂.compiler.trans hcompiler) hfile
      simp [WritesClass, hcompiler, hfile, hyear]

theorem returns_iff_of_packing
    (hpacked : runFrom (writeArchive s (u.get t) (w.scratchPath archive) archive) w₂ =
      (result, w₃)) :
    (∃ path, (result.map fun _ => archive) = .ok path) ↔
      PacksClass s u t archive w (.ok (w.scratchPath archive), w₂)
        fun year => 1980 ≤ year ∧ year ≤ 2107 := by
  constructor
  · rintro ⟨path, hpath⟩
    cases result with
    | error e => cases hpath
    | ok done =>
        obtain ⟨htakes, file, hfile, hdate, -⟩ :=
          (packed_iff_of_scratch hfresh hs hd hw₂ hcompiler hclass).1 hpacked
        exact ⟨⟨_, rfl⟩, htakes, file, hfile, dateFault?_eq_none_iff.1 hdate⟩
  · -- packing has one outcome, and with such a date it is a filled archive
    rintro ⟨-, htakes, file, hfile, hdate⟩
    have hrun := (packed_iff_of_scratch hfresh hs hd hw₂ hcompiler hclass).2
      ⟨htakes, file, hfile, dateFault?_eq_none_iff.2 hdate, rfl⟩
    rw [(Prod.mk.inj (hpacked.symm.trans hrun)).1]
    exact ⟨archive, rfl⟩

theorem misdates_iff_of_packing
    (hpacked : runFrom (writeArchive s (u.get t) (w.scratchPath archive) archive) w₂ =
      (result, w₃)) (fault : DateFault) :
    (result.map fun _ => archive) = .error (.misdated fault) ↔
      PacksClass s u t archive w (.ok (w.scratchPath archive), w₂)
        fun year => dateFault? year = some fault := by
  constructor
  · intro h
    cases result with
    | ok done => cases h
    | error e' =>
        obtain rfl := Except.error.inj h
        obtain ⟨htakes, hfile, -⟩ :=
          (misdated_iff_of_scratch hfresh hs hd hw₂ hcompiler hclass).1 hpacked
        exact ⟨⟨_, rfl⟩, htakes, hfile⟩
  · rintro ⟨-, htakes, hfile⟩
    have hrun := (misdated_iff_of_scratch hfresh hs hd hw₂ hcompiler hclass).2
      ⟨htakes, hfile, rfl⟩
    rw [(Prod.mk.inj (hpacked.symm.trans hrun)).1]
    rfl

/-- Packing fills the archive, leaves nothing in its place, or leaves it with its description for a
date, and nothing else is left. -/
theorem leavesArchive_of_packing
    (hpacked : runFrom (writeArchive s (u.get t) (w.scratchPath archive) archive) w₂ =
      (result, w₃)) :
    LeavesArchive s u t archive w (.ok (w.scratchPath archive), w₂)
      (result.map fun _ => archive, discarded (w.scratchPath archive) w₃) := by
  have hpack :=
    ((moves_writeArchive s (u.get t) (w.scratchPath archive) archive).of_run hpacked).tree
  have hstands := FileTree.entryAt?_directory_mono hw₂.stands hpack.directory
  have hmisdates := misdates_iff_of_packing hfresh hs hd hw₂ hcompiler hclass hpacked
  constructor
  case scratch =>
    intro location hbelow
    rw [lookup?_discarded hfresh hstands, if_pos hbelow]
  case rest =>
    -- directories were added before packing, and packing changed the place of the archive alone
    simp only [tree_discarded hstands]
    exact IsTrans.trans _ _ _ ((addsDirectories_discarded hfresh hw₂).placesFile _)
      ((hpack.eraseAll hfresh.not_isGiven).placesFile _)
  case returns => exact returns_iff_of_packing hfresh hs hd hw₂ hcompiler hclass hpacked
  case returned =>
    intro path hpath
    cases result with
    | error e => cases hpath
    | ok done =>
        obtain rfl := Except.ok.inj hpath
        obtain ⟨htakes, file, hfile, -, rfl⟩ :=
          (packed_iff_of_scratch hfresh hs hd hw₂ hcompiler hclass).1 hpacked
        refine ⟨rfl, file, hfile, entryAt?_discarded hfresh hw₂ hpack ?_⟩
        have hopened : (opened archive w₂.tree).Takes archive :=
          FileTree.takes_of_entryAt? (htakes.entryAt?_insert _)
        exact hopened.entryAt?_insert _
  case unpacked =>
    intro e h
    cases h
  case packing =>
    intro scratch hscratch
    obtain rfl := Except.ok.inj hscratch
    refine ⟨congrArg (Except.map fun _ => archive) (congrArg Prod.fst hpacked).symm, ?_⟩
    intro e he hdated hfree
    cases result with
    | ok done => cases he
    | error e' =>
        obtain rfl := Except.error.inj he
        exact entryAt?_of_unpacked hfresh hw₂ hpacked hdated hfree
  case early => simpa only [dateFault?_eq_early_iff] using hmisdates .early
  case late => simpa only [dateFault?_eq_late_iff] using hmisdates .late
  case misdated =>
    intro fault h
    cases result with
    | ok done => cases h
    | error e' =>
        obtain rfl := Except.error.inj h
        obtain ⟨htakes, -, rfl⟩ :=
          (misdated_iff_of_scratch hfresh hs hd hw₂ hcompiler hclass).1 hpacked
        exact entryAt?_discarded hfresh hw₂ hpack (htakes.entryAt?_insert _)

end

end

/-- The flow, for a type that names files if the gate lets it pass. -/
theorem leavesArchive (hs : s.NamesFiles)
    (hd : u.checkImplementable t = .ok () → (u.get t).NamesFiles)
    (hfresh : w.FreshScratch archive) :
    LeavesArchive s u t archive w (outcome (beforePacking s u t archive) w)
      (outcome (implementArchive s u t archive) w) := by
  have hrun := archiveRun s u t archive w
  generalize outcome (beforePacking s u t archive) w = before at hrun ⊢
  generalize outcome (implementArchive s u t archive) w = after at hrun ⊢
  cases hrun with
  | refused gate =>
      exact leavesArchive_of_error (fun _ => hfresh.lookup?_tree) (refl w.tree) fun _ => nofun
  | unprepared gate beside =>
      -- no scratch directory was created, but directories on its way may be new
      have hfiles := failsWith_scratchBeside archive _ _ _ beside
      rcases scratchBeside_cases w archive with ⟨e, hprepared⟩ | ⟨-, -, hcreated⟩
      · obtain ⟨-, rfl⟩ := Prod.mk.inj (beside.symm.trans hprepared)
        exact leavesArchive_of_error (fun _ => hfresh.lookup?_prepared)
          (w.addsDirectories_prepared archive) hfiles.ne_misdated
      · cases beside.symm.trans hcreated
  | uncompiled gate beside compiled =>
      obtain ⟨rfl, hscratch, -⟩ := scratchBeside_ok hfresh beside
      have hmoves := moves_compileBelow hs (hd gate) (w.scratchPath archive)
      -- what was done stays below the scratch directory, and is discarded with it
      have hleft := hscratch.of_staysBelow (hmoves.of_run compiled)
      refine leavesArchive_of_error (fun location hbelow => ?_) ?_
        (misdated_ne_of_compileBelow compiled)
      · rw [lookup?_discarded hfresh hleft.stands, if_pos hbelow]
      · rw [tree_discarded hleft.stands]
        exact addsDirectories_discarded hfresh hleft
  | packing gate beside compiled packed =>
      have hd := hd gate
      obtain ⟨rfl, hscratch, hempty⟩ := scratchBeside_ok hfresh beside
      have hmoves := (moves_compileBelow hs hd (w.scratchPath archive)).of_run compiled
      -- the scratch directory is new, so no class stands in it before it is compiled
      have hplace : (s.outputPath (w.scratchPath archive) (u.get t) classExtension).place = _ :=
        place_outputPath hs hd (w.scratchPath archive) slash_not_mem_classExtension
      have hnone := hempty _ (hplace ▸ List.prefix_append _ _) (by rw [hplace]; simp)
      obtain ⟨c, hcompiler, hclass⟩ := compileBelow_ok hs hd compiled hscratch.stands hnone
      exact leavesArchive_of_packing hfresh hs hd (hscratch.of_staysBelow hmoves)
        (hscratch.compiler ▸ hcompiler) hclass packed

/-- However the archive flow ends, for a type of a world that was loaded: no scratch directory is
left, and nothing is changed but the archive and directories on the way to it. The archive is
filled, or is as it was, or nothing stands there, unless the compiler dated its class in a year that
archives cannot hold: then one is left that holds its description alone. -/
theorem implementArchive_leaves {strict : Bool} {units : List SourceUnit} {r : Registry}
    (h : Registry.load strict units = .ok r) (ht : r.Offers t u) (hs : s.NamesFiles)
    (hfresh : w.FreshScratch archive) :
    LeavesArchive s u t archive w (outcome (beforePacking s u t archive) w)
      (outcome (implementArchive s u t archive) w) :=
  leavesArchive hs (Registry.namesFiles_of_offers h ht) hfresh

/-- A unit with a type that can be implemented. -/
def figureUnits : List SourceUnit :=
  [{ code := "package p; public interface Figure \x7b int sides(); \x7d" }]

/-- Files where one stands in the place of the archive. -/
def figureTree : FileTree :=
  ⟨[(["out"], .directory), (["out", "figure.jar"], .file (.text "an old archive"))]⟩

/-- A workshop with files, and with a compiler that writes a class of its own, dated in a year. -/
def figureWorkshop (year : Nat) (tree : FileTree) : Workshop where
  tree := tree
  workingDirectory := "/work"
  scratchName := "skeletal-1"
  compiler := some
    { command := "compiler"
      run := .ends true 0 "" ""
      classFile := fun _ => some { content := .bytes [202, 254, 186, 190], year } }

def figureArchive : FilePath := ⟨.relative, ["out", "figure.jar"]⟩

def figureScratch : FilePath := ⟨.within "/work", ["out", "skeletal-1"]⟩

/-- The files with a scratch directory. -/
def figureCreated : FileTree := figureTree.insert ["out", "skeletal-1"] .directory

/-- The files with a source and its class in the scratch directory. -/
def figureCompiled (source : String) : FileTree :=
  ⟨figureCreated.entries ++ [(["out", "skeletal-1", "p"], .directory),
    (["out", "skeletal-1", "p", "FigureImpl.java"], .file (.text source)),
    (["out", "skeletal-1", "p", "FigureImpl.class"], .file (.bytes [202, 254, 186, 190]))]⟩

theorem runFrom_scratchBeside_figure {w : Workshop} (hdirectory : w.workingDirectory = "/work")
    (hname : w.scratchName = "skeletal-1") (htree : w.tree = figureTree) :
    runFrom (scratchBeside figureArchive) w =
      (.ok figureScratch, { w with tree := figureCreated }) := by
  have hcreate : runFrom (do
      FileAction.ensureDirectories ⟨.within "/work", ["out"]⟩
      FileAction.makeDirectory figureScratch) figureTree = (.ok (), figureCreated) := by
    decide +kernel
  obtain ⟨tree, directory, name, compiler, commands⟩ := w
  obtain rfl : directory = "/work" := hdirectory
  obtain rfl : name = "skeletal-1" := hname
  obtain rfl : tree = figureTree := htree
  rw [scratchBeside, runFrom_bind, runFrom_get]
  simp only
  rw [runFrom_bind, runFrom_onFiles]
  erw [hcreate]
  rfl

/-- The source and its class are put in place, whatever the source is. -/
theorem runFrom_compileBelow_figure (year : Nat) {source : String}
    (hsource : ({} : Settings).generateSource u t = .ok source)
    (hpath : ({} : Settings).outputPath figureScratch (u.get t) ".java" =
      ⟨.within "/work", ["out", "skeletal-1", "p", "FigureImpl.java"]⟩) :
    ∃ w₂, runFrom (compileBelow {} u t figureScratch) (figureWorkshop year figureCreated) =
        (.ok (), w₂) ∧ w₂.tree = figureCompiled source ∧
      w₂.compiler = (figureWorkshop year figureTree).compiler := by
  rw [compileBelow, runFrom_bind, runFrom_implement_of_ok _ _ hsource]
  simp only
  rw [hpath]
  exact ⟨_, rfl, rfl, rfl⟩

/-- The class comes to be packed. -/
theorem packsClass_figure (year : Nat) : ∃ r t u, Registry.load true figureUnits = .ok r ∧
    r.resolve "p.Figure" = .ok (t, u) ∧
      (outcome (beforePacking {} u t figureArchive)
        (figureWorkshop year figureTree)).2.tree.entryAt? figureArchive ≠ some .directory ∧
      PacksClass {} u t figureArchive (figureWorkshop year figureTree)
        (outcome (beforePacking {} u t figureArchive) (figureWorkshop year figureTree))
        (· = year) := by
  have htest : Registry.resolvesTo true figureUnits "p.Figure" (fun t u =>
      ({} : Settings).generatesPlain u t &&
        ({} : Settings).outputPath figureScratch (u.get t) ".java" ==
          ⟨.within "/work", ["out", "skeletal-1", "p", "FigureImpl.java"]⟩) = true := by
    decide +kernel
  obtain ⟨r, t, u, hload, hresolve, hfigure⟩ := Registry.exists_of_resolvesTo htest
  rw [Bool.and_eq_true, beq_iff_eq] at hfigure
  obtain ⟨source, hsource⟩ := Settings.exists_generateSource
    (Registry.hasResults_of_offers hload (Or.inr ⟨_, hresolve⟩)) hfigure.1
  obtain ⟨w₂, hcompile, htree, hcompiler⟩ := runFrom_compileBelow_figure year hsource hfigure.2
  have hbefore : outcome (beforePacking {} u t figureArchive) (figureWorkshop year figureTree) =
      (.ok figureScratch, w₂) := by
    change runFrom (beforePacking {} u t figureArchive) (figureWorkshop year figureTree) = _
    rw [beforePacking, runFrom_bind, runFrom_ofSynthesis,
      Settings.checkImplementable_of_generateSource hsource]
    have hbeside : runFrom (scratchBeside figureArchive) (figureWorkshop year figureTree) =
        (.ok figureScratch, figureWorkshop year figureCreated) :=
      runFrom_scratchBeside_figure rfl rfl rfl
    simp only [runFrom_bind, hbeside, hcompile, runFrom_pure]
  have hstands : w₂.tree.entryAt? figureArchive = some (.file (.text "an old archive")) := by
    rw [htree]
    rfl
  refine ⟨r, t, u, hload, hresolve, ?_, ?_⟩
  · rw [hbefore, hstands]
    exact nofun
  · rw [hbefore]
    exact ⟨⟨_, rfl⟩, FileTree.takes_of_entryAt? hstands, _, ⟨_, rfl, rfl⟩, rfl⟩

/-- The flow of a loaded type in the workshop. It returns, and the archive is filled. -/
theorem implementArchive_leaves_figure : ∃ r t u, Registry.load true figureUnits = .ok r ∧
    r.resolve "p.Figure" = .ok (t, u) ∧ ({} : Settings).NamesFiles ∧
      (figureWorkshop 2000 figureTree).FreshScratch figureArchive ∧
        LeavesArchive {} u t figureArchive (figureWorkshop 2000 figureTree)
          (outcome (beforePacking {} u t figureArchive) (figureWorkshop 2000 figureTree))
          (outcome (implementArchive {} u t figureArchive) (figureWorkshop 2000 figureTree)) ∧
        (outcome (implementArchive {} u t figureArchive) (figureWorkshop 2000 figureTree)).1 =
          .ok figureArchive ∧
        (outcome (implementArchive {} u t figureArchive)
            (figureWorkshop 2000 figureTree)).2.tree.entryAt? figureArchive =
          some (.file (.archive [("META-INF/MANIFEST.MF", .text "Manifest-Version: 1.0\r\n\r\n"),
            (({} : Settings).classEntry (u.get t), .bytes [202, 254, 186, 190])])) := by
  have hfresh : (figureWorkshop 2000 figureTree).FreshScratch figureArchive := by decide +kernel
  obtain ⟨r, t, u, hload, hresolve, -, hpacks⟩ := packsClass_figure 2000
  have hleaves := implementArchive_leaves hload (Or.inr ⟨_, hresolve⟩)
    Settings.namesFiles_default hfresh
  obtain ⟨path, hpath⟩ := hleaves.returns.2 (hpacks.imp (by decide))
  obtain ⟨rfl, file, ⟨c, hcompiler, hfile⟩, hfilled⟩ := hleaves.returned path hpath
  obtain rfl := Option.some.inj hcompiler
  obtain rfl := Option.some.inj hfile
  exact ⟨r, t, u, hload, hresolve, Settings.namesFiles_default, hfresh, hleaves, hpath, hfilled⟩

/-- A class that is dated in 1970 is not packed, and an archive with its description alone is left
where no directory stands. -/
theorem figure_misdated : ∃ r t u, Registry.load true figureUnits = .ok r ∧
    r.resolve "p.Figure" = .ok (t, u) ∧
      (figureWorkshop 1970 figureTree).FreshScratch figureArchive ∧
      (∃ scratch, (outcome (beforePacking {} u t figureArchive)
        (figureWorkshop 1970 figureTree)).1 = .ok scratch) ∧
      (outcome (beforePacking {} u t figureArchive)
        (figureWorkshop 1970 figureTree)).2.tree.entryAt? figureArchive ≠ some .directory ∧
      (outcome (implementArchive {} u t figureArchive) (figureWorkshop 1970 figureTree)).1 =
        .error (.misdated .early) ∧
      (outcome (implementArchive {} u t figureArchive)
          (figureWorkshop 1970 figureTree)).2.tree.entryAt? figureArchive =
        some (.file (.archive [("META-INF/MANIFEST.MF",
          .text "Manifest-Version: 1.0\r\n\r\n")])) := by
  have hfresh : (figureWorkshop 1970 figureTree).FreshScratch figureArchive := by decide +kernel
  obtain ⟨r, t, u, hload, hresolve, hfree, hpacks⟩ := packsClass_figure 1970
  have hleaves := leavesArchive Settings.namesFiles_default
    (Registry.namesFiles_of_offers hload (Or.inr ⟨_, hresolve⟩)) hfresh
  have hfails := hleaves.early.2 (hpacks.imp (by decide))
  exact ⟨r, t, u, hload, hresolve, hfresh, hpacks.begins, hfree, hfails,
    hleaves.misdated .early hfails⟩

/-- Settings with a suffix that leads out of the scratch directory. -/
def strayingSettings : Settings := { classSuffix := "/../../../Impl" }

/-- A workshop with files and without a compiler. -/
def bareWorkshop (tree : FileTree) : Workshop :=
  { figureWorkshop 2000 tree with compiler := none }

/-- The files with a source beside the scratch directory. -/
def figureStrayed (source : String) : FileTree :=
  ⟨figureCreated.entries ++ [(["out", "skeletal-1", "p"], .directory),
    (["out", "skeletal-1", "p", "Figure"], .directory),
    (["out", "Impl.java"], .file (.text source))]⟩

theorem runFrom_compileBelow_strayed {source : String}
    (hsource : strayingSettings.generateSource u t = .ok source)
    (hpath : strayingSettings.outputPath figureScratch (u.get t) ".java" =
      ⟨.within "/work", ["out", "skeletal-1", "p", "Figure", "..", "..", "..", "Impl.java"]⟩) :
    ∃ e, runFrom (compileBelow strayingSettings u t figureScratch) (bareWorkshop figureCreated) =
      (.error e, bareWorkshop (figureStrayed source)) := by
  -- the directories of the path are created one by one, also those that lead up again
  have hwritten : runFrom (writeSource
      (strayingSettings.outputPath figureScratch (u.get t) ".java") source)
        (bareWorkshop figureCreated) = (.ok (), bareWorkshop (figureStrayed source)) := by
    rw [hpath]
    rfl
  rw [compileBelow, runFrom_bind, runFrom_implement_of_ok _ _ hsource]
  erw [hwritten]
  exact ⟨_, rfl⟩

/-- Why the suffix is to hold no slash: with this one the source is left beside the scratch
directory, where there was no file. -/
theorem figure_strays : ∃ r t u source, Registry.load true figureUnits = .ok r ∧
    r.resolve "p.Figure" = .ok (t, u) ∧ strayingSettings.generateSource u t = .ok source ∧
      (bareWorkshop figureTree).tree.entryAt? ⟨.relative, ["out", "Impl.java"]⟩ = none ∧
      (outcome (implementArchive strayingSettings u t figureArchive)
          (bareWorkshop figureTree)).2.tree.entryAt? ⟨.relative, ["out", "Impl.java"]⟩ =
        some (.file (.text source)) := by
  have htest : Registry.resolvesTo true figureUnits "p.Figure" (fun t u =>
      strayingSettings.generatesPlain u t &&
        strayingSettings.outputPath figureScratch (u.get t) ".java" ==
          ⟨.within "/work", ["out", "skeletal-1", "p", "Figure", "..", "..", "..", "Impl.java"]⟩) =
        true := by
    decide +kernel
  obtain ⟨r, t, u, hload, hresolve, hfigure⟩ := Registry.exists_of_resolvesTo htest
  rw [Bool.and_eq_true, beq_iff_eq] at hfigure
  obtain ⟨source, hsource⟩ := Settings.exists_generateSource
    (Registry.hasResults_of_offers hload (Or.inr ⟨_, hresolve⟩)) hfigure.1
  obtain ⟨e, hcompiled⟩ := runFrom_compileBelow_strayed hsource hfigure.2
  have hbeside : runFrom (scratchBeside figureArchive) (bareWorkshop figureTree) =
      (.ok figureScratch, bareWorkshop figureCreated) :=
    runFrom_scratchBeside_figure rfl rfl rfl
  refine ⟨r, t, u, source, hload, hresolve, hsource, by decide +kernel, ?_⟩
  change (runFrom (implementArchive strayingSettings u t figureArchive)
    (bareWorkshop figureTree)).2.tree.entryAt? _ = _
  rw [implementArchive, runFrom_bind, runFrom_ofSynthesis,
    Settings.checkImplementable_of_generateSource hsource]
  simp only [runFrom_withScratch, hbeside, runFrom_bind, hcompiled]
  -- only what is below the scratch directory is discarded
  rfl

end Implementing

end Skeletal
