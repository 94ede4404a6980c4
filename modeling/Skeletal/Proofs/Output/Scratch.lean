import Skeletal.Proofs.Output.Implement

/-!
# Scratch directories

A scratch directory of a fresh name is created beside an archive, or directories are added on its
way and no more (`scratchBeside_cases`). Work in a scratch directory ends with its removal
(`runFrom_withScratch`).
-/

set_option autoImplicit false

namespace Skeletal

open FileTree (AddsDirectories Confined isGiven)

namespace Workshop

/-- Directory that an archive is to stand in. -/
def archiveDirectory (w : Workshop) (archive : FilePath) : FilePath :=
  (archive.absolute w.workingDirectory).parent

/-- Path of the scratch directory beside an archive. -/
def scratchPath (w : Workshop) (archive : FilePath) : FilePath :=
  (w.archiveDirectory archive).below w.scratchName

/-- The files when the scratch directory is to be created. -/
def prepared (w : Workshop) (archive : FilePath) : FileTree :=
  (runFrom (FileAction.ensureDirectories (w.archiveDirectory archive)) w.tree).2

/-- The name of the scratch directory is fresh: it is the name of a file, and where the directory is
to be created nothing stands. -/
def FreshScratch (w : Workshop) (archive : FilePath) : Prop :=
  IsFileName w.scratchName ∧
    ∀ e ∈ (w.prepared archive).entries, ¬ (w.scratchPath archive).place <+: e.1

instance (w : Workshop) (archive : FilePath) : Decidable (w.FreshScratch archive) :=
  inferInstanceAs (Decidable (_ ∧ _))

variable {w : Workshop} {archive : FilePath} {location : Location}

/-- The directory of an archive is found from where the archive is. -/
theorem archiveDirectory_eq (w : Workshop) {segments : List String} {name : String}
    (h : archive.segments = segments ++ [name]) :
    (w.archiveDirectory archive).segments = segments ∧
      FileTree.anchorLocation (w.archiveDirectory archive).anchor =
        FileTree.anchorLocation archive.anchor := by
  obtain ⟨anchor, _⟩ := archive
  obtain rfl := h
  rw [archiveDirectory, FilePath.absolute]
  cases anchor with
  | relative => rw [FilePath.parent_append_singleton]; exact ⟨rfl, rfl⟩
  | top slashes => rw [FilePath.parent_append_singleton]; exact ⟨rfl, rfl⟩
  | within directory => rw [FilePath.parent_append_singleton]; exact ⟨rfl, rfl⟩

theorem addsDirectories_prepared (w : Workshop) (archive : FilePath) :
    AddsDirectories (w.archiveDirectory archive) w.tree (w.prepared archive) :=
  FileAction.moves_ensureDirectories _ w.tree

theorem scratchPath_eq (h : IsFileName w.scratchName) :
    w.scratchPath archive = ⟨(w.archiveDirectory archive).anchor,
      (w.archiveDirectory archive).segments ++ [w.scratchName]⟩ :=
  FilePath.below_of_isFileName h _

theorem place_scratchPath (h : IsFileName w.scratchName) :
    (w.scratchPath archive).place = (w.archiveDirectory archive).place ++ [w.scratchName] := by
  rw [scratchPath_eq h]
  exact FileTree.place_append_names (by simpa using h) _ _

/-- No location of the scratch directory is given. -/
theorem FreshScratch.not_isGiven (h : w.FreshScratch archive) (location : Location)
    (hbelow : (w.scratchPath archive).place <+: location) : isGiven location = false := by
  rw [place_scratchPath h.1] at hbelow
  exact FileTree.not_isGiven_of_mem h.1 (hbelow.subset (by simp))

/-- Nothing stands at or below the scratch directory before it is created. -/
theorem FreshScratch.lookup?_prepared (h : w.FreshScratch archive)
    (hbelow : (w.scratchPath archive).place <+: location) :
    (w.prepared archive).lookup? location = none := by
  rw [FileTree.lookup?_of_not_isGiven (h.not_isGiven _ hbelow),
    List.lookup_eq_none_iff]
  intro e he
  rw [bne_iff_ne]
  rintro rfl
  exact h.2 e he hbelow

theorem FreshScratch.lookup?_tree (h : w.FreshScratch archive)
    (hbelow : (w.scratchPath archive).place <+: location) : w.tree.lookup? location = none := by
  cases hlookup : w.tree.lookup? location with
  | none => rfl
  | some entry =>
      have hstays := (addsDirectories_prepared w archive).lookup? hlookup
      rw [h.lookup?_prepared hbelow] at hstays
      cases hstays

end Workshop

namespace Implementing

variable {w w' : Workshop} {archive scratch : FilePath} {α : Type}

/-- The scratch directory is created where nothing stood, or no more than its way is prepared. -/
theorem scratchBeside_cases (w : Workshop) (archive : FilePath) :
    (∃ e, runFrom (scratchBeside archive) w = (.error e, { w with tree := w.prepared archive })) ∨
      (w.prepared archive).locate (w.scratchPath archive) = .ok (w.scratchPath archive).place ∧
        (w.prepared archive).lookup? (w.scratchPath archive).place = none ∧
        runFrom (scratchBeside archive) w = (.ok (w.scratchPath archive), { w with
          tree := (w.prepared archive).insert (w.scratchPath archive).place Entry.directory }) := by
  simp only [scratchBeside, runFrom_bind, runFrom_get, runFrom_onFiles, runFrom_pure,
    Workshop.prepared, Workshop.scratchPath, Workshop.archiveDirectory]
  generalize (archive.absolute w.workingDirectory).parent = directory
  rcases runFrom (FileAction.ensureDirectories directory) w.tree with ⟨e | ⟨⟩, tree⟩
  · exact Or.inl ⟨_, rfl⟩
  · simp only
    rcases FileAction.makeDirectory_cases (directory.below w.scratchName) tree with
      ⟨e, hrun⟩ | ⟨hlocate, hnone, hrun⟩
    · rw [hrun]
      exact Or.inl ⟨_, rfl⟩
    · rw [hrun]
      exact Or.inr ⟨hlocate, hnone, rfl⟩

theorem failsWith_scratchBeside (archive : FilePath) :
    FailsWith OfFiles (scratchBeside archive) := by
  refine failsWith_get.bind fun w => ?_
  refine (failsWith_onFiles (fun e => ?_) _).bind fun _ => failsWith_pure _
  split
  · exact .cleanUp e
  · exact .placement _

/-- A scratch directory that was created beside an archive stands, and nothing else was changed. -/
structure HasScratch (w : Workshop) (archive : FilePath) (w' : Workshop) : Prop where
  located : (w.prepared archive).locate (w.scratchPath archive) =
    .ok (w.scratchPath archive).place
  compiler : w'.compiler = w.compiler
  confined : Confined ((w.scratchPath archive).place <+: ·) (w.prepared archive) w'.tree
  stands : w'.tree.entryAt? (w.scratchPath archive) = some .directory

/-- A scratch directory is created empty. -/
theorem scratchBeside_ok (hfresh : w.FreshScratch archive)
    (h : runFrom (scratchBeside archive) w = (.ok scratch, w')) :
    scratch = w.scratchPath archive ∧ HasScratch w archive w' ∧
      ∀ location, scratch.place <+: location → location ≠ scratch.place →
        w'.tree.lookup? location = none := by
  rcases scratchBeside_cases w archive with ⟨e, hrun⟩ | ⟨hlocate, hnone, hrun⟩
  · rw [hrun] at h
    cases h
  · rw [hrun] at h
    obtain ⟨hscratch, rfl⟩ := Prod.mk.inj h
    obtain rfl := Except.ok.inj hscratch
    have hfree : (w.prepared archive).lookup? (w.scratchPath archive).place ≠ some .directory := by
      rw [hnone]
      exact (Option.some_ne_none _).symm
    have hinsert := FileTree.confined_insert hfree Entry.directory
    refine ⟨rfl, ⟨hlocate, rfl, ?_, ?_⟩, fun location hbelow hne => ?_⟩
    · exact hinsert.mono fun l hl => hl ▸ List.prefix_rfl
    · refine FileTree.entryAt?_eq_some_iff.2
        ⟨FileTree.locate_mono hlocate hinsert.directory, ?_⟩
      rw [FileTree.lookup?_insert (FileTree.not_isGiven_of_lookup? hfree), if_pos rfl]
    · rw [hinsert.outside location hne]
      exact hfresh.lookup?_prepared hbelow

/-- The workshop without a scratch directory. -/
def discarded (scratch : FilePath) (w : Workshop) : Workshop :=
  match w.tree.locate scratch with
  | .ok location => { w with tree := w.tree.eraseAll location }
  | .error _ => w

theorem tree_discarded (h : w.tree.entryAt? scratch = some .directory) :
    (discarded scratch w).tree = w.tree.eraseAll scratch.place := by
  rw [discarded, (FileTree.entryAt?_eq_some_iff.1 h).1]

/-- However the work in a scratch directory ends, the directory is discarded after it. -/
theorem runFrom_withScratch (p : FilePath) (work : FilePath → Implementing α) (w : Workshop) :
    runFrom (withScratch p work) w =
      match runFrom (scratchBeside p) w with
      | (.error e, w) => (.error e, w)
      | (.ok scratch, w) =>
        ((runFrom (work scratch) w).1, discarded scratch (runFrom (work scratch) w).2) := by
  rw [withScratch, runFrom_bind]
  rcases runFrom (scratchBeside p) w with ⟨e | scratch, w'⟩
  · rfl
  · simp only [runFrom_bind, runFrom_tryCatch, runFrom_map]
    rcases runFrom (work scratch) w' with ⟨e | a, w''⟩
    · rfl
    · rfl

end Implementing

end Skeletal
