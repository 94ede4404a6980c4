import Skeletal.FileTree.Discovery
import Skeletal.Proofs.FileTree.Barred
import Skeletal.Proofs.FileTree.NullFree

/-!
# Directories that can be created

A directory is created with all directories above it if the system takes its path and no file stands
on the way (`FileAction.exists_ensureDirectories`). The files below a location stay the same, and a
file that is put in a free place comes last of them (`FileTree.filesBelow_insert_file`).
-/

set_option autoImplicit false

namespace Skeletal

namespace FilePath

/-- The system takes the path with all its names: it is free of null characters, and neither the
path nor one of its names is too long. -/
def FitsWhole (p : FilePath) : Prop :=
  p.Admissible ∧ ∀ segment ∈ p.segments, segment.utf8ByteSize ≤ maxNameBytes

instance (p : FilePath) : Decidable p.FitsWhole := inferInstanceAs (Decidable (_ ∧ _))

variable {anchor : Anchor} {segments rest : List String} {directory : String} {p : FilePath}

/-- The text of a path goes on from that of a path above it. -/
theorem utf8ByteSize_joined_le (segments rest : List String) :
    ("/".intercalate segments).utf8ByteSize ≤
      ("/".intercalate (segments ++ rest)).utf8ByteSize := by
  rcases segments with _ | ⟨first, more⟩
  · exact Nat.zero_le _
  · rcases rest with _ | ⟨next, others⟩
    · rw [List.append_nil]
    · rw [String.intercalate_append_of_ne_nil (by simp) (by simp), String.utf8ByteSize_append,
        String.utf8ByteSize_append, Nat.add_assoc]
      exact Nat.le_add_right _ _

theorem utf8ByteSize_text_le (anchor : Anchor) (segments rest : List String) :
    (text ⟨anchor, segments⟩).utf8ByteSize ≤
      max 1 (text ⟨anchor, segments ++ rest⟩).utf8ByteSize := by
  have hjoined := utf8ByteSize_joined_le segments rest
  cases anchor with
  | relative =>
      rcases segments with _ | ⟨first, more⟩
      · exact le_max_left _ _
      · exact hjoined.trans (le_max_right _ _)
  | top slashes =>
      refine le_trans ?_ (le_max_right _ _)
      rw [text, text, String.utf8ByteSize_append, String.utf8ByteSize_append]
      exact Nat.add_le_add_left hjoined _
  | within directory =>
      refine le_trans ?_ (le_max_right _ _)
      rcases segments with _ | ⟨first, more⟩
      · rcases rest with _ | ⟨next, others⟩
        · exact le_rfl
        · change directory.utf8ByteSize ≤ (directory ++ "/" ++ _).utf8ByteSize
          rw [String.append_assoc, String.utf8ByteSize_append]
          exact Nat.le_add_right _ _
      · change (directory ++ "/" ++ _).utf8ByteSize ≤ (directory ++ "/" ++ _).utf8ByteSize
        simp only [String.utf8ByteSize_append]
        exact Nat.add_le_add_left hjoined _

theorem Admissible.of_append (h : Admissible ⟨anchor, segments ++ rest⟩) :
    Admissible ⟨anchor, segments⟩ := by
  refine ⟨?_, (utf8ByteSize_text_le anchor segments rest).trans (max_le (by decide) h.2)⟩
  exact NullFree.of_segments h.1 (List.subset_append_left _ _)

/-- The system takes the paths above one that it takes. -/
theorem FitsWhole.of_append (h : FitsWhole ⟨anchor, segments ++ rest⟩) :
    FitsWhole ⟨anchor, segments⟩ :=
  ⟨h.1.of_append, fun segment hsegment => h.2 segment (List.mem_append_left _ hsegment)⟩

theorem FitsWhole.fits (h : p.FitsWhole) : p.Fits := by
  refine ⟨h.1, ?_⟩
  rw [name, List.getLastD_eq_getLast?]
  cases hlast : p.segments.getLast? with
  | none => exact Nat.zero_le _
  | some segment => exact h.2 segment (List.mem_of_getLast? hlast)

end FilePath

namespace FileTree

variable {tree tree' : FileTree} {p : FilePath} {anchor : Anchor} {segments rest : List String}
  {location below : Location} {content : Content} {path : List String} {name : String}

/-! ## Ways without files -/

/-- The system takes the path, and no file stands on the way to it nor in its place. -/
structure Clear (tree : FileTree) (p : FilePath) : Prop where
  fits : p.FitsWhole
  free : ∀ location, p.ComesBy location → ∀ content, tree.lookup? location ≠ some (.file content)

theorem Clear.of_append (h : tree.Clear ⟨anchor, segments ++ rest⟩) :
    tree.Clear ⟨anchor, segments⟩ where
  fits := h.fits.of_append
  free location := fun ⟨way, hway, hlocation⟩ =>
    h.free location ⟨way, hway.trans (List.prefix_append _ _), hlocation⟩

/-- Directories that are added leave a way clear. -/
theorem Clear.of_addsDirectories {way : FilePath} (h : tree.Clear p)
    (hadds : AddsDirectories way tree tree') : tree'.Clear p where
  fits := h.fits
  free location hway content hfile := by
    rcases hadds location with hsame | ⟨-, hdirectory, -⟩
    · exact h.free location hway content (hsame ▸ hfile)
    · rw [hfile] at hdirectory
      cases hdirectory

theorem follow_of_free (hshort : ∀ segment ∈ segments, segment.utf8ByteSize ≤ maxNameBytes)
    (hfree : ∀ way, way <+: segments → ∀ content,
      tree.lookup? (way.foldl step location) ≠ some (.file content)) :
    tree.follow location segments = .ok (segments.foldl step location) ∨
      tree.follow location segments = .error .notFound := by
  -- each step meets a directory, or nothing
  induction segments generalizing location with
  | nil => exact Or.inl rfl
  | cons segment rest ih =>
      rw [follow]
      cases hlookup : tree.lookup? location with
      | none => exact Or.inr rfl
      | some entry =>
          cases entry with
          | file content => exact absurd hlookup (hfree [] List.nil_prefix content)
          | directory =>
              simp only
              rw [if_neg (Nat.not_lt.2 (hshort segment List.mem_cons_self))]
              refine ih (fun s hs => hshort s (List.mem_cons_of_mem segment hs)) fun way hway => ?_
              exact hfree (segment :: way) (List.prefix_cons_inj segment |>.2 hway)

/-- A clear path leads to its place, unless a directory on the way is missing. -/
theorem Clear.locate (h : tree.Clear p) :
    tree.locate p = .ok p.place ∨ tree.locate p = .error .notFound := by
  obtain ⟨⟨⟨hnull, hlong⟩, hshort⟩, hfree⟩ := h
  rw [FileTree.locate, if_neg (by simpa using hnull), if_neg (Nat.not_lt.2 hlong)]
  exact follow_of_free hshort fun way hway => hfree _ ⟨way, hway, rfl⟩

/-- Above a directory that stands, directories stand. -/
theorem entryAt?_of_append
    (h : tree.entryAt? ⟨anchor, segments ++ rest⟩ = some .directory) :
    tree.entryAt? ⟨anchor, segments⟩ = some .directory := by
  obtain ⟨hlocate, hdirectory⟩ := entryAt?_eq_some_iff.1 h
  obtain ⟨hadmissible, hleads, -⟩ := locate_eq_ok_iff.1 hlocate
  obtain ⟨hway, hrest⟩ := leads_append_iff.1 hleads
  refine entryAt?_eq_some_iff.2 ⟨locate_eq_ok_iff.2 ⟨hadmissible.of_append, hway, rfl⟩, ?_⟩
  cases rest with
  | nil => rwa [List.append_nil] at hdirectory
  | cons segment rest => exact hrest.directory

/-! ## Places of names -/

/-- A path of names leads to a place of its own length. -/
theorem place_of_names {names : List String} (h : ∀ name ∈ names, IsFileName name)
    (anchor : Anchor) :
    FilePath.place ⟨anchor, names⟩ = anchorLocation anchor ++ names :=
  place_append_names h anchor []

/-- What is added on the way of a path does not stand behind it. -/
theorem lookup?_of_longer {way names : List String}
    (hadds : AddsDirectories ⟨anchor, way⟩ tree tree')
    (hnames : ∀ name ∈ names, IsFileName name) (hway : way <+: names) (hlonger : way ≠ names)
    (hnone : tree.lookup? (FilePath.place ⟨anchor, names⟩) = none) :
    tree'.lookup? (FilePath.place ⟨anchor, names⟩) = none := by
  rcases hadds (FilePath.place ⟨anchor, names⟩) with hsame | ⟨-, -, shorter, hshorter, hplace⟩
  · rw [hsame, hnone]
  · have hbelow : ∀ name ∈ shorter, IsFileName name := fun name hname =>
      hnames name ((hshorter.trans hway).subset hname)
    rw [place_of_names hnames, place_of_names hbelow, List.append_cancel_left_eq] at hplace
    exact absurd (hway.eq_of_length_le (hplace ▸ hshorter.length_le)) hlonger

/-! ## Files below a location -/

theorem ne_of_mem_entries (h : tree.lookup? location = none) :
    ∀ e ∈ tree.entries, e.1 ≠ location := by
  have hgiven := not_isGiven_of_lookup? (h ▸ (Option.some_ne_none _).symm)
  rw [lookup?_of_not_isGiven hgiven, List.lookup_eq_none_iff] at h
  intro e he heq
  exact bne_iff_ne.1 (h e he) heq.symm

/-- What is put in a free place comes last. -/
theorem entries_insert (h : tree.lookup? location = none) (entry : Entry) :
    (tree.insert location entry).entries = tree.entries ++ [(location, entry)] := by
  have hall : tree.entries.filter (fun e => e.1 ≠ location) = tree.entries :=
    List.filter_eq_self.2 fun e he => decide_eq_true (ne_of_mem_entries h e he)
  rw [insert, erase, hall]

theorem filesBelow_insert_directory (h : tree.lookup? location = none) (below : Location) :
    (tree.insert location .directory).filesBelow below = tree.filesBelow below := by
  rw [filesBelow, entries_insert h, List.filterMap_append]
  exact List.append_nil _

/-- A file that is put in a free place comes last of the files there. -/
theorem filesBelow_insert_file (hpath : path ≠ [])
    (h : tree.lookup? (below ++ path) = none) (content : Content) :
    (tree.insert (below ++ path) (.file content)).filesBelow below =
      tree.filesBelow below ++ [path] := by
  rw [filesBelow, entries_insert h, List.filterMap_append, filesBelow, List.append_cancel_left_eq,
    List.filterMap_cons_some (b := path)]
  · rfl
  · simp [hpath]

/-- The same files stand below each location, in the same order. -/
def KeepsFiles (tree tree' : FileTree) : Prop :=
  ∀ location, tree'.filesBelow location = tree.filesBelow location

instance : IsPreorder FileTree KeepsFiles where
  refl _ _ := rfl
  trans _ _ _ h h' := fun location => (h' location).trans (h location)

/-! ## Clear ways lead on -/

/-- Below a directory that stands, a clear path leads to its place. -/
theorem Clear.locate_of_entryAt? (h : tree.Clear ⟨anchor, segments ++ [name]⟩)
    (habove : tree.entryAt? ⟨anchor, segments⟩ = some .directory) :
    tree.locate ⟨anchor, segments ++ [name]⟩ =
      .ok (FilePath.place ⟨anchor, segments ++ [name]⟩) := by
  obtain ⟨hlocate, hdirectory⟩ := entryAt?_eq_some_iff.1 habove
  obtain ⟨-, hleads, -⟩ := locate_eq_ok_iff.1 hlocate
  refine locate_eq_ok_iff.2 ⟨h.fits.1, leads_append_iff.2 ⟨hleads, ?_⟩, rfl⟩
  exact .cons hdirectory (h.fits.2 name (by simp)) .nil

end FileTree

namespace FileAction

open FileTree (AddsDirectories Clear)

variable {p : FilePath} {tree : FileTree} {anchor : Anchor} {segments : List String}

/-- Behind directories that stand, a directory is created in a free place. -/
theorem makeDirectory_ok (hlocate : tree.locate p = .ok p.place)
    (hnone : tree.lookup? p.place = none) :
    runFrom (makeDirectory p) tree = (.ok (), tree.insert p.place .directory) := by
  rw [makeDirectory, runFrom_bind, runFrom_locate, hlocate]
  simp only [runFrom_bind, runFrom_get, hnone]
  rfl

theorem exists_ensureDirectory (h : tree.Clear p) (hlocate : tree.locate p = .ok p.place) :
    ∃ tree', runFrom (ensureDirectory p) tree = (.ok (), tree') := by
  cases hlookup : tree.lookup? p.place with
  | none =>
      refine ⟨tree.insert p.place .directory, ?_⟩
      rw [ensureDirectory, runFrom_tryCatch, makeDirectory_ok hlocate hlookup]
  | some entry =>
      cases entry with
      | file content => exact absurd hlookup (h.free _ ⟨_, List.prefix_rfl, rfl⟩ content)
      | directory =>
          exact ⟨tree, ensureDirectory_of_entryAt?
            (FileTree.entryAt?_eq_some_iff.2 ⟨hlocate, hlookup⟩)⟩

theorem ensureDirectory_of_notFound (hlocate : tree.locate p = .error .notFound) :
    runFrom (ensureDirectory p) tree = (.error ⟨.notFound, p.text⟩, tree) := by
  rw [ensureDirectory, runFrom_tryCatch, makeDirectory, runFrom_bind, runFrom_locate, hlocate]
  rfl

/-- A directory is created with those above it if the way is clear. -/
theorem exists_ensureDirectoriesTo (h : tree.Clear ⟨anchor, segments.reverse⟩) :
    ∃ tree', runFrom (ensureDirectoriesTo anchor segments) tree = (.ok (), tree') := by
  induction segments generalizing tree with
  | nil =>
      exact exists_ensureDirectory h (FileTree.locate_eq_ok_iff.2 ⟨h.fits.1, .nil, rfl⟩)
  | cons segment up ih =>
      rw [ensureDirectoriesTo]
      simp only [runFrom_tryCatch]
      rcases h.locate with hlocate | hlocate
      · obtain ⟨tree', hrun⟩ := exists_ensureDirectory h hlocate
        exact ⟨tree', by rw [hrun]⟩
      · -- what is above is created first, and then the directory itself
        have hsegments : (segment :: up).reverse = up.reverse ++ [segment] := List.reverse_cons
        rw [hsegments] at h hlocate ⊢
        obtain ⟨tree₁, hup⟩ := ih h.of_append
        have habove : tree₁.entryAt? ⟨anchor, up.reverse⟩ = some .directory :=
          ensureDirectories_ok (by rw [ensureDirectories, List.reverse_reverse, hup])
        have hclear : tree₁.Clear ⟨anchor, up.reverse ++ [segment]⟩ :=
          h.of_addsDirectories ((addsDirectories_ensureDirectoriesTo anchor up).of_run hup)
        have hlocate₁ : tree₁.locate ⟨anchor, up.reverse ++ [segment]⟩ = .ok _ :=
          hclear.locate_of_entryAt? habove
        obtain ⟨tree', hrun⟩ := exists_ensureDirectory hclear hlocate₁
        refine ⟨tree', ?_⟩
        rw [ensureDirectory_of_notFound hlocate]
        simp only [if_true, runFrom_bind, hup, hrun]

/-- Directories that are created are no files. -/
theorem keepsFiles_ensureDirectories (p : FilePath) :
    Moves FileTree.KeepsFiles (ensureDirectories p) := by
  refine moves_ensureDirectoriesTo fun up _ tree below => ?_
  rcases makeDirectory_cases ⟨p.anchor, up.reverse⟩ tree with ⟨e, hrun⟩ | ⟨-, hnone, hrun⟩
  · rw [hrun]
  · rw [hrun]
    exact FileTree.filesBelow_insert_directory hnone below

theorem exists_ensureDirectories (h : tree.Clear p) :
    ∃ tree', runFrom (ensureDirectories p) tree = (.ok (), tree') := by
  refine exists_ensureDirectoriesTo ?_
  rwa [List.reverse_reverse]

end FileAction

end Skeletal
