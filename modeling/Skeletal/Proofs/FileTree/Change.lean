import Skeletal.Proofs.Computation
import Skeletal.Proofs.FileTree.Location

/-!
# Changes of file trees

What the operations on files change, whether they succeed or fail. An operation on the file of a
path changes nothing but what stands at its place (`FileTree.Confined`), which a file can be put at
or not (`FileTree.Takes`), and no operation makes a directory disappear. Creating a directory with
those above it adds directories on its way and leaves all that was there
(`FileTree.AddsDirectories`). Both together put a file in place (`FileTree.PlacesFile`); where that
happens below a directory, all else stays (`PlacesFile.staysBelow`).
-/

set_option autoImplicit false

namespace Skeletal

namespace FileTree

/-- Only locations of a kind are changed, and the directories stay. -/
structure Confined (P : Location → Prop) (tree tree' : FileTree) : Prop where
  outside : ∀ location, ¬ P location → tree'.lookup? location = tree.lookup? location
  directory : ∀ location, tree.lookup? location = some .directory →
    tree'.lookup? location = some .directory

/-- A file can be put at the path: it leads to its place, and no directory stands there. -/
structure Takes (tree : FileTree) (p : FilePath) : Prop where
  located : tree.locate p = .ok p.place
  free : tree.lookup? p.place ≠ some .directory

/-- Directories are added on the way of a path, and what was there stays. -/
def AddsDirectories (p : FilePath) (tree tree' : FileTree) : Prop :=
  ∀ location, tree'.lookup? location = tree.lookup? location ∨
    tree.lookup? location = none ∧ tree'.lookup? location = some .directory ∧ p.ComesBy location

/-- A file may change at a location, directories are added on a way, and all else stays. -/
structure PlacesFile (way : FilePath) (target : Location) (tree tree' : FileTree) : Prop where
  elsewhere : ∀ location, location ≠ target →
    tree'.lookup? location = tree.lookup? location ∨
      tree.lookup? location = none ∧ tree'.lookup? location = some .directory ∧
        way.ComesBy location
  directory : ∀ location, tree.lookup? location = some .directory →
    tree'.lookup? location = some .directory

/-- A directory at the path goes on standing there, and only what is below it is changed. -/
def StaysBelow (root : FilePath) (tree tree' : FileTree) : Prop :=
  tree.entryAt? root = some .directory →
    tree'.entryAt? root = some .directory ∧ Confined (root.place <+: ·) tree tree'

variable {P Q : Location → Prop} {tree tree' : FileTree} {p way root : FilePath}
  {location target : Location} {entry : Entry} {names : List String}

instance (P : Location → Prop) : IsPreorder FileTree (Confined P) where
  refl _ := ⟨fun _ _ => rfl, fun _ h => h⟩
  trans _ _ _ h h' :=
    ⟨fun l hl => (h'.outside l hl).trans (h.outside l hl),
      fun l hl => h'.directory l (h.directory l hl)⟩

theorem Confined.mono (h : Confined P tree tree') (hPQ : ∀ l, P l → Q l) :
    Confined Q tree tree' :=
  ⟨fun l hl => h.outside l fun hP => hl (hPQ l hP), h.directory⟩

/-- An entry at a place where no directory stands changes that place alone. -/
theorem confined_insert (h : tree.lookup? location ≠ some .directory) (entry : Entry) :
    Confined (· = location) tree (tree.insert location entry) where
  outside l hl := by
    rw [lookup?_insert (not_isGiven_of_lookup? h), if_neg hl]
  directory l hl := by
    have hne : l ≠ location := fun heq => h (heq ▸ hl)
    rwa [lookup?_insert (not_isGiven_of_lookup? h), if_neg hne]

theorem Takes.confined_insert (h : tree.Takes p) (entry : Entry) :
    Confined (· = p.place) tree (tree.insert p.place entry) :=
  FileTree.confined_insert h.free entry

/-- A file that is put at a path stands there. -/
theorem Takes.entryAt?_insert (h : tree.Takes p) (entry : Entry) :
    (tree.insert p.place entry).entryAt? p = some entry := by
  refine entryAt?_eq_some_iff.2 ⟨?_, ?_⟩
  · exact locate_mono h.located (h.confined_insert entry).directory
  · rw [lookup?_insert (not_isGiven_of_lookup? h.free), if_pos rfl]

/-- Where a file stands, another one can be put. -/
theorem takes_of_entryAt? {content : Content} (h : tree.entryAt? p = some (.file content)) :
    tree.Takes p := by
  obtain ⟨hlocate, hlookup⟩ := entryAt?_eq_some_iff.1 h
  refine ⟨hlocate, fun hdirectory => ?_⟩
  rw [hlookup] at hdirectory
  cases hdirectory

theorem confined_erase (h : tree.lookup? location ≠ some .directory) :
    Confined (· = location) tree (tree.erase location) where
  outside l hl := by
    rw [lookup?_erase (not_isGiven_of_lookup? h), if_neg hl]
  directory l hl := by
    have hne : l ≠ location := fun heq => h (heq ▸ hl)
    rwa [lookup?_erase (not_isGiven_of_lookup? h), if_neg hne]

theorem AddsDirectories.lookup? (h : AddsDirectories p tree tree')
    (hlookup : tree.lookup? location = some entry) : tree'.lookup? location = some entry := by
  rcases h location with hsame | ⟨hnone, -, -⟩
  · rw [hsame, hlookup]
  · rw [hlookup] at hnone
    cases hnone

instance (p : FilePath) : IsPreorder FileTree (AddsDirectories p) where
  refl _ _ := Or.inl rfl
  trans _ _ _ h h' := by
    intro l
    rcases h l with hsame | ⟨hnone, hdirectory, hway⟩
    · rw [← hsame]
      exact h' l
    · exact Or.inr ⟨hnone, h'.lookup? hdirectory, hway⟩

theorem AddsDirectories.entryAt? (h : AddsDirectories way tree tree')
    (hentry : tree.entryAt? p = some entry) : tree'.entryAt? p = some entry := by
  obtain ⟨hlocate, hlookup⟩ := entryAt?_eq_some_iff.1 hentry
  exact entryAt?_eq_some_iff.2
    ⟨locate_mono hlocate fun _ hdirectory => h.lookup? hdirectory, h.lookup? hlookup⟩

theorem AddsDirectories.mono {anchor : Anchor} {segments longer : List String}
    (h : AddsDirectories ⟨anchor, segments⟩ tree tree') (hstart : segments <+: longer) :
    AddsDirectories ⟨anchor, longer⟩ tree tree' := by
  intro l
  rcases h l with hsame | ⟨hnone, hdirectory, way, hway, hplace⟩
  · exact Or.inl hsame
  · exact Or.inr ⟨hnone, hdirectory, way, hway.trans hstart, hplace⟩

theorem AddsDirectories.confined (h : AddsDirectories p tree tree') :
    Confined p.ComesBy tree tree' where
  outside l hl := by
    rcases h l with hsame | ⟨-, -, hway⟩
    · exact hsame
    · exact absurd hway hl
  directory _ hl := h.lookup? hl

/-! ## Files put in place -/

instance (way : FilePath) (target : Location) :
    IsPreorder FileTree (PlacesFile way target) where
  refl _ := ⟨fun _ _ => Or.inl rfl, fun _ h => h⟩
  trans _ _ _ h h' := by
    refine ⟨fun l hl => ?_, fun l hl => h'.directory l (h.directory l hl)⟩
    rcases h.elsewhere l hl with hsame | ⟨hnone, hdirectory, hway⟩
    · rw [← hsame]
      exact h'.elsewhere l hl
    · exact Or.inr ⟨hnone, h'.directory l hdirectory, hway⟩

theorem AddsDirectories.placesFile (h : AddsDirectories way tree tree') (target : Location) :
    PlacesFile way target tree tree' :=
  ⟨fun l _ => h l, h.confined.directory⟩

theorem Confined.placesFile (h : Confined (· = target) tree tree') (way : FilePath) :
    PlacesFile way target tree tree' :=
  ⟨fun l hl => Or.inl (h.outside l hl), h.directory⟩

/-- On the way to a directory that stands, there are directories only. So what is missing on the way
below it is missing below it. -/
theorem exists_below_of_comesBy (hroot : tree.entryAt? root = some .directory)
    (hnames : ∀ name ∈ names, IsFileName name) (hnone : tree.lookup? location = none)
    (hway : FilePath.ComesBy ⟨root.anchor, root.segments ++ names⟩ location) :
    ∃ below, below <+: names ∧ location = root.place ++ below := by
  obtain ⟨hlocate, hdirectory⟩ := entryAt?_eq_some_iff.1 hroot
  obtain ⟨-, hleads, -⟩ := locate_eq_ok_iff.1 hlocate
  obtain ⟨segments, ⟨rest, hrest⟩, rfl⟩ := hway
  rcases List.append_eq_append_iff.1 hrest with ⟨more, hsegments, -⟩ | ⟨below, rfl, hbelow⟩
  · cases more with
    | nil =>
        rw [List.append_nil] at hsegments
        exact ⟨[], List.nil_prefix, by rw [List.append_nil, ← hsegments]⟩
    | cons segment more =>
        -- the path comes by a location that it goes on from
        rw [hsegments] at hleads
        rw [FilePath.place, (leads_append_iff.1 hleads).2.directory] at hnone
        cases hnone
  · have hbelow : below <+: names := ⟨rest, hbelow.symm⟩
    exact ⟨below, hbelow, place_append_names (fun n hn => hnames n (hbelow.subset hn)) _ _⟩

/-- What is put in place below a directory leaves the rest of the tree. -/
theorem PlacesFile.staysBelow
    (h : PlacesFile ⟨root.anchor, root.segments ++ names⟩ target tree tree')
    (hnames : ∀ name ∈ names, IsFileName name) (htarget : root.place <+: target) :
    StaysBelow root tree tree' := by
  intro hroot
  refine ⟨entryAt?_directory_mono hroot h.directory, fun l hl => ?_, h.directory⟩
  · have hne : l ≠ target := fun heq => hl (heq ▸ htarget)
    rcases h.elsewhere l hne with hsame | ⟨hnone, -, hway⟩
    · exact hsame
    · obtain ⟨below, -, rfl⟩ := exists_below_of_comesBy hroot hnames hnone hway
      exact absurd (List.prefix_append _ _) hl

instance (root : FilePath) : IsPreorder FileTree (StaysBelow root) where
  refl _ := fun h => ⟨h, refl _⟩
  trans _ _ _ h h' := by
    intro hroot
    obtain ⟨hmiddle, hfirst⟩ := h hroot
    obtain ⟨hlast, hsecond⟩ := h' hmiddle
    exact ⟨hlast, IsTrans.trans _ _ _ hfirst hsecond⟩

/-! ## Discarding -/

section

variable (hgiven : ∀ other, location <+: other → isGiven other = false)

include hgiven

/-- What stands at a path after locations were discarded, stood there before. -/
theorem entryAt?_of_eraseAll (h : (tree.eraseAll location).entryAt? p = some entry) :
    tree.entryAt? p = some entry := by
  have hstood : ∀ l e, (tree.eraseAll location).lookup? l = some e → tree.lookup? l = some e := by
    intro l e hl
    rw [lookup?_eraseAll hgiven] at hl
    split_ifs at hl
    exact hl
  obtain ⟨hlocate, hlookup⟩ := entryAt?_eq_some_iff.1 h
  exact entryAt?_eq_some_iff.2 ⟨locate_mono hlocate fun l => hstood l _, hstood _ _ hlookup⟩

/-- A change at one place is still one when other locations are discarded. -/
theorem Confined.eraseAll (h : Confined (· = target) tree tree') :
    Confined (· = target) (tree.eraseAll location) (tree'.eraseAll location) where
  outside l hl := by
    rw [lookup?_eraseAll hgiven, lookup?_eraseAll hgiven, h.outside l hl]
  directory l hl := by
    rw [lookup?_eraseAll hgiven] at hl ⊢
    split_ifs at hl ⊢
    exact h.directory l hl

/-- Where nothing stood below a location, discarding it undoes all changes there. -/
theorem AddsDirectories.eraseAll {middle : FileTree} (h : AddsDirectories way tree middle)
    (hfree : ∀ other, location <+: other → middle.lookup? other = none)
    (hbelow : Confined (location <+: ·) middle tree') :
    AddsDirectories way tree (tree'.eraseAll location) := by
  intro l
  rw [lookup?_eraseAll hgiven]
  by_cases hl : location <+: l
  · rw [if_pos hl]
    rcases h l with hsame | ⟨-, hdirectory, -⟩
    · rw [← hsame, hfree l hl]
      exact Or.inl rfl
    · rw [hfree l hl] at hdirectory
      cases hdirectory
  · rw [if_neg hl, hbelow.outside l hl]
    exact h l

end

end FileTree

namespace FileAction

open FileTree (AddsDirectories Confined)

variable {p : FilePath} {tree : FileTree} {content : Content}

theorem runFrom_locate (p : FilePath) (tree : FileTree) :
    runFrom (locate p) tree =
      match tree.locate p with
      | .ok location => (.ok location, tree)
      | .error fault => (.error ⟨fault, p.text⟩, tree) := by
  simp only [locate, runFrom_bind, runFrom_get]
  cases tree.locate p with
  | error fault => rfl
  | ok location => rfl

/-- A new directory is created, or the failure leaves the tree as it is. -/
theorem makeDirectory_cases (p : FilePath) (tree : FileTree) :
    (∃ e, runFrom (makeDirectory p) tree = (.error e, tree)) ∨
      tree.locate p = .ok p.place ∧ tree.lookup? p.place = none ∧
        runFrom (makeDirectory p) tree = (.ok (), tree.insert p.place .directory) := by
  rw [makeDirectory, runFrom_bind, runFrom_locate]
  cases hlocate : tree.locate p with
  | error fault => exact Or.inl ⟨_, rfl⟩
  | ok location =>
      obtain rfl := (FileTree.locate_eq_ok_iff.1 hlocate).2.2
      simp only [runFrom_bind, runFrom_get]
      cases hlookup : tree.lookup? p.place with
      | none => exact Or.inr ⟨trivial, rfl, rfl⟩
      | some entry => exact Or.inl ⟨_, rfl⟩

/-- A file is written where one can be put, and nothing is changed elsewhere. -/
theorem write_cases (p : FilePath) (content : Content) (tree : FileTree) :
    (∃ e, runFrom (write p content) tree = (.error e, tree)) ∧ ¬ tree.Takes p ∨
      tree.Takes p ∧
        runFrom (write p content) tree = (.ok (), tree.insert p.place (.file content)) := by
  rw [write, runFrom_bind, runFrom_locate]
  cases hlocate : tree.locate p with
  | error fault =>
      refine Or.inl ⟨⟨_, rfl⟩, fun h => ?_⟩
      cases hlocate.symm.trans h.located
  | ok location =>
      obtain rfl := (FileTree.locate_eq_ok_iff.1 hlocate).2.2
      simp only [runFrom_bind, runFrom_get, FileTree.isDirectory, beq_iff_eq]
      by_cases hdirectory : tree.lookup? p.place = some .directory
      · rw [if_pos hdirectory]
        exact Or.inl ⟨⟨_, rfl⟩, fun h => h.free hdirectory⟩
      · rw [if_neg hdirectory]
        exact Or.inr ⟨⟨hlocate, hdirectory⟩, rfl⟩

/-- Where a file can be put, it is written. -/
theorem write_of_takes (h : tree.Takes p) (content : Content) :
    runFrom (write p content) tree = (.ok (), tree.insert p.place (.file content)) := by
  rcases write_cases p content tree with ⟨-, hnot⟩ | ⟨-, hrun⟩
  · exact absurd h hnot
  · exact hrun

/-- A file is removed, or there is none and the tree stays as it is. -/
theorem remove_cases (p : FilePath) (tree : FileTree) :
    (∃ result, runFrom (remove p) tree = (result, tree)) ∧
        (∀ content, tree.entryAt? p ≠ some (.file content)) ∨
      (∃ content, tree.entryAt? p = some (.file content)) ∧
        runFrom (remove p) tree = (.ok (), tree.erase p.place) := by
  rw [remove, runFrom_bind, runFrom_get]
  cases hlocate : tree.locate p with
  | error fault =>
      simp only [hlocate, FileTree.entryAt?]
      refine Or.inl ⟨?_, fun _ => (Option.some_ne_none _).symm⟩
      cases fault <;> exact ⟨_, rfl⟩
  | ok location =>
      obtain rfl := (FileTree.locate_eq_ok_iff.1 hlocate).2.2
      simp only [hlocate, runFrom_bind, runFrom_get, FileTree.entryAt?]
      cases tree.lookup? p.place with
      | none => exact Or.inl ⟨⟨_, rfl⟩, fun _ => (Option.some_ne_none _).symm⟩
      | some entry =>
          cases entry with
          | directory =>
              refine Or.inl ⟨⟨_, rfl⟩, fun content h => ?_⟩
              cases h
          | file content => exact Or.inr ⟨⟨content, rfl⟩, rfl⟩

/-- Reading leaves the tree as it is, and what is read is the file that stands at the path. -/
theorem read_cases (p : FilePath) (tree : FileTree) :
    (∃ e, runFrom (read p) tree = (.error e, tree)) ∧
        (∀ content, tree.entryAt? p ≠ some (.file content)) ∨
      ∃ content, tree.entryAt? p = some (.file content) ∧
        runFrom (read p) tree = (.ok content, tree) := by
  rw [read, runFrom_bind, runFrom_locate]
  cases hlocate : tree.locate p with
  | error fault =>
      refine Or.inl ⟨⟨_, rfl⟩, fun content h => ?_⟩
      cases hlocate.symm.trans (FileTree.entryAt?_eq_some_iff.1 h).1
  | ok location =>
      simp only [runFrom_bind, runFrom_get, FileTree.entryAt?, hlocate]
      cases tree.lookup? location with
      | none =>
          refine Or.inl ⟨⟨_, rfl⟩, fun content h => ?_⟩
          cases h
      | some entry =>
          cases entry with
          | directory =>
              refine Or.inl ⟨⟨_, rfl⟩, fun content h => ?_⟩
              cases h
          | file content => exact Or.inr ⟨content, rfl, rfl⟩

/-- Looking for a directory fails at no path where anything stands. -/
theorem isDirectory_cases (p : FilePath) (tree : FileTree) :
    (∃ e, runFrom (isDirectory p) tree = (.error e, tree)) ∧ tree.entryAt? p = none ∨
      runFrom (isDirectory p) tree = (.ok (tree.entryAt? p == some .directory), tree) := by
  simp only [isDirectory, runFrom_bind, runFrom_get, FileTree.entryAt?]
  cases tree.locate p with
  | error fault =>
      cases fault with
      | nameTooLong => exact Or.inl ⟨⟨_, rfl⟩, rfl⟩
      | _ => exact Or.inr rfl
  | ok location => exact Or.inr rfl

/-! ## What operations change -/

theorem moves_isDirectory (R : FileTree → FileTree → Prop) [IsPreorder FileTree R]
    (p : FilePath) : Moves R (isDirectory p) := by
  intro tree
  rcases isDirectory_cases p tree with ⟨⟨e, hrun⟩, -⟩ | hrun
  · rw [hrun]
    exact refl tree
  · rw [hrun]
    exact refl tree

theorem moves_read (R : FileTree → FileTree → Prop) [IsPreorder FileTree R] (p : FilePath) :
    Moves R (read p) := by
  intro tree
  rcases read_cases p tree with ⟨⟨e, hrun⟩, -⟩ | ⟨content, -, hrun⟩
  · rw [hrun]
    exact refl tree
  · rw [hrun]
    exact refl tree

theorem moves_makeDirectory (p : FilePath) : Moves (AddsDirectories p) (makeDirectory p) := by
  intro tree l
  rcases makeDirectory_cases p tree with ⟨e, hrun⟩ | ⟨-, hnone, hrun⟩
  · rw [hrun]
    exact Or.inl rfl
  · have hfree : tree.lookup? p.place ≠ some .directory := by
      rw [hnone]
      exact (Option.some_ne_none _).symm
    rw [hrun, FileTree.lookup?_insert (FileTree.not_isGiven_of_lookup? hfree)]
    by_cases hl : l = p.place
    · rw [if_pos hl, hl]
      exact Or.inr ⟨hnone, rfl, p.segments, List.prefix_rfl, rfl⟩
    · rw [if_neg hl]
      exact Or.inl rfl

section

variable {R : FileTree → FileTree → Prop} [IsPreorder FileTree R]

/-- What creating a directory keeps is kept where there may be one already. -/
theorem moves_ensureDirectory (h : Moves R (makeDirectory p)) : Moves R (ensureDirectory p) := by
  refine Moves.tryCatch h fun e => ?_
  split
  · exact moves_throw e
  · refine (moves_isDirectory _ p).bind fun isDirectory => ?_
    cases isDirectory with
    | true => exact moves_pure ()
    | false => exact moves_throw e

/-- The induction is on the segments, last one first: those above are on the way. -/
theorem moves_ensureDirectoriesTo {anchor : Anchor} {segments : List String}
    (h : ∀ up, up <:+ segments → Moves R (makeDirectory ⟨anchor, up.reverse⟩)) :
    Moves R (ensureDirectoriesTo anchor segments) := by
  induction segments with
  | nil => exact moves_ensureDirectory (h [] List.suffix_rfl)
  | cons segment up ih =>
      have hself := moves_ensureDirectory (h (segment :: up) List.suffix_rfl)
      refine Moves.tryCatch hself fun e => ?_
      split
      · refine (ih fun up' hup' => ?_).bind fun _ => hself
        exact h up' (hup'.trans (List.suffix_cons segment up))
      · exact moves_throw e

end

theorem addsDirectories_ensureDirectoriesTo (anchor : Anchor) (segments : List String) :
    Moves (AddsDirectories ⟨anchor, segments.reverse⟩) (ensureDirectoriesTo anchor segments) :=
  moves_ensureDirectoriesTo fun up hup =>
    (moves_makeDirectory ⟨anchor, up.reverse⟩).imp fun _ _ h => h.mono (List.reverse_prefix.2 hup)

theorem moves_ensureDirectories (p : FilePath) :
    Moves (AddsDirectories p) (ensureDirectories p) := by
  have h := addsDirectories_ensureDirectoriesTo p.anchor p.segments.reverse
  rwa [List.reverse_reverse] at h

theorem moves_write (p : FilePath) (content : Content) :
    Moves (Confined (· = p.place)) (write p content) := by
  intro tree
  rcases write_cases p content tree with ⟨⟨e, hrun⟩, -⟩ | ⟨htakes, hrun⟩
  · rw [hrun]
    exact refl tree
  · rw [hrun]
    exact htakes.confined_insert _

theorem moves_remove (p : FilePath) : Moves (Confined (· = p.place)) (remove p) := by
  intro tree
  rcases remove_cases p tree with ⟨⟨result, hrun⟩, -⟩ | ⟨⟨content, hfile⟩, hrun⟩
  · rw [hrun]
    exact refl tree
  · rw [hrun]
    refine FileTree.confined_erase ?_
    rw [(FileTree.entryAt?_eq_some_iff.1 hfile).2]
    intro h
    cases h

end FileAction

end Skeletal
