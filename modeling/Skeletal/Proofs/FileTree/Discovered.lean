import Mathlib.Data.List.Induction
import Mathlib.Data.List.Sort
import Skeletal.Proofs.FileTree.Location
import Skeletal.Proofs.FileTree.WalkOrder

/-!
# What discovery finds

Discovery finds the sources below a location (`mem_sourcesBelow_iff`) and lists each of them once,
in front of those behind it (`pairwise_sourcesBelow`). Where the entries make up a directory tree
the list can be built directory by directory: what stands below a location is held by the location
or by one of its subdirectories, and both parts are in order (`sourcesBelow_eq_directoryPaths`). The
names in a directory are sorted, so it does not matter how the system lists them.
-/

set_option autoImplicit false

namespace Skeletal

namespace FileTree

/-- A source below a location, by its relative path: a file with the ending of sources, under
directories that are entered. -/
def IsSourceBelow (tree : FileTree) (location : Location) (path : List String) : Prop :=
  ∃ directories name content, path = directories ++ [name] ∧
    (location ++ path, Entry.file content) ∈ tree.entries ∧
    sourceExtension.toList <:+ name.toList ∧
    ∀ directory ∈ directories, directory.toLower ∉ skippedDirectories

/-- Below a location the entries make up a directory tree: no two stand at one location, each has
names of files behind the location, and each stands in a directory. -/
structure TreeBelow (tree : FileTree) (location : Location) : Prop where
  distinct : (tree.entries.map Prod.fst).Nodup
  names : ∀ e ∈ tree.entries, location <+: e.1 →
    ∀ name ∈ e.1.drop location.length, IsFileName name
  directories : ∀ e ∈ tree.entries, location <+: e.1 → location.length + 1 < e.1.length →
    (e.1.dropLast, Entry.directory) ∈ tree.entries

instance (tree : FileTree) (location : Location) : Decidable (tree.TreeBelow location) :=
  decidable_of_iff (_ ∧ _ ∧ _)
    ⟨fun ⟨distinct, names, directories⟩ => ⟨distinct, names, directories⟩,
      fun h => ⟨h.distinct, h.names, h.directories⟩⟩

/-- The names that the system lists in a directory are those of the entries in it, each once, in any
order. -/
def Lists (tree : FileTree) (listing : Location → List String) : Prop :=
  ∀ directory, (listing directory).Nodup ∧
    ∀ name, name ∈ listing directory ↔ ∃ entry, (directory ++ [name], entry) ∈ tree.entries

variable {tree : FileTree} {location : Location} {path : List String} {name : String}
  {entry : Entry} {listing : Location → List String}

/-! ## Listings -/

/-- Names of the entries in a directory, in the order of the tree. -/
def entryNames (tree : FileTree) (directory : Location) : List String :=
  tree.entries.filterMap fun e => if e.1.dropLast = directory then e.1.getLast? else none

/-- The order of the tree is one in which directories may be listed. -/
theorem lists_entryNames (hdistinct : (tree.entries.map Prod.fst).Nodup) :
    tree.Lists tree.entryNames := by
  have hplace : ∀ (directory place : Location) (name : String),
      (if place.dropLast = directory then place.getLast? else none) = some name ↔
        place = directory ++ [name] := by
    intro directory place name
    rw [Option.ite_none_right_eq_some]
    constructor
    · rintro ⟨rfl, hname⟩
      exact (List.dropLast_append_getLast? name hname).symm
    · rintro rfl
      simp
  intro directory
  constructor
  · refine List.pairwise_filterMap.2 ((List.pairwise_map.1 hdistinct).imp ?_)
    rintro ⟨place, entry⟩ ⟨place', entry'⟩ hne name h name' h' rfl
    exact hne (((hplace _ _ _).1 h).trans ((hplace _ _ _).1 h').symm)
  · intro name
    rw [entryNames, List.mem_filterMap]
    constructor
    · rintro ⟨⟨place, entry⟩, hentry, h⟩
      obtain rfl := (hplace _ _ _).1 h
      exact ⟨entry, hentry⟩
    · rintro ⟨entry, hentry⟩
      exact ⟨_, hentry, (hplace _ _ _).2 rfl⟩

/-- Directories may be listed in any other order. -/
theorem Lists.perm {other : Location → List String} (h : tree.Lists listing)
    (hperm : ∀ directory, (other directory).Perm (listing directory)) : tree.Lists other := by
  intro directory
  refine ⟨(hperm directory).nodup_iff.2 (h directory).1, fun name => ?_⟩
  rw [(hperm directory).mem_iff]
  exact (h directory).2 name

/-! ## Sources below a location -/

/-- Relative path of an entry that is a file below a location. -/
def fileBelow? (location : Location) (e : Location × Entry) : Option (List String) :=
  match e.2 with
  | .file _ =>
    if location.isPrefixOf e.1 && location.length < e.1.length then
      some (e.1.drop location.length)
    else none
  | .directory => none

theorem fileBelow?_eq_some_iff {place : Location} : fileBelow? location (place, entry) = some path ↔
    path ≠ [] ∧ place = location ++ path ∧ ∃ content, entry = Entry.file content := by
  cases entry with
  | directory => simp [fileBelow?]
  | file content =>
      simp only [fileBelow?, Bool.and_eq_true, List.isPrefixOf_iff_prefix, decide_eq_true_eq,
        Option.ite_none_right_eq_some, Option.some.injEq, Entry.file.injEq, exists_eq', and_true]
      constructor
      · rintro ⟨⟨⟨rest, rfl⟩, hlength⟩, rfl⟩
        rw [List.drop_left]
        refine ⟨?_, rfl⟩
        rintro rfl
        simp at hlength
      · rintro ⟨hne, rfl⟩
        refine ⟨⟨List.prefix_append _ _, ?_⟩, List.drop_left⟩
        rw [List.length_append]
        exact Nat.lt_add_of_pos_right (List.length_pos_iff.2 hne)

theorem mem_filesBelow_iff : path ∈ tree.filesBelow location ↔
    path ≠ [] ∧ ∃ content, (location ++ path, Entry.file content) ∈ tree.entries := by
  have hfound : path ∈ tree.filesBelow location ↔
      ∃ e ∈ tree.entries, fileBelow? location e = some path := List.mem_filterMap
  rw [hfound]
  constructor
  · rintro ⟨⟨place, entry⟩, hmem, h⟩
    obtain ⟨hne, rfl, content, rfl⟩ := fileBelow?_eq_some_iff.1 h
    exact ⟨hne, content, hmem⟩
  · rintro ⟨hne, content, hmem⟩
    exact ⟨_, hmem, fileBelow?_eq_some_iff.2 ⟨hne, rfl, content, rfl⟩⟩

theorem nodup_filesBelow (hdistinct : (tree.entries.map Prod.fst).Nodup) (location : Location) :
    (tree.filesBelow location).Nodup := by
  have hpairwise := List.pairwise_map.1 hdistinct
  refine List.pairwise_filterMap.2 (hpairwise.imp ?_)
  rintro ⟨place, entry⟩ ⟨place', entry'⟩ hne path h path' h' rfl
  obtain ⟨-, hplace, -⟩ := fileBelow?_eq_some_iff.1 h
  obtain ⟨-, hplace', -⟩ := fileBelow?_eq_some_iff.1 h'
  exact hne (hplace.trans hplace'.symm)

theorem isDiscovered_append_singleton (directories : List String) (name : String) :
    isDiscovered (directories ++ [name]) = true ↔ sourceExtension.toList <:+ name.toList ∧
      ∀ directory ∈ directories, directory.toLower ∉ skippedDirectories := by
  rw [isDiscovered, List.getLastD_concat, List.dropLast_concat, Bool.and_eq_true, isSourceName,
    List.isSuffixOf_iff_suffix, List.all_eq_true]
  simp only [isSkippedDirectory, Bool.not_eq_true', List.contains_eq_mem, decide_eq_false_iff_not]

theorem mem_sourcesBelow_iff : path ∈ tree.sourcesBelow location ↔
    tree.IsSourceBelow location path := by
  rw [sourcesBelow, List.mem_mergeSort, List.mem_filter, mem_filesBelow_iff]
  constructor
  · rintro ⟨⟨hne, content, hfile⟩, hdiscovered⟩
    obtain ⟨directories, name, rfl⟩ := (List.eq_nil_or_concat' path).resolve_left hne
    obtain ⟨hname, hentered⟩ := (isDiscovered_append_singleton directories name).1 hdiscovered
    exact ⟨directories, name, content, rfl, hfile, hname, hentered⟩
  · rintro ⟨directories, name, content, rfl, hfile, hname, hentered⟩
    exact ⟨⟨by simp, content, hfile⟩,
      (isDiscovered_append_singleton directories name).2 ⟨hname, hentered⟩⟩

theorem IsSourceBelow.ne_nil (h : tree.IsSourceBelow location path) : path ≠ [] := by
  obtain ⟨directories, name, -, rfl, -⟩ := h
  exact List.append_ne_nil_of_right_ne_nil directories (List.cons_ne_nil name [])

theorem ne_nil_of_mem_sourcesBelow (h : path ∈ tree.sourcesBelow location) : path ≠ [] :=
  (mem_sourcesBelow_iff.1 h).ne_nil

/-- Each source is listed once, in front of those that are listed behind it. -/
theorem pairwise_sourcesBelow (hdistinct : (tree.entries.map Prod.fst).Nodup)
    (location : Location) : (tree.sourcesBelow location).Pairwise ListedBefore := by
  apply pairwise_listedBefore_mergeSort ((nodup_filesBelow hdistinct location).filter _)
  intro path hpath
  exact (mem_filesBelow_iff.1 (List.mem_of_mem_filter hpath)).1

/-! ## Directory trees -/

namespace TreeBelow

variable (h : tree.TreeBelow location)

include h

theorem isFileName (hentry : (location ++ path, entry) ∈ tree.entries) (hname : name ∈ path) :
    IsFileName name := by
  apply h.names _ hentry (List.prefix_append location path)
  rwa [List.drop_left]

/-- An entry that does not stand in the location itself stands in a directory below it. -/
theorem parent (hpath : path ≠ []) (hentry : (location ++ (path ++ [name]), entry) ∈ tree.entries) :
    (location ++ path, Entry.directory) ∈ tree.entries := by
  have hlength : location.length + 1 < (location ++ (path ++ [name])).length := by
    have := List.length_pos_iff.2 hpath
    simp only [List.length_append, List.length_singleton]
    omega
  have habove := h.directories _ hentry (List.prefix_append location _) hlength
  rwa [← List.append_assoc, List.dropLast_concat] at habove

/-- The entries of the location are found there. -/
theorem lookup?_eq_some_iff (hname : IsFileName name) :
    tree.lookup? (location ++ [name]) = some entry ↔
      (location ++ [name], entry) ∈ tree.entries := by
  have hgiven : isGiven (location ++ [name]) = false :=
    not_isGiven_of_mem hname (List.mem_append_right location List.mem_cons_self)
  rw [lookup?_of_not_isGiven hgiven]
  exact ⟨mem_of_lookup_eq_some, lookup_eq_some_of_mem h.distinct⟩

/-- A subdirectory holds a directory tree again. -/
theorem subdirectory (name : String) : tree.TreeBelow (location ++ [name]) where
  distinct := h.distinct
  names e he hprefix other hother := by
    obtain ⟨path, hpath⟩ := hprefix
    obtain ⟨place, entry⟩ := e
    obtain rfl : location ++ [name] ++ path = place := hpath
    rw [List.drop_left] at hother
    rw [List.append_assoc] at he
    exact h.isFileName he (List.mem_append_right [name] hother)
  directories e he hprefix hlength := by
    rw [List.length_append, List.length_singleton] at hlength
    exact h.directories e he ((List.prefix_append location [name]).trans hprefix) (by omega)

/-- An entry stands under directories from the location down. -/
theorem directory_above {rest : List String} (hpath : path ≠ []) (hrest : rest ≠ [])
    (hentry : (location ++ (path ++ rest), entry) ∈ tree.entries) :
    (location ++ path, Entry.directory) ∈ tree.entries := by
  -- from the entry up, one name after another
  induction rest using List.reverseRecOn generalizing entry with
  | nil => exact absurd rfl hrest
  | append_singleton rest last ih =>
      rw [← List.append_assoc path] at hentry
      have habove := h.parent (List.append_ne_nil_of_left_ne_nil hpath rest) hentry
      rcases rest with _ | ⟨next, more⟩
      · rwa [List.append_nil] at habove
      · exact ih (List.cons_ne_nil next more) habove

end TreeBelow

/-! ## One directory -/

/-- Names of the sources that a directory holds itself, in order. -/
def sourceNames (tree : FileTree) (listing : Location → List String) (directory : Location) :
    List String :=
  (((listing directory).filter fun name => !tree.isDirectory (directory ++ [name])).mergeSort
    (· ≤ ·)).filter isSourceName

/-- Names of the subdirectories of a directory that are entered, in order. -/
def enteredNames (tree : FileTree) (listing : Location → List String) (directory : Location) :
    List String :=
  (((listing directory).filter fun name => tree.isDirectory (directory ++ [name])).filter
    fun name => !isSkippedDirectory name).mergeSort (· ≤ ·)

/-- Relative paths of the sources that a directory yields: its own, and those below the
subdirectories that are entered. -/
def directoryPaths (tree : FileTree) (listing : Location → List String) (directory : Location) :
    List (List String) :=
  (tree.sourceNames listing directory).map (fun name => [name]) ++
    (tree.enteredNames listing directory).flatMap fun name =>
      (tree.sourcesBelow (directory ++ [name])).map (name :: ·)

/-- Distinct names are sorted so that each comes before those behind it. -/
theorem pairwise_lt_mergeSort {names : List String} (hnodup : names.Nodup) :
    (names.mergeSort (· ≤ ·)).Pairwise (· < ·) := by
  have hdistinct := (List.mergeSort_perm names (· ≤ ·)).nodup_iff.2 hnodup
  refine ((List.pairwise_mergeSort' (· ≤ ·) names).and hdistinct).imp ?_
  exact fun h => lt_of_le_of_ne h.1 h.2

section

variable (h : tree.TreeBelow location) (hlists : tree.Lists listing)

include h

theorem isDirectory_iff (hname : IsFileName name) : tree.isDirectory (location ++ [name]) = true ↔
    (location ++ [name], Entry.directory) ∈ tree.entries := by
  rw [isDirectory, beq_iff_eq, h.lookup?_eq_some_iff hname]

include hlists

theorem isFileName_of_mem_listing (hname : name ∈ listing location) : IsFileName name := by
  obtain ⟨entry, hentry⟩ := ((hlists location).2 name).1 hname
  exact h.isFileName hentry List.mem_cons_self

theorem mem_sourceNames_iff : name ∈ tree.sourceNames listing location ↔
    (∃ content, (location ++ [name], Entry.file content) ∈ tree.entries) ∧
      sourceExtension.toList <:+ name.toList := by
  rw [sourceNames, List.mem_filter, List.mem_mergeSort, List.mem_filter, isSourceName,
    List.isSuffixOf_iff_suffix, Bool.not_eq_true']
  refine and_congr_left fun _ => ?_
  constructor
  · rintro ⟨hlisted, hfile⟩
    have hname := isFileName_of_mem_listing h hlists hlisted
    obtain ⟨entry, hentry⟩ := ((hlists location).2 name).1 hlisted
    cases entry with
    | file content => exact ⟨content, hentry⟩
    | directory => exact absurd ((isDirectory_iff h hname).2 hentry) (Bool.eq_false_iff.1 hfile)
  · rintro ⟨content, hentry⟩
    have hlisted := ((hlists location).2 name).2 ⟨_, hentry⟩
    have hname := isFileName_of_mem_listing h hlists hlisted
    refine ⟨hlisted, ?_⟩
    rw [isDirectory, (h.lookup?_eq_some_iff hname).2 hentry]
    rfl

theorem mem_enteredNames_iff : name ∈ tree.enteredNames listing location ↔
    (location ++ [name], Entry.directory) ∈ tree.entries ∧
      name.toLower ∉ skippedDirectories := by
  rw [enteredNames, List.mem_mergeSort, List.mem_filter, List.mem_filter, isSkippedDirectory,
    Bool.not_eq_true', List.contains_eq_mem, decide_eq_false_iff_not]
  refine and_congr_left fun _ => ?_
  constructor
  · rintro ⟨hlisted, hdirectory⟩
    exact (isDirectory_iff h (isFileName_of_mem_listing h hlists hlisted)).1 hdirectory
  · intro hdirectory
    have hlisted := ((hlists location).2 name).2 ⟨_, hdirectory⟩
    exact ⟨hlisted, (isDirectory_iff h (isFileName_of_mem_listing h hlists hlisted)).2 hdirectory⟩

omit hlists in
/-- A source below a location is held by it, or lies below one of its subdirectories. -/
theorem isSourceBelow_cons_iff {rest : List String} :
    tree.IsSourceBelow location (name :: rest) ↔
      (rest = [] ∧ (∃ content, (location ++ [name], Entry.file content) ∈ tree.entries) ∧
        sourceExtension.toList <:+ name.toList) ∨
      ((location ++ [name], Entry.directory) ∈ tree.entries ∧
        name.toLower ∉ skippedDirectories ∧ tree.IsSourceBelow (location ++ [name]) rest) := by
  constructor
  · rintro ⟨directories, last, content, hpath, hfile, hlast, hentered⟩
    cases directories with
    | nil =>
        obtain ⟨rfl, rfl⟩ := List.cons.inj hpath
        exact Or.inl ⟨rfl, ⟨content, hfile⟩, hlast⟩
    | cons directory above =>
        obtain ⟨rfl, rfl⟩ := List.cons.inj hpath
        have hdirectory := h.directory_above (List.cons_ne_nil name [])
          (List.append_ne_nil_of_right_ne_nil above (List.cons_ne_nil last [])) hfile
        refine Or.inr ⟨hdirectory, hentered name List.mem_cons_self, above, last, content, rfl, ?_,
          hlast, fun other hother => hentered other (List.mem_cons_of_mem name hother)⟩
        rwa [List.append_assoc]
  · rintro (⟨rfl, ⟨content, hfile⟩, hname⟩ |
      ⟨-, hname, directories, last, content, rfl, hfile, hlast, hentered⟩)
    · exact ⟨[], name, content, rfl, hfile, hname, fun _ hother => absurd hother List.not_mem_nil⟩
    · rw [List.append_assoc] at hfile
      exact ⟨name :: directories, last, content, rfl, hfile, hlast,
        List.forall_mem_cons.2 ⟨hname, hentered⟩⟩

/-- What a directory yields is listed in order: its own sources, and below its subdirectories in
their order what is in order there. -/
theorem pairwise_directoryPaths :
    (tree.directoryPaths listing location).Pairwise ListedBefore := by
  have hfiles := pairwise_lt_mergeSort ((hlists location).1.filter
    fun name => !tree.isDirectory (location ++ [name]))
  have hdirectories := pairwise_lt_mergeSort (((hlists location).1.filter
    fun name => tree.isDirectory (location ++ [name])).filter fun name => !isSkippedDirectory name)
  refine List.pairwise_append.2 ⟨?_, List.pairwise_flatMap.2 ⟨?_, ?_⟩, ?_⟩
  · exact List.pairwise_map.2 ((hfiles.filter _).imp ListedBefore.files)
  · intro name _
    exact List.pairwise_map.2
      ((pairwise_sourcesBelow h.distinct (location ++ [name])).imp ListedBefore.inside)
  · refine hdirectories.imp fun hlt path hpath other hother => ?_
    obtain ⟨rest, hrest, rfl⟩ := List.mem_map.1 hpath
    obtain ⟨rest', hrest', rfl⟩ := List.mem_map.1 hother
    exact ListedBefore.directories hlt (ne_nil_of_mem_sourcesBelow hrest)
      (ne_nil_of_mem_sourcesBelow hrest')
  · intro path hpath other hother
    obtain ⟨name, -, rfl⟩ := List.mem_map.1 hpath
    obtain ⟨directory, -, hother⟩ := List.mem_flatMap.1 hother
    obtain ⟨rest, hrest, rfl⟩ := List.mem_map.1 hother
    exact ListedBefore.fileFirst (ne_nil_of_mem_sourcesBelow hrest)

/-- A directory yields the sources below it. -/
theorem mem_directoryPaths_iff : path ∈ tree.directoryPaths listing location ↔
    tree.IsSourceBelow location path := by
  rw [directoryPaths, List.mem_append, List.mem_map, List.mem_flatMap]
  constructor
  · rintro (⟨name, hname, rfl⟩ | ⟨name, hname, hpath⟩)
    · exact (isSourceBelow_cons_iff h).2 (Or.inl ⟨rfl, (mem_sourceNames_iff h hlists).1 hname⟩)
    · obtain ⟨rest, hrest, rfl⟩ := List.mem_map.1 hpath
      obtain ⟨hdirectory, hentered⟩ := (mem_enteredNames_iff h hlists).1 hname
      exact (isSourceBelow_cons_iff h).2
        (Or.inr ⟨hdirectory, hentered, mem_sourcesBelow_iff.1 hrest⟩)
  · intro hpath
    cases path with
    | nil => exact absurd rfl hpath.ne_nil
    | cons name rest =>
        rcases (isSourceBelow_cons_iff h).1 hpath with ⟨rfl, hname⟩ | ⟨hdirectory, hentered, hrest⟩
        · exact Or.inl ⟨name, (mem_sourceNames_iff h hlists).2 hname, rfl⟩
        · exact Or.inr ⟨name, (mem_enteredNames_iff h hlists).2 ⟨hdirectory, hentered⟩,
            List.mem_map_of_mem (mem_sourcesBelow_iff.2 hrest)⟩

/-- The sources below a location are what its directory yields, in whatever order the system lists
the directories. -/
theorem sourcesBelow_eq_directoryPaths :
    tree.sourcesBelow location = tree.directoryPaths listing location :=
  ListedBefore.eq_of_mem_iff (pairwise_sourcesBelow h.distinct location)
    (pairwise_directoryPaths h hlists)
    fun _ => mem_sourcesBelow_iff.trans (mem_directoryPaths_iff h hlists).symm

end

end FileTree

end Skeletal
