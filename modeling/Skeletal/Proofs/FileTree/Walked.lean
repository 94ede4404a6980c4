import Skeletal.Proofs.FileTree.Discovered
import Skeletal.Proofs.Text.Joined

/-!
# The walk through a directory tree

Discovery told as a walk: a directory is entered, its sources are found, and the subdirectories that
are not skipped are entered next, before the directories that are pending. The system lists the
names in a directory in any order it likes. Every walk ends, and with what discovery finds
(`walkRun_iff`), so that it does not depend on the order.
-/

set_option autoImplicit false

namespace Skeletal

namespace FileTree

/-- Path of a name in the directory of a path. -/
def joinedPath (base name : String) : String :=
  if base = "" ∨ base.toList.getLast? = some '/' then base ++ name else base ++ "/" ++ name

/-- Names in a directory with their paths and locations. -/
def placed (base : String) (directory : Location) (names : List String) : List (String × Location) :=
  names.map fun name => (joinedPath base name, directory ++ [name])

/-- Directories entered one after another. Of each the sources are found, and its subdirectories are
entered before the directories that are pending. -/
inductive WalkRun (tree : FileTree) (listing : Location → List String) :
    List (String × Location) → List (String × Location) → Prop
  | done : WalkRun tree listing [] []
  | enter {base : String} {directory : Location} {pending found : List (String × Location)}
      (rest : WalkRun tree listing
        (placed base directory (tree.enteredNames listing directory) ++ pending) found) :
      WalkRun tree listing ((base, directory) :: pending)
        (placed base directory (tree.sourceNames listing directory) ++ found)

/-- Sources below a directory with their paths and locations. -/
def foundBelow (tree : FileTree) (base : String) (directory : Location) :
    List (String × Location) :=
  (tree.sourcesBelow directory).map fun path => (path.foldl joinedPath base, directory ++ path)

variable {tree : FileTree} {listing : Location → List String} {base name : String}
  {directory location : Location} {path names : List String} {root : SourceRoot}
  {pending found found' : List (String × Location)}

/-! ## Runs -/

/-- A walk has one run at most. -/
theorem WalkRun.unique (h : tree.WalkRun listing pending found)
    (h' : tree.WalkRun listing pending found') : found = found' := by
  induction h generalizing found' with
  | done =>
      cases h' with
      | done => rfl
  | enter _ ih =>
      cases h' with
      | enter rest' => rw [ih rest']

theorem foundBelow_eq (h : tree.TreeBelow directory) (hlists : tree.Lists listing) :
    tree.foundBelow base directory = placed base directory (tree.sourceNames listing directory) ++
      (tree.enteredNames listing directory).flatMap fun name =>
        tree.foundBelow (joinedPath base name) (directory ++ [name]) := by
  rw [foundBelow, sourcesBelow_eq_directoryPaths h hlists, directoryPaths, List.map_append,
    List.map_map, List.map_flatMap]
  congr 1
  apply List.flatMap_congr
  intro name _
  rw [foundBelow, List.map_map]
  apply List.map_congr_left
  intro path _
  simp

/-- Directories that are each walked through are walked through one after another. -/
theorem walkRun_placed
    (hwalk : ∀ name ∈ names, ∀ pending found, tree.WalkRun listing pending found →
      tree.WalkRun listing ((joinedPath base name, directory ++ [name]) :: pending)
        (tree.foundBelow (joinedPath base name) (directory ++ [name]) ++ found))
    (hrun : tree.WalkRun listing pending found) :
    tree.WalkRun listing (placed base directory names ++ pending)
      ((names.flatMap fun name => tree.foundBelow (joinedPath base name) (directory ++ [name])) ++
        found) := by
  induction names with
  | nil => exact hrun
  | cons name rest ih =>
      rw [List.flatMap_cons, List.append_assoc]
      exact hwalk name List.mem_cons_self _ _
        (ih fun other hother => hwalk other (List.mem_cons_of_mem name hother))

/-- A directory is walked through if its subdirectories are. -/
theorem walkRun_of_subdirectories (h : tree.TreeBelow directory) (hlists : tree.Lists listing)
    (hwalk : ∀ name ∈ tree.enteredNames listing directory, ∀ pending found,
      tree.WalkRun listing pending found →
        tree.WalkRun listing ((joinedPath base name, directory ++ [name]) :: pending)
          (tree.foundBelow (joinedPath base name) (directory ++ [name]) ++ found))
    (hrun : tree.WalkRun listing pending found) :
    tree.WalkRun listing ((base, directory) :: pending)
      (tree.foundBelow base directory ++ found) := by
  rw [foundBelow_eq h hlists, List.append_assoc]
  exact WalkRun.enter (walkRun_placed hwalk hrun)

/-- Every directory is walked through. The induction is on how much deeper entries may stand. -/
theorem walkRun_foundBelow (hlists : tree.Lists listing) (deeper : Nat)
    (hdeeper : ∀ e ∈ tree.entries, e.1.length ≤ directory.length + deeper)
    (h : tree.TreeBelow directory) (hrun : tree.WalkRun listing pending found) :
    tree.WalkRun listing ((base, directory) :: pending)
      (tree.foundBelow base directory ++ found) := by
  induction deeper generalizing base directory pending found with
  | zero =>
      -- no subdirectory stands deeper than the directory
      refine walkRun_of_subdirectories h hlists (fun name hname => ?_) hrun
      have hlength := hdeeper _ ((mem_enteredNames_iff h hlists).1 hname).1
      simp at hlength
  | succ deeper ih =>
      refine walkRun_of_subdirectories h hlists (fun name _ pending found hrun => ?_) hrun
      refine ih (fun e he => ?_) (h.subdirectory name) hrun
      have hlength := hdeeper e he
      rw [List.length_append, List.length_singleton]
      omega

theorem exists_depth (tree : FileTree) : ∃ depth, ∀ e ∈ tree.entries, e.1.length ≤ depth := by
  induction tree.entries with
  | nil => exact ⟨0, fun e he => absurd he List.not_mem_nil⟩
  | cons first rest ih =>
      obtain ⟨depth, hdepth⟩ := ih
      refine ⟨max first.1.length depth, List.forall_mem_cons.2 ⟨le_max_left _ _, fun e he => ?_⟩⟩
      exact (hdepth e he).trans (le_max_right _ _)

/-- However the system lists directories, the walk through one ends, and with the sources below
it. -/
theorem walkRun_iff (h : tree.TreeBelow directory) (hlists : tree.Lists listing) :
    tree.WalkRun listing [(base, directory)] found ↔ found = tree.foundBelow base directory := by
  obtain ⟨depth, hdepth⟩ := tree.exists_depth
  have hrun : tree.WalkRun listing [(base, directory)] (tree.foundBelow base directory ++ []) :=
    walkRun_foundBelow hlists depth (fun e he => (hdepth e he).trans (Nat.le_add_left _ _)) h
      WalkRun.done
  rw [List.append_nil] at hrun
  constructor
  · intro hfound
    exact hfound.unique hrun
  · rintro rfl
    exact hrun

/-! ## Path texts -/

/-- A path that ends in the name of a file does not end in a slash. -/
theorem joinedPath_open (base : String) (hname : IsFileName name) :
    joinedPath base name ≠ "" ∧ (joinedPath base name).toList.getLast? ≠ some '/' := by
  have hne : name.toList ≠ [] := by
    intro h
    apply hname.2
    rw [String.toList_eq_nil_iff.1 h]
    exact List.mem_cons_self
  have hends : ∀ start : String, start ++ name ≠ "" ∧ (start ++ name).toList.getLast? ≠ some '/' := by
    intro start
    constructor
    · intro h
      apply hne
      have hlist := congrArg String.toList h
      rw [String.toList_append] at hlist
      exact (List.append_eq_nil_iff.1 hlist).2
    · rw [String.toList_append, List.getLast?_append_of_ne_nil _ hne]
      intro h
      exact hname.1 (List.mem_of_getLast? h)
  rw [joinedPath]
  split_ifs
  · exact hends base
  · exact hends (base ++ "/")

/-- The text of a path below a root joins one name after another. -/
theorem textBelow_eq_foldl (htext : root.text ≠ "") (hne : path ≠ [])
    (hnames : ∀ name ∈ path, IsFileName name) :
    root.textBelow path = path.foldl joinedPath root.text := by
  induction path generalizing root with
  | nil => exact absurd rfl hne
  | cons name rest ih =>
      have hname := hnames name List.mem_cons_self
      rw [List.foldl_cons]
      rcases rest with _ | ⟨next, more⟩
      · simp only [SourceRoot.textBelow, String.intercalate_singleton, List.foldl_nil, joinedPath,
          htext, false_or]
      · obtain ⟨hopen, hslash⟩ := joinedPath_open root.text hname
        have hrest : SourceRoot.textBelow ⟨joinedPath root.text name, root.path⟩ (next :: more) =
            (next :: more).foldl joinedPath (joinedPath root.text name) :=
          ih hopen (List.cons_ne_nil next more)
            fun other hother => hnames other (List.mem_cons_of_mem name hother)
        rw [← hrest]
        simp only [SourceRoot.textBelow, String.intercalate_cons_cons, hslash, if_false]
        simp only [joinedPath, htext, false_or]
        split_ifs <;> simp only [String.append_assoc]

theorem textBelow_inj {other : List String} (hpath : ∀ name ∈ path, IsFileName name)
    (hother : ∀ name ∈ other, IsFileName name) (h : root.textBelow path = root.textBelow other) :
    path = other := by
  have hparts : ∀ names : List String, (∀ name ∈ names, IsFileName name) →
      ∀ name ∈ names, name ≠ "" ∧ '/' ∉ name.toList := by
    intro names hnames name hmem
    refine ⟨?_, (hnames name hmem).1⟩
    rintro rfl
    exact (hnames "" hmem).2 List.mem_cons_self
  have hjoined : "/".intercalate path = "/".intercalate other := by
    simp only [SourceRoot.textBelow] at h
    split_ifs at h
    · exact (String.append_right_inj _).1 h
    · exact (String.append_right_inj _).1 h
  exact Text.intercalate_inj rfl (hparts path hpath) (hparts other hother) hjoined

/-! ## Discovery -/

/-- Discovery lists the sources below its root: all files with the ending of sources under
directories that are not skipped, whatever the root is called, and nothing else. Each is listed once
and under a path of its own. Of each directory its own sources come first, then those below its
subdirectories, both in the order of names. However the system lists directories, the walk through
them ends with this list. -/
theorem discover_exact (hroot : tree.rootLocation? root = some location)
    (htree : tree.TreeBelow location) :
    ∃ paths : List (List String),
      tree.discover root = paths.map (fun path => (root.textBelow path, location ++ path)) ∧
      (∀ path, path ∈ paths ↔ tree.IsSourceBelow location path) ∧
      paths.Pairwise ListedBefore ∧
      (paths.map root.textBelow).Nodup ∧
      ∀ listing, tree.Lists listing → ∀ found,
        tree.WalkRun listing [(root.text, location)] found ↔ found = tree.discover root := by
  have htext : root.text ≠ "" := by
    rintro htext
    rw [rootLocation?, if_pos htext] at hroot
    cases hroot
  have hnames : ∀ path ∈ tree.sourcesBelow location, ∀ name ∈ path, IsFileName name := by
    intro path hpath name hname
    obtain ⟨-, -, content, -, hfile, -⟩ := mem_sourcesBelow_iff.1 hpath
    exact htree.isFileName hfile hname
  have hdiscover : tree.discover root =
      (tree.sourcesBelow location).map fun path => (root.textBelow path, location ++ path) := by
    rw [discover, hroot]
  have hordered := pairwise_sourcesBelow htree.distinct location
  refine ⟨tree.sourcesBelow location, hdiscover, fun _ => mem_sourcesBelow_iff, hordered, ?_, ?_⟩
  · refine List.Nodup.map_on ?_ (ListedBefore.nodup hordered)
    exact fun path hpath other hother => textBelow_inj (hnames path hpath) (hnames other hother)
  · intro listing hlists found
    have hfound : tree.foundBelow root.text location = tree.discover root := by
      rw [foundBelow, hdiscover]
      apply List.map_congr_left
      intro path hpath
      rw [textBelow_eq_foldl htext (ne_nil_of_mem_sourcesBelow hpath) (hnames path hpath)]
    rw [walkRun_iff htree hlists, hfound]

/-- A root with a source, a text and two directories with a source each, one of which holds build
output. -/
def mixedTree : FileTree :=
  ⟨[(["src"], .directory), (["src", "p"], .directory), (["src", "p", "A.java"], .file (.text "")),
    (["src", "Build"], .directory), (["src", "Build", "B.java"], .file (.text "")),
    (["src", "notes.txt"], .file (.text "")), (["src", "z.java"], .file (.text ""))]⟩

/-- Of the four files two are found, also if the system lists directories backwards. -/
theorem discover_mixedTree :
    mixedTree.discover (SourceRoot.ofText "src") =
        [("src/z.java", ["src", "z.java"]), ("src/p/A.java", ["src", "p", "A.java"])] ∧
      mixedTree.WalkRun (fun directory => (mixedTree.entryNames directory).reverse)
        [("src", ["src"])]
        [("src/z.java", ["src", "z.java"]), ("src/p/A.java", ["src", "p", "A.java"])] := by
  have hroot : mixedTree.rootLocation? (SourceRoot.ofText "src") = some ["src"] := by
    decide +kernel
  have htree : mixedTree.TreeBelow ["src"] := by
    decide +kernel
  have hbelow : (mixedTree.filesBelow ["src"]).filter isDiscovered =
      [["p", "A.java"], ["z.java"]] := by
    decide +kernel
  have hsources : mixedTree.sourcesBelow ["src"] = [["z.java"], ["p", "A.java"]] := by
    apply ListedBefore.eq_of_mem_iff (pairwise_sourcesBelow htree.distinct _)
      (List.pairwise_pair.2 (ListedBefore.fileFirst (List.cons_ne_nil _ _)))
    intro path
    rw [sourcesBelow, List.mem_mergeSort, hbelow, List.mem_pair, List.mem_pair, or_comm]
  have hfound : mixedTree.discover (SourceRoot.ofText "src") =
      [("src/z.java", ["src", "z.java"]), ("src/p/A.java", ["src", "p", "A.java"])] := by
    rw [discover, hroot]
    simp only [hsources]
    decide +kernel
  obtain ⟨-, -, -, -, -, hwalk⟩ := discover_exact hroot htree
  have hlists := (lists_entryNames htree.distinct).perm fun directory => List.reverse_perm _
  exact ⟨hfound, (hwalk _ hlists _).2 hfound.symm⟩

end FileTree

end Skeletal
