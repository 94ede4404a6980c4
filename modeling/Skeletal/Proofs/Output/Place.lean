import Mathlib.Data.List.Infix
import Skeletal.Output.Compiler
import Skeletal.Proofs.FileTree.Location
import Skeletal.Proofs.Text.Parts

/-!
# Places of generated files

The files of a generated class stand below a root, in the directories of the package, if the names
of the type are names of files (`outputPath_eq`). The compiled class stands beside its source, where
the archive entry is read from (`besideSource_outputPath`, `compiledPath_eq`).
-/

set_option autoImplicit false

namespace Skeletal

open Text (partsAt)

variable {text name tail extension : String} {names texts : List String} {p : FilePath}

/-! ## Segments of paths -/

theorem splitSlashes_eq_partsAt (text : String) : splitSlashes text = partsAt '/' text := rfl

theorem splitDots_eq_partsAt (text : String) : Load.splitDots text = partsAt '.' text := rfl

namespace FilePath

/-- A text names an anchor by its first character. -/
theorem anchorOf_of_head_ne (h : text.toList.head? ≠ some '/') : anchorOf text = .relative := by
  have hstart : text.toList.takeWhile (· = '/') = [] := by
    cases hlist : text.toList with
    | nil => rfl
    | cons c rest =>
        rw [hlist, List.head?_cons, Ne, Option.some_inj] at h
        exact List.takeWhile_cons_of_neg (by simpa using h)
  rw [anchorOf, hstart]
  rfl

theorem anchorOf_of_not_mem (h : '/' ∉ text.toList) : anchorOf text = .relative :=
  anchorOf_of_head_ne fun hhead => h (List.mem_of_head? hhead)

theorem anchorOf_append (h : IsFileName name) (tail : String) :
    anchorOf (name ++ tail) = .relative := by
  have hname : name.toList ≠ [] := fun hnil => h.shows.1 (String.toList_eq_nil_iff.1 hnil)
  apply anchorOf_of_head_ne
  rw [String.toList_append, List.head?_append_of_ne_nil _ hname]
  exact fun hhead => h.1 (List.mem_of_head? hhead)

theorem segmentsOf_of_isFileName (h : IsFileName name) : segmentsOf name = [name] := by
  rw [segmentsOf, splitSlashes_eq_partsAt, Text.partsAt_of_not_mem h.1,
    List.filter_cons_of_pos (by simpa using h.shows)]
  rfl

/-- A tail changes a name and adds segments behind it, in one way for all names. -/
theorem exists_segmentsOf_append (tail : String) : ∃ first rest, ∀ name, IsFileName name →
    segmentsOf (name ++ tail) = (name ++ first) :: rest := by
  obtain ⟨first, rest, htail⟩ := List.exists_cons_of_ne_nil (Text.partsAt_ne_nil '/' tail)
  refine ⟨first, rest.filter fun s => s ≠ "" ∧ s ≠ ".", fun name hname => ?_⟩
  have hempty : name ++ first ≠ "" :=
    fun h => hname.shows.1 (String.append_eq_empty_iff.1 h).1
  have hpoint : name ++ first ≠ "." := by
    intro h
    have hlist : name.toList ++ first.toList = ['.'] := by rw [← String.toList_append, h]; rfl
    rcases List.append_eq_singleton_iff.1 hlist with ⟨hnil, -⟩ | ⟨hsingle, -⟩
    · exact hname.shows.1 (String.toList_eq_nil_iff.1 hnil)
    · exact hname.shows.2 (String.toList_inj.1 hsingle)
  rw [segmentsOf, splitSlashes_eq_partsAt, Text.partsAt_append_of_not_mem hname.1 htail]
  exact List.filter_cons_of_pos (decide_eq_true ⟨hempty, hpoint⟩)

theorem segmentsOf_intercalate (texts : List String) :
    segmentsOf ("/".intercalate texts) = texts.flatMap segmentsOf := by
  induction texts with
  | nil => decide
  | cons first rest ih =>
      cases rest with
      | nil => simp
      | cons next rest =>
          have hslash : "/" = String.singleton '/' := rfl
          rw [String.intercalate_cons_cons, segmentsOf, splitSlashes_eq_partsAt, hslash,
            Text.partsAt_append, List.filter_append, List.flatMap_cons, ← hslash, ← ih]
          rfl

theorem below_of_relative (h : anchorOf text = .relative) (p : FilePath) :
    p.below text = ⟨p.anchor, p.segments ++ segmentsOf text⟩ := by
  rw [below, h]

/-- Texts that name no anchor lead on from a path by their segments. -/
theorem belowAll_of_relative (h : ∀ text ∈ texts, anchorOf text = .relative) (p : FilePath) :
    p.belowAll texts = ⟨p.anchor, p.segments ++ texts.flatMap segmentsOf⟩ := by
  induction texts generalizing p with
  | nil => simp [belowAll]
  | cons first rest ih =>
      have hrest := ih (fun text htext => h text (List.mem_cons_of_mem _ htext)) (p.below first)
      rw [belowAll] at hrest
      rw [belowAll, List.foldl_cons, hrest, below_of_relative (h first List.mem_cons_self),
        List.flatMap_cons, List.append_assoc]

/-- Where no text names an anchor, they may be joined by slashes and taken apart again. -/
theorem belowAll_splitSlashes (h : ∀ text ∈ texts, anchorOf text = .relative) (p : FilePath) :
    p.belowAll (splitSlashes ("/".intercalate texts)) = p.belowAll texts := by
  have hparts : ∀ part ∈ splitSlashes ("/".intercalate texts), anchorOf part = .relative :=
    fun part hpart => anchorOf_of_not_mem (Text.not_mem_of_mem_partsAt hpart)
  have hjoined : "/".intercalate (splitSlashes ("/".intercalate texts)) = "/".intercalate texts :=
    Text.intercalate_partsAt '/' _
  rw [belowAll_of_relative hparts, belowAll_of_relative h, ← segmentsOf_intercalate texts,
    ← segmentsOf_intercalate (splitSlashes _), hjoined]

theorem below_of_isFileName (h : IsFileName name) (p : FilePath) :
    p.below name = ⟨p.anchor, p.segments ++ [name]⟩ := by
  rw [below_of_relative (anchorOf_of_not_mem h.1), segmentsOf_of_isFileName h]

theorem flatMap_segmentsOf (h : ∀ name ∈ names, IsFileName name) :
    names.flatMap segmentsOf = names := by
  have hsegments : names.flatMap segmentsOf = names.flatMap fun name => [name] :=
    List.flatMap_congr fun name hname => segmentsOf_of_isFileName (h name hname)
  rw [hsegments, List.flatMap_singleton']

theorem belowAll_of_isFileName (h : ∀ name ∈ names, IsFileName name) (p : FilePath) :
    p.belowAll names = ⟨p.anchor, p.segments ++ names⟩ := by
  rw [belowAll_of_relative fun name hname => anchorOf_of_not_mem (h name hname).1,
    flatMap_segmentsOf h]

/-- Names of files lead up nowhere, so nothing is taken together. -/
theorem contract_of_isFileName (h : ∀ name ∈ names, IsFileName name) : contract names = names := by
  have hfold : ∀ before, names.foldl leadOn before = names.reverse ++ before := by
    induction names with
    | nil => exact fun before => rfl
    | cons first rest ih =>
        intro before
        have hfirst : first ≠ ".." := (h first List.mem_cons_self).ne_points
        rw [List.foldl_cons, List.reverse_cons, List.append_assoc]
        refine (ih (fun name hname => h name (List.mem_cons_of_mem _ hname)) _).trans ?_
        cases before with
        | nil => rfl
        | cons name up => simp [leadOn, hfirst]
  rw [contract, hfold, List.append_nil, List.reverse_reverse]

theorem parent_append_singleton (anchor : Anchor) (segments : List String) (name : String) :
    parent ⟨anchor, segments ++ [name]⟩ = ⟨anchor, segments⟩ := by
  have hne : segments ++ [name] ≠ [] := by simp
  rw [parent]
  split
  · exact absurd ‹_› hne
  · simp

end FilePath

/-! ## Files of a class -/

/-- The name of a file with a tail is the name of a file. -/
theorem isFileName_append (h : IsFileName name) (htail : '/' ∉ tail.toList) :
    IsFileName (name ++ tail) := by
  constructor
  · rw [String.toList_append, List.mem_append]
    exact not_or.2 ⟨h.1, htail⟩
  · intro hword
    -- what begins a word of points is one
    have hbegins : ∀ word ∈ ["", ".", ".."], ∀ start ∈ word.toList.inits,
        String.ofList start ∈ ["", ".", ".."] := by
      decide
    have hprefix : name.toList <+: (name ++ tail).toList := by
      rw [String.toList_append]
      exact List.prefix_append _ _
    have hname := hbegins _ hword _ ((List.mem_inits _ _).2 hprefix)
    rw [String.ofList_toList] at hname
    exact h.2 hname

/-- Different packages have different segments. -/
theorem packageSegments_inj {package package' : String}
    (h : packageSegments package = packageSegments package') : package = package' := by
  rw [packageSegments, packageSegments, splitDots_eq_partsAt, splitDots_eq_partsAt] at h
  split_ifs at h with hempty hempty' hempty'
  · rw [hempty, hempty']
  · exact absurd h.symm (Text.partsAt_ne_nil '.' package')
  · exact absurd h (Text.partsAt_ne_nil '.' package)
  · exact Text.partsAt_injective '.' h

/-- Where no name starts with a slash, the archive entry leads to the path of the class. -/
theorem compiledPath_eq_of_relative {s : Settings} {d : Descriptor}
    (hpackage : ∀ segment ∈ packageSegments d.package, FilePath.anchorOf segment = .relative)
    (hname : FilePath.anchorOf (s.className d ++ classExtension) = .relative) (root : FilePath) :
    s.compiledPath root d = s.outputPath root d classExtension := by
  have hall : ∀ text ∈ packageSegments d.package ++ [s.className d ++ classExtension],
      FilePath.anchorOf text = .relative :=
    List.forall_mem_append.2 ⟨hpackage, List.forall_mem_singleton.2 hname⟩
  calc s.compiledPath root d
      = root.belowAll (packageSegments d.package ++ [s.className d ++ classExtension]) :=
        FilePath.belowAll_splitSlashes hall root
    _ = s.outputPath root d classExtension := by
        rw [FilePath.belowAll, List.foldl_concat, Settings.outputPath, packageDirectory,
          FilePath.belowAll]

/-- The simple name of the type and the segments of its package are names of files. -/
structure Descriptor.NamesFiles (d : Descriptor) : Prop where
  name : IsFileName d.name
  package : ∀ segment ∈ packageSegments d.package, IsFileName segment

/-- The files of a class keep to one directory, and the source is not taken for the class: the
suffix of the class and the ending of the source hold no slash, and the ending is not that of
classes. -/
structure Settings.NamesFiles (s : Settings) : Prop where
  suffix : '/' ∉ s.classSuffix.toList
  extension : '/' ∉ s.generatedExtension.toList
  apart : s.generatedExtension ≠ classExtension

theorem Settings.namesFiles_default : ({} : Settings).NamesFiles :=
  ⟨by decide, by decide, by decide⟩

theorem slash_not_mem_classExtension : '/' ∉ classExtension.toList := by decide

theorem className_append (s : Settings) (d : Descriptor) (extension : String) :
    s.className d ++ extension = d.name ++ (s.classSuffix ++ extension) :=
  String.append_assoc

section

variable {s : Settings} {d : Descriptor} (hs : s.NamesFiles) (hd : d.NamesFiles)

include hs hd

theorem isFileName_className (hextension : '/' ∉ extension.toList) :
    IsFileName (s.className d ++ extension) := by
  rw [className_append]
  refine isFileName_append hd.name ?_
  rw [String.toList_append, List.mem_append]
  exact not_or.2 ⟨hs.suffix, hextension⟩

/-- Each of the files of a class stands in the directory of the package. -/
theorem outputPath_eq (root : FilePath) (hextension : '/' ∉ extension.toList) :
    s.outputPath root d extension =
      ⟨root.anchor,
        root.segments ++ (packageSegments d.package ++ [s.className d ++ extension])⟩ := by
  rw [Settings.outputPath, packageDirectory, FilePath.belowAll_of_isFileName hd.package,
    FilePath.below_of_isFileName (isFileName_className hs hd hextension), List.append_assoc]

theorem place_outputPath (root : FilePath) (hextension : '/' ∉ extension.toList) :
    (s.outputPath root d extension).place =
      root.place ++ (packageSegments d.package ++ [s.className d ++ extension]) := by
  rw [outputPath_eq hs hd root hextension]
  refine FileTree.place_append_names ?_ _ _
  intro name hname
  rcases List.mem_append.1 hname with hname | hname
  · exact hd.package name hname
  · rw [List.mem_singleton.1 hname]
    exact isFileName_className hs hd hextension

/-- The class does not stand in the place of its source. -/
theorem place_class_ne (root : FilePath) :
    (s.outputPath root d classExtension).place ≠
      (s.outputPath root d s.generatedExtension).place := by
  rw [place_outputPath hs hd root slash_not_mem_classExtension,
    place_outputPath hs hd root hs.extension]
  intro heq
  rw [List.append_cancel_left_eq, List.append_cancel_left_eq] at heq
  exact hs.apart ((String.append_right_inj _).1 (List.singleton_inj.1 heq)).symm

theorem parent_outputPath (root : FilePath) (hextension : '/' ∉ extension.toList) :
    (s.outputPath root d extension).parent =
      ⟨root.anchor, root.segments ++ packageSegments d.package⟩ := by
  rw [outputPath_eq hs hd root hextension, ← List.append_assoc, FilePath.parent_append_singleton]

/-- The compiled class is written where it is read from. -/
theorem compiledPath_eq (root : FilePath) :
    s.compiledPath root d = s.outputPath root d classExtension :=
  compiledPath_eq_of_relative (fun segment hsegment =>
      FilePath.anchorOf_of_not_mem (hd.package segment hsegment).1)
    (FilePath.anchorOf_of_not_mem
      (isFileName_className hs hd slash_not_mem_classExtension).1) root

theorem besideSource_outputPath (root : FilePath) :
    besideSource s.generatedExtension (s.outputPath root d s.generatedExtension) =
      s.outputPath root d classExtension := by
  have hfile : IsFileName (s.className d ++ classExtension) :=
    isFileName_className hs hd slash_not_mem_classExtension
  have hname : (s.outputPath root d s.generatedExtension).name =
      s.className d ++ s.generatedExtension := by
    rw [outputPath_eq hs hd root hs.extension, FilePath.name, ← List.append_assoc,
      List.getLastD_concat]
  have hstem : String.ofList ((s.className d ++ s.generatedExtension).toList.take
      ((s.className d ++ s.generatedExtension).length - s.generatedExtension.length)) =
        s.className d := by
    rw [String.length_append, Nat.add_sub_cancel, String.toList_append,
      List.take_left' String.length_toList, String.ofList_toList]
  rw [besideSource, hname, parent_outputPath hs hd root hs.extension]
  simp only [hstem]
  rw [FilePath.below_of_isFileName hfile,
    outputPath_eq hs hd root slash_not_mem_classExtension, List.append_assoc]

/-- The member of an archive for the class has the name of its entry. -/
theorem memberName_classEntry : memberName (s.classEntry d) = s.classEntry d := by
  have hnames : ∀ name ∈ packageSegments d.package ++ [s.className d ++ classExtension],
      IsFileName name :=
    List.forall_mem_append.2 ⟨hd.package,
      List.forall_mem_singleton.2 (isFileName_className hs hd slash_not_mem_classExtension)⟩
  have hsegments := FilePath.flatMap_segmentsOf hnames
  rw [memberName, Settings.classEntry, FilePath.segmentsOf_intercalate, hsegments,
    FilePath.contract_of_isFileName hnames]

end

end Skeletal
