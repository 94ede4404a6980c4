import Mathlib.Data.List.Basic
import Mathlib.Data.String.Basic
import Skeletal.FileTree.Basic
import Skeletal.Proofs.Lookup

/-!
# Where paths lead

The location that a path leads to does not depend on the tree (`FilePath.place`). The tree decides
whether the path leads there at all, and it does so as long as the directories on the way stay
(`FileTree.Leads.mono`). What stands at a location after an entry is added or taken away is said by
one equation for each of these operations.
-/

set_option autoImplicit false

namespace Skeletal

/-- A text that names a file: one segment of a path, which does not lead up. -/
def IsFileName (text : String) : Prop :=
  '/' ∉ text.toList ∧ text ∉ ["", ".", ".."]

instance (text : String) : Decidable (IsFileName text) :=
  inferInstanceAs (Decidable (_ ∧ _))

theorem IsFileName.ne_points {text : String} (h : IsFileName text) : text ≠ ".." := by
  rintro rfl
  exact h.2 (by decide)

/-- The name of a file shows as a segment of a path. -/
theorem IsFileName.shows {text : String} (h : IsFileName text) : text ≠ "" ∧ text ≠ "." := by
  constructor
  · rintro rfl
    exact h.2 (by decide)
  · rintro rfl
    exact h.2 (by decide)

namespace FilePath

/-- Location that a path leads to, wherever it leads anywhere. -/
def place (p : FilePath) : Location :=
  p.segments.foldl FileTree.step (FileTree.anchorLocation p.anchor)

/-- The path is free of null characters and not too long. -/
def Admissible (p : FilePath) : Prop :=
  '\x00' ∉ p.text.toList ∧ p.text.utf8ByteSize ≤ maxPathBytes

/-- Locations that a path comes by, its own included. -/
def ComesBy (p : FilePath) (location : Location) : Prop :=
  ∃ segments, segments <+: p.segments ∧ location = place ⟨p.anchor, segments⟩

end FilePath

namespace FileTree

variable {tree tree' : FileTree} {location other : Location} {entry : Entry} {p : FilePath}
  {name segment : String} {segments rest : List String}

/-! ## Lookups -/

/-- Paths start where a directory is given. -/
theorem isGiven_anchorLocation (anchor : Anchor) : isGiven (anchorLocation anchor) = true := by
  cases anchor with
  | relative => rfl
  | top slashes => rfl
  | within directory => rfl

theorem lookup?_of_isGiven (h : isGiven location = true) :
    tree.lookup? location = some .directory := by
  rw [lookup?, if_pos h]

theorem lookup?_of_not_isGiven (h : isGiven location = false) :
    tree.lookup? location = tree.entries.lookup location := by
  rw [lookup?, if_neg (by rw [h]; exact Bool.false_ne_true)]

/-- Only directories are given. -/
theorem not_isGiven_of_lookup? (h : tree.lookup? location ≠ some .directory) :
    isGiven location = false := by
  cases hgiven : isGiven location with
  | false => rfl
  | true => exact absurd (lookup?_of_isGiven hgiven) h

/-- A location that goes through a file name is given in no tree. -/
theorem not_isGiven_of_mem (hname : IsFileName name) (h : name ∈ location) :
    isGiven location = false := by
  rw [isGiven, Bool.or_eq_false_iff]
  constructor
  · rw [beq_eq_false_iff_ne]
    rintro rfl
    obtain rfl := List.mem_singleton.1 h
    exact hname.1 (by decide)
  · rw [List.all_eq_false]
    exact ⟨name, h, by simpa using hname.ne_points⟩

theorem lookup?_erase (h : isGiven location = false) (other : Location) :
    (tree.erase location).lookup? other = if other = location then none else tree.lookup? other := by
  have hfilter := lookup_filter (fun l => decide (l ≠ location)) tree.entries other
  by_cases hother : other = location
  · subst hother
    rw [lookup?_of_not_isGiven h, if_pos rfl, erase, hfilter]
    simp
  · rw [if_neg hother, lookup?, lookup?, erase, hfilter]
    simp [hother]

/-- An entry stands where it was put, and elsewhere all is as it was. -/
theorem lookup?_insert (h : isGiven location = false) (entry : Entry) (other : Location) :
    (tree.insert location entry).lookup? other =
      if other = location then some entry else tree.lookup? other := by
  by_cases hother : other = location
  · subst hother
    have herase : (tree.erase other).lookup? other = _ := lookup?_erase h other
    rw [lookup?_of_not_isGiven h, if_pos rfl] at herase
    rw [lookup?_of_not_isGiven h, if_pos rfl, insert, List.lookup_append, herase]
    simp
  · have herase : (tree.erase location).lookup? other = _ := lookup?_erase h other
    rw [if_neg hother] at herase
    have hbeq : (other == location) = false := beq_eq_false_iff_ne.2 hother
    rw [if_neg hother, ← herase, lookup?, lookup?, insert, List.lookup_append]
    simp [List.lookup_cons, hbeq]

theorem lookup?_eraseAll (h : ∀ other, location <+: other → isGiven other = false)
    (other : Location) :
    (tree.eraseAll location).lookup? other =
      if location <+: other then none else tree.lookup? other := by
  have hfilter := lookup_filter (fun l => !location.isPrefixOf l) tree.entries other
  by_cases hother : location <+: other
  · rw [lookup?_of_not_isGiven (h other hother), if_pos hother, eraseAll, hfilter]
    simp [hother]
  · have hstart : location.isPrefixOf other = false := by
      rwa [← Bool.not_eq_true, List.isPrefixOf_iff_prefix]
    rw [if_neg hother, lookup?, lookup?, eraseAll, hfilter]
    simp [hstart]

/-! ## Ways -/

theorem step_of_ne (h : segment ≠ "..") : step location segment = location ++ [segment] :=
  if_neg h

/-- Segments that do not lead up are names below the location. -/
theorem foldl_step_of_ne (h : ∀ segment ∈ segments, segment ≠ "..") (location : Location) :
    segments.foldl step location = location ++ segments := by
  induction segments generalizing location with
  | nil => simp
  | cons segment rest ih =>
      rw [List.foldl_cons, step_of_ne (h segment List.mem_cons_self),
        ih fun s hs => h s (List.mem_cons_of_mem _ hs)]
      simp

/-- A step from a location leads below one of the names there only if it leads to that name. -/
theorem step_eq_of_prefix (h : location ++ [name] <+: step location segment) :
    step location segment = location ++ [name] := by
  have hlength := h.length_le
  rw [List.length_append, List.length_singleton] at hlength
  by_cases hsegment : segment = ".."
  · rw [step, if_pos hsegment] at h hlength ⊢
    rw [above] at h hlength ⊢
    split_ifs at h hlength ⊢ with htop hgiven
    · exact absurd hlength (Nat.not_succ_le_self _)
    · exact (h.eq_of_length (by simp)).symm
    · rw [List.length_dropLast] at hlength
      omega
  · rw [step_of_ne hsegment] at h ⊢
    exact (h.eq_of_length (by simp)).symm

/-- The segments lead on from a location through directories. -/
inductive Leads (tree : FileTree) : Location → List String → Prop
  | nil {location : Location} : Leads tree location []
  | cons {location : Location} {segment : String} {rest : List String}
      (directory : tree.lookup? location = some .directory)
      (short : segment.utf8ByteSize ≤ maxNameBytes)
      (leads : Leads tree (step location segment) rest) : Leads tree location (segment :: rest)

theorem follow_eq_ok_iff : tree.follow location segments = .ok other ↔
    tree.Leads location segments ∧ other = segments.foldl step location := by
  induction segments generalizing location with
  | nil =>
      rw [follow, Except.ok.injEq, eq_comm]
      exact (and_iff_right .nil).symm
  | cons segment rest ih =>
      rw [follow, List.foldl_cons]
      constructor
      · intro h
        cases hlookup : tree.lookup? location with
        | none => simp [hlookup] at h
        | some entry =>
            cases entry with
            | file content => simp [hlookup] at h
            | directory =>
                simp only [hlookup] at h
                split_ifs at h with hlong
                obtain ⟨hleads, hother⟩ := ih.1 h
                exact ⟨.cons hlookup (Nat.le_of_not_lt hlong) hleads, hother⟩
      · rintro ⟨hleads, hother⟩
        cases hleads with
        | cons hlookup hshort hleads =>
            simp only [hlookup]
            rw [if_neg (Nat.not_lt.2 hshort)]
            exact ih.2 ⟨hleads, hother⟩

theorem locate_eq_ok_iff : tree.locate p = .ok location ↔
    p.Admissible ∧ tree.Leads (anchorLocation p.anchor) p.segments ∧ location = p.place := by
  rw [locate, FilePath.Admissible, FilePath.place, ← follow_eq_ok_iff]
  by_cases hnull : '\x00' ∈ p.text.toList
  · simp [hnull]
  · by_cases hlong : p.text.utf8ByteSize > maxPathBytes
    · simp [hnull, hlong, Nat.not_le.2 hlong]
    · simp [hnull, hlong, Nat.le_of_not_lt hlong]

theorem Leads.mono (h : tree.Leads location segments)
    (hkeeps : ∀ l, tree.lookup? l = some .directory → tree'.lookup? l = some .directory) :
    tree'.Leads location segments := by
  induction h with
  | nil => exact .nil
  | cons directory short _ ih => exact .cons (hkeeps _ directory) short ih

theorem leads_append_iff : tree.Leads location (segments ++ rest) ↔
    tree.Leads location segments ∧ tree.Leads (segments.foldl step location) rest := by
  induction segments generalizing location with
  | nil => exact (and_iff_right .nil).symm
  | cons segment segments ih =>
      constructor
      · intro h
        cases h with
        | cons directory short leads =>
            obtain ⟨hleads, hrest⟩ := ih.1 leads
            exact ⟨.cons directory short hleads, hrest⟩
      · rintro ⟨hleads, hrest⟩
        cases hleads with
        | cons directory short leads => exact .cons directory short (ih.2 ⟨leads, hrest⟩)

/-- A path that leads on from a location finds a directory there. -/
theorem Leads.directory (h : tree.Leads location (segment :: rest)) :
    tree.lookup? location = some .directory := by
  cases h with
  | cons directory _ _ => exact directory

/-- A path leads on as its neighbour does, if its last name is short enough in some tree. -/
theorem Leads.sibling (h : tree.Leads location (segments ++ [name]))
    (h' : tree'.Leads location (segments ++ [segment])) :
    tree'.Leads location (segments ++ [name]) := by
  obtain ⟨-, hlast⟩ := leads_append_iff.1 h
  obtain ⟨hway, hlast'⟩ := leads_append_iff.1 h'
  cases hlast with
  | cons _ short _ => exact leads_append_iff.2 ⟨hway, .cons hlast'.directory short .nil⟩

theorem place_append (anchor : Anchor) (segments rest : List String) :
    FilePath.place ⟨anchor, segments ++ rest⟩ =
      rest.foldl step (FilePath.place ⟨anchor, segments⟩) :=
  List.foldl_append

/-- Names of files behind a path lead to places below it. -/
theorem place_append_names {names : List String} (h : ∀ name ∈ names, IsFileName name)
    (anchor : Anchor) (segments : List String) :
    FilePath.place ⟨anchor, segments ++ names⟩ = FilePath.place ⟨anchor, segments⟩ ++ names := by
  rw [place_append, foldl_step_of_ne fun name hname => (h name hname).ne_points]

/-- A path goes on leading to its place as long as the directories stay. -/
theorem locate_mono (h : tree.locate p = .ok location)
    (hkeeps : ∀ l, tree.lookup? l = some .directory → tree'.lookup? l = some .directory) :
    tree'.locate p = .ok location := by
  obtain ⟨hadmissible, hleads, hlocation⟩ := locate_eq_ok_iff.1 h
  exact locate_eq_ok_iff.2 ⟨hadmissible, hleads.mono hkeeps, hlocation⟩

theorem entryAt?_eq_some_iff : tree.entryAt? p = some entry ↔
    tree.locate p = .ok p.place ∧ tree.lookup? p.place = some entry := by
  rw [entryAt?]
  cases hlocate : tree.locate p with
  | error fault => simp
  | ok location =>
      obtain rfl := (locate_eq_ok_iff.1 hlocate).2.2
      simp

/-- Where nothing stands at the place of a path, nothing stands at the path. -/
theorem entryAt?_eq_none_of_lookup? (h : tree.lookup? p.place = none) : tree.entryAt? p = none := by
  refine Option.eq_none_iff_forall_ne_some.2 fun entry hentry => ?_
  cases h.symm.trans (entryAt?_eq_some_iff.1 hentry).2

/-- A directory goes on standing at a path as long as the directories stay. -/
theorem entryAt?_directory_mono (h : tree.entryAt? p = some .directory)
    (hkeeps : ∀ l, tree.lookup? l = some .directory → tree'.lookup? l = some .directory) :
    tree'.entryAt? p = some .directory := by
  obtain ⟨hlocate, hdirectory⟩ := entryAt?_eq_some_iff.1 h
  exact entryAt?_eq_some_iff.2 ⟨locate_mono hlocate hkeeps, hkeeps _ hdirectory⟩

end FileTree

end Skeletal
