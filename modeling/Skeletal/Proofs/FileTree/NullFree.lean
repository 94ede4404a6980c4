import Skeletal.FileTree.Basic
import Skeletal.Proofs.Computation
import Skeletal.Proofs.Text.Parts

/-!
# Paths without null characters

A path is free of null characters if its anchor and its segments are (`FilePath.nullFree_iff`), and
then so are the paths above it and below it. Creating a directory with those above it does not fail
for a null character where the path has none (`FileAction.failsWith_ensureDirectories`).
-/

set_option autoImplicit false

namespace Skeletal

/-- The text has no null character. -/
def NullFree (text : String) : Prop := '\x00' ∉ text.toList

instance (text : String) : Decidable (NullFree text) := inferInstanceAs (Decidable (¬ _))

variable {word directory : String} {p : FilePath} {tree : FileTree}

theorem nullFree_splitSlashes (h : NullFree word) : ∀ part ∈ splitSlashes word, NullFree part :=
  fun _ hpart hnull => h (Text.mem_of_mem_partsAt hpart hnull)

/-- Text that an anchor stands for. -/
def Anchor.text : Anchor → String
  | .relative => ""
  | .top slashes => slashes
  | .within directory => directory

namespace FilePath

/-- The path has no null character. -/
def NullFree (p : FilePath) : Prop := Skeletal.NullFree p.text

instance (p : FilePath) : Decidable p.NullFree := inferInstanceAs (Decidable (Skeletal.NullFree _))

theorem nullFree_iff : p.NullFree ↔
    Skeletal.NullFree p.anchor.text ∧ ∀ segment ∈ p.segments, Skeletal.NullFree segment := by
  obtain ⟨anchor, segments⟩ := p
  have hjoined : (∀ segment ∈ segments, Skeletal.NullFree segment) ↔
      '\x00' ∉ ("/".intercalate segments).toList := by
    have hslash : "/" = String.singleton '/' := rfl
    rw [hslash, Text.mem_toList_intercalate_iff (by decide)]
    simp [Skeletal.NullFree]
  have hslash : '\x00' ∉ "/".toList := by decide
  have hempty : Skeletal.NullFree "" := by decide
  rw [hjoined]
  -- the anchor stands before the joined segments, apart from a path without segments
  cases anchor with
  | relative =>
      cases segments with
      | nil => decide
      | cons segment rest => exact (and_iff_right hempty).symm
  | top slashes =>
      change '\x00' ∉ (slashes ++ "/".intercalate segments).toList ↔
        '\x00' ∉ slashes.toList ∧ '\x00' ∉ ("/".intercalate segments).toList
      rw [String.toList_append, List.mem_append, not_or]
  | within directory =>
      cases segments with
      | nil => exact (and_iff_left (by decide)).symm
      | cons segment rest =>
          change '\x00' ∉ (directory ++ "/" ++ "/".intercalate (segment :: rest)).toList ↔
            '\x00' ∉ directory.toList ∧ '\x00' ∉ ("/".intercalate (segment :: rest)).toList
          rw [String.toList_append, String.toList_append, List.mem_append, List.mem_append,
            not_or, not_or, and_iff_left hslash]

theorem NullFree.absolute (h : p.NullFree) (hdirectory : Skeletal.NullFree directory) :
    (p.absolute directory).NullFree := by
  rw [nullFree_iff] at h ⊢
  obtain ⟨anchor, segments⟩ := p
  cases anchor with
  | relative => exact ⟨hdirectory, h.2⟩
  | top slashes => exact h
  | within other => exact h

theorem NullFree.parent (h : p.NullFree) : p.parent.NullFree := by
  rw [nullFree_iff] at h ⊢
  rw [FilePath.parent]
  split
  · refine ⟨h.1, fun segment hsegment => ?_⟩
    obtain rfl := List.mem_singleton.1 hsegment
    decide
  · exact ⟨h.1, fun segment hsegment => h.2 segment (List.dropLast_subset _ hsegment)⟩

theorem NullFree.below (h : p.NullFree) (hword : Skeletal.NullFree word) :
    (p.below word).NullFree := by
  rw [nullFree_iff] at h ⊢
  have hsegments : ∀ segment ∈ segmentsOf word, Skeletal.NullFree segment :=
    fun segment hsegment => nullFree_splitSlashes hword segment (List.mem_filter.1 hsegment).1
  have hanchor : Skeletal.NullFree (anchorOf word).text := by
    rw [anchorOf]
    split
    · decide
    · decide
    · decide
  rw [FilePath.below]
  split
  · refine ⟨h.1, fun segment hsegment => ?_⟩
    exact (List.mem_append.1 hsegment).elim (h.2 segment) (hsegments segment)
  · exact ⟨hanchor, hsegments⟩

/-- What leads to a path without null characters has none. -/
theorem NullFree.of_segments {anchor : Anchor} {segments fewer : List String}
    (h : NullFree ⟨anchor, segments⟩) (hsubset : fewer ⊆ segments) : NullFree ⟨anchor, fewer⟩ := by
  rw [nullFree_iff] at h ⊢
  exact ⟨h.1, fun segment hsegment => h.2 segment (hsubset hsegment)⟩

end FilePath

/-! ## Faults -/

theorem FileTree.follow_ne_embeddedNull (location : Location) (segments : List String) :
    tree.follow location segments ≠ .error .embeddedNull := by
  induction segments generalizing location with
  | nil => exact nofun
  | cons segment rest ih =>
      rw [FileTree.follow]
      split
      · exact nofun
      · exact nofun
      · split
        · exact nofun
        · exact ih _

theorem FileTree.locate_ne_embeddedNull (h : p.NullFree) :
    tree.locate p ≠ .error .embeddedNull := by
  have hnull : ¬ p.text.toList.contains '\x00' = true := by
    rw [List.contains_iff_mem]
    exact h
  rw [FileTree.locate, if_neg hnull]
  split
  · exact nofun
  · exact FileTree.follow_ne_embeddedNull _ _

namespace FileAction

/-- The failure is another one than that of a null character. -/
def NoNull (e : FileError) : Prop := e.fault ≠ .embeddedNull

theorem failsWith_get {P : FileError → Prop} :
    FailsWith P (getThe FileTree : FileAction FileTree) :=
  fun _ _ _ h => nomatch (Prod.mk.inj h).1

theorem failsWith_locate (h : p.NullFree) : FailsWith NoNull (locate p) := by
  refine failsWith_get.bind fun tree => ?_
  cases hlocate : tree.locate p with
  | ok location => exact failsWith_pure location
  | error fault =>
      refine failsWith_throw fun hfault => ?_
      obtain rfl : fault = .embeddedNull := hfault
      exact FileTree.locate_ne_embeddedNull h hlocate

theorem failsWith_makeDirectory (h : p.NullFree) : FailsWith NoNull (makeDirectory p) := by
  refine (failsWith_locate h).bind fun location => failsWith_get.bind fun tree => ?_
  cases tree.lookup? location with
  | some entry => exact failsWith_throw nofun
  | none => exact fun _ _ _ h => nomatch (Prod.mk.inj h).1

theorem failsWith_isDirectory (p : FilePath) : FailsWith NoNull (isDirectory p) := by
  refine failsWith_get.bind fun tree => ?_
  cases tree.locate p with
  | ok location => exact failsWith_get.bind fun tree => failsWith_pure _
  | error fault =>
      cases fault with
      | nameTooLong => exact failsWith_throw nofun
      | _ => exact failsWith_pure false

theorem failsWith_ensureDirectory (h : p.NullFree) : FailsWith NoNull (ensureDirectory p) := by
  refine (failsWith_makeDirectory h).tryCatch fun e he => ?_
  split
  · exact failsWith_throw he
  · refine (failsWith_isDirectory p).bind fun isDirectory => ?_
    cases isDirectory with
    | true => exact failsWith_pure ()
    | false => exact failsWith_throw he

theorem failsWith_ensureDirectoriesTo {anchor : Anchor} {up : List String}
    (h : FilePath.NullFree ⟨anchor, up.reverse⟩) :
    FailsWith NoNull (ensureDirectoriesTo anchor up) := by
  induction up with
  | nil => exact failsWith_ensureDirectory h
  | cons segment up ih =>
      have habove : FilePath.NullFree ⟨anchor, up.reverse⟩ :=
        h.of_segments (by rw [List.reverse_cons]; exact List.subset_append_left _ _)
      refine (failsWith_ensureDirectory h).tryCatch fun e he => ?_
      split
      · exact (ih habove).bind fun _ => failsWith_ensureDirectory h
      · exact failsWith_throw he

/-- Where the path has no null character, its directories are created or fail for another fault. -/
theorem failsWith_ensureDirectories (h : p.NullFree) : FailsWith NoNull (ensureDirectories p) := by
  refine failsWith_ensureDirectoriesTo ?_
  rwa [List.reverse_reverse]

end FileAction

end Skeletal
