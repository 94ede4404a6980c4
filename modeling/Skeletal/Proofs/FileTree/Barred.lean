import Skeletal.Proofs.FileTree.Change

/-!
# Places that are barred

Creating directories succeeds only where one stands afterwards (`FileAction.ensureDirectories_ok`).
From there a file can be put at the next name, unless the path does not fit the system or a
directory stands in its place (`FileTree.Bars`). What bars writing a file bars removing it as well,
since both look at the same place (`FileAction.write_of_leadsUpTo`).
-/

set_option autoImplicit false

namespace Skeletal

namespace FilePath

/-- The system takes the path: it is free of null characters, and neither the path nor its last name
is too long. -/
def Fits (p : FilePath) : Prop := p.Admissible ∧ p.name.utf8ByteSize ≤ maxNameBytes

instance (p : FilePath) : Decidable p.Admissible := inferInstanceAs (Decidable (_ ∧ _))

instance (p : FilePath) : Decidable p.Fits := inferInstanceAs (Decidable (_ ∧ _))

end FilePath

namespace FileTree

/-- No file can be put at the path: the system does not take it, or a directory stands there. -/
def Bars (tree : FileTree) (p : FilePath) : Prop :=
  ¬ p.Fits ∨ tree.entryAt? p = some .directory

instance (tree : FileTree) (p : FilePath) : Decidable (tree.Bars p) :=
  inferInstanceAs (Decidable (_ ∨ _))

/-- The path leads through directories up to its last name. -/
def LeadsUpTo (tree : FileTree) (p : FilePath) : Prop :=
  tree.Leads (anchorLocation p.anchor) p.segments.dropLast ∧
    tree.lookup? (FilePath.place ⟨p.anchor, p.segments.dropLast⟩) = some .directory

variable {tree tree' : FileTree} {p : FilePath} {location : Location} {segments rest : List String}

/-- A path is followed on from where its first segments lead. -/
theorem Leads.follow_append (h : tree.Leads location segments) (rest : List String) :
    tree.follow location (segments ++ rest) = tree.follow (segments.foldl step location) rest := by
  induction h with
  | nil => rfl
  | cons directory short _ ih =>
      rw [List.cons_append, follow, List.foldl_cons, ← ih]
      simp only [directory]
      rw [if_neg (Nat.not_lt.2 short)]

theorem leadsUpTo_of_segments_eq_nil (h : p.segments = []) : tree.LeadsUpTo p := by
  rw [LeadsUpTo, h]
  exact ⟨.nil, lookup?_of_isGiven (isGiven_anchorLocation _)⟩

/-- A path leads up to its last name if a directory stands at the path without it. -/
theorem leadsUpTo_of_entryAt? {above : FilePath} (hentry : tree.entryAt? above = some .directory)
    (hanchor : anchorLocation above.anchor = anchorLocation p.anchor)
    (hsegments : above.segments = p.segments.dropLast) : tree.LeadsUpTo p := by
  obtain ⟨hlocate, hlookup⟩ := entryAt?_eq_some_iff.1 hentry
  obtain ⟨-, hleads, -⟩ := locate_eq_ok_iff.1 hlocate
  rw [hanchor, hsegments] at hleads
  rw [FilePath.place, hanchor, hsegments] at hlookup
  exact ⟨hleads, hlookup⟩

/-- Behind directories that stand, a path leads to its place if it fits, and is refused for its
form if it does not. -/
theorem LeadsUpTo.locate (h : tree.LeadsUpTo p) :
    p.Fits ∧ tree.locate p = .ok p.place ∨
      ¬ p.Fits ∧ ∃ fault, tree.locate p = .error fault ∧ fault ≠ .notFound := by
  by_cases hnull : '\x00' ∈ p.text.toList
  · refine Or.inr ⟨fun hfits => hfits.1.1 hnull, .embeddedNull, ?_, FileFault.noConfusion⟩
    simp [FileTree.locate, hnull]
  by_cases hlong : maxPathBytes < p.text.utf8ByteSize
  · refine Or.inr
      ⟨fun hfits => Nat.not_lt.2 hfits.1.2 hlong, .nameTooLong, ?_, FileFault.noConfusion⟩
    simp [FileTree.locate, hnull, hlong]
  have hadmissible : p.Admissible := ⟨hnull, Nat.not_lt.1 hlong⟩
  -- what is left to be looked at is the last name
  rcases List.eq_nil_or_concat p.segments with hnil | ⟨segments, name, hsegments⟩
  · have hname : p.name = "" := by rw [FilePath.name, hnil]; rfl
    refine Or.inl ⟨⟨hadmissible, by rw [hname]; exact Nat.zero_le _⟩, ?_⟩
    exact locate_eq_ok_iff.2 ⟨hadmissible, by rw [hnil]; exact .nil, rfl⟩
  · rw [List.concat_eq_append] at hsegments
    have hname : p.name = name := by rw [FilePath.name, hsegments, List.getLastD_concat]
    obtain ⟨hleads, hdirectory⟩ := h
    rw [hsegments, List.dropLast_concat] at hleads hdirectory
    have hfollow : tree.locate p = tree.follow (FilePath.place ⟨p.anchor, segments⟩) [name] := by
      simp only [FileTree.locate, hsegments, hleads.follow_append]
      rw [if_neg (by simpa using hnull), if_neg hlong]
      rfl
    by_cases hshort : name.utf8ByteSize ≤ maxNameBytes
    · refine Or.inl ⟨⟨hadmissible, hname.symm ▸ hshort⟩, ?_⟩
      refine locate_eq_ok_iff.2 ⟨hadmissible, ?_, rfl⟩
      rw [hsegments]
      exact leads_append_iff.2 ⟨hleads, .cons hdirectory hshort .nil⟩
    · refine Or.inr ⟨fun hfits => hshort (hname ▸ hfits.2), .nameTooLong, ?_, FileFault.noConfusion⟩
      rw [hfollow, follow, hdirectory]
      exact if_pos (Nat.not_le.1 hshort)

/-- Behind directories that stand, a file can be put at a path that is not barred. -/
theorem LeadsUpTo.takes_iff (h : tree.LeadsUpTo p) : tree.Takes p ↔ ¬ tree.Bars p := by
  rcases h.locate with ⟨hfits, hlocate⟩ | ⟨hnot, fault, hlocate, -⟩
  · constructor
    · rintro htakes (hnot | hentry)
      · exact hnot hfits
      · exact htakes.free (entryAt?_eq_some_iff.1 hentry).2
    · intro hfree
      refine ⟨hlocate, fun hdirectory => hfree (Or.inr ?_)⟩
      exact entryAt?_eq_some_iff.2 ⟨hlocate, hdirectory⟩
  · refine iff_of_false (fun htakes => ?_) (not_not_intro (Or.inl hnot))
    cases hlocate.symm.trans htakes.located

end FileTree

namespace FileAction

open FileTree (AddsDirectories LeadsUpTo)

variable {p : FilePath} {tree tree' : FileTree} {content : Content} {e : FileError}

/-! ## Directories that are there afterwards -/

theorem runFrom_isDirectory_ok (h : runFrom (isDirectory p) tree = (.ok true, tree')) :
    tree' = tree ∧ tree.entryAt? p = some .directory := by
  rcases isDirectory_cases p tree with ⟨⟨e, hrun⟩, -⟩ | hrun
  · cases hrun.symm.trans h
  · obtain ⟨hdirectory, rfl⟩ := Prod.mk.inj (hrun.symm.trans h)
    exact ⟨rfl, beq_iff_eq.1 (Except.ok.inj hdirectory)⟩

/-- A directory that was created, or was there, stands. -/
theorem ensureDirectory_ok (h : runFrom (ensureDirectory p) tree = (.ok (), tree')) :
    tree'.entryAt? p = some .directory := by
  rw [ensureDirectory, runFrom_tryCatch] at h
  rcases makeDirectory_cases p tree with ⟨e, hrun⟩ | ⟨hlocate, hnone, hrun⟩
  · rw [hrun] at h
    simp only at h
    split at h
    · cases h
    · rw [runFrom_bind] at h
      rcases hisDirectory : runFrom (isDirectory p) tree with ⟨e' | isDirectory, tree''⟩
      · rw [hisDirectory] at h
        cases h
      · rw [hisDirectory] at h
        cases isDirectory with
        | false => cases h
        | true =>
            obtain ⟨rfl, hdirectory⟩ := runFrom_isDirectory_ok hisDirectory
            obtain ⟨-, rfl⟩ := Prod.mk.inj h
            exact hdirectory
  · rw [hrun] at h
    obtain ⟨-, rfl⟩ := Prod.mk.inj h
    have hfree : tree.lookup? p.place ≠ some .directory := by
      rw [hnone]
      exact (Option.some_ne_none _).symm
    refine FileTree.entryAt?_eq_some_iff.2 ⟨?_, ?_⟩
    · exact FileTree.locate_mono hlocate (FileTree.confined_insert hfree _).directory
    · rw [FileTree.lookup?_insert (FileTree.not_isGiven_of_lookup? hfree), if_pos rfl]

/-- Creating a directory with those above it ends with the directory itself. -/
theorem ensureDirectories_ok (h : runFrom (ensureDirectories p) tree = (.ok (), tree')) :
    tree'.entryAt? p = some .directory := by
  obtain ⟨anchor, segments⟩ := p
  rw [ensureDirectories] at h
  cases hreverse : segments.reverse with
  | nil =>
      rw [hreverse, ensureDirectoriesTo] at h
      rw [List.reverse_eq_nil_iff.1 hreverse]
      exact ensureDirectory_ok h
  | cons segment up =>
      have hsegments : (segment :: up).reverse = segments := by
        rw [← hreverse, List.reverse_reverse]
      rw [hreverse, ensureDirectoriesTo, hsegments] at h
      simp only [runFrom_tryCatch] at h
      rcases hfirst : runFrom (ensureDirectory ⟨anchor, segments⟩) tree with ⟨e | ⟨⟩, tree''⟩
      · rw [hfirst] at h
        simp only at h
        split at h
        · obtain ⟨-, _, -, hlast⟩ := runFrom_bind_eq_ok_iff.1 h
          exact ensureDirectory_ok hlast
        · cases h
      · rw [hfirst] at h
        obtain ⟨-, rfl⟩ := Prod.mk.inj h
        exact ensureDirectory_ok hfirst

/-- A directory that stands is not created. -/
theorem ensureDirectory_of_entryAt? (h : tree.entryAt? p = some .directory) :
    runFrom (ensureDirectory p) tree = (.ok (), tree) := by
  obtain ⟨hlocate, hlookup⟩ := FileTree.entryAt?_eq_some_iff.1 h
  have hmake : runFrom (makeDirectory p) tree = (.error ⟨.alreadyExists, p.text⟩, tree) := by
    rw [makeDirectory, runFrom_bind, runFrom_locate, hlocate]
    simp only [runFrom_bind, runFrom_get, hlookup]
    rfl
  have hstands : runFrom (isDirectory p) tree = (.ok true, tree) := by
    simp only [isDirectory, runFrom_bind, runFrom_get, hlocate, runFrom_pure,
      FileTree.isDirectory, hlookup]
    rfl
  rw [ensureDirectory, runFrom_tryCatch, hmake]
  simp only
  rw [if_neg (by simp), runFrom_bind, hstands]
  rfl

/-- Where the directory stands, nothing is created. -/
theorem ensureDirectories_of_entryAt? (h : tree.entryAt? p = some .directory) :
    runFrom (ensureDirectories p) tree = (.ok (), tree) := by
  have hensure := ensureDirectory_of_entryAt? h
  obtain ⟨anchor, segments⟩ := p
  rw [ensureDirectories]
  cases hreverse : segments.reverse with
  | nil =>
      rw [List.reverse_eq_nil_iff.1 hreverse] at hensure
      exact hensure
  | cons segment up =>
      have hsegments : (segment :: up).reverse = segments := by
        rw [← hreverse, List.reverse_reverse]
      rw [ensureDirectoriesTo, hsegments]
      simp only [runFrom_tryCatch, hensure]

/-! ## Files that are put in place -/

/-- Behind directories that stand, a file is written unless its place is barred; then it cannot be
removed either. -/
theorem write_of_leadsUpTo (h : tree.LeadsUpTo p) (content : Content) :
    tree.Bars p ∧ (∃ e, runFrom (write p content) tree = (.error e, tree)) ∧
        (∃ e, runFrom (remove p) tree = (.error e, tree)) ∨
      ¬ tree.Bars p ∧ runFrom (write p content) tree =
        (.ok (), tree.insert p.place (.file content)) := by
  rcases write_cases p content tree with ⟨hfails, hnot⟩ | ⟨htakes, hrun⟩
  · refine Or.inl ⟨not_not.1 (mt h.takes_iff.2 hnot), hfails, ?_⟩
    rw [remove, runFrom_bind, runFrom_get]
    rcases h.locate with ⟨-, hlocate⟩ | ⟨-, fault, hlocate, hfound⟩
    · have hdirectory : tree.lookup? p.place = some .directory :=
        not_not.1 fun hfree => hnot ⟨hlocate, hfree⟩
      refine ⟨⟨.isDirectory, p.text⟩, ?_⟩
      simp only [hlocate, runFrom_bind, runFrom_get, hdirectory]
      rfl
    · refine ⟨⟨fault, p.text⟩, ?_⟩
      cases fault with
      | notFound => exact absurd rfl hfound
      | _ => simp only [hlocate]; rfl
  · exact Or.inr ⟨h.takes_iff.1 htakes, hrun⟩

end FileAction

end Skeletal
