import Skeletal.Proofs.Output.Implement

/-!
# Packing

An archive is opened in the place of what its path held, and filled with the compiled class. One
that is filled holds its description and the class (`pack_ok_iff`). One that cannot be filled for
want of a file is removed again (`entryAt?_of_pack_error`), but one that cannot hold the date of the
class stays, with its description alone (`pack_misdated_iff`).
-/

set_option autoImplicit false

namespace Skeletal

/-- Member of an archive for what is put in under a name. -/
def Entry.member (name : String) : Entry → String × Content
  | .directory => (name ++ "/", .text "")
  | .file content => (name, content)

/-! ## Dates -/

theorem dateFault?_eq_none_iff {year : Nat} : dateFault? year = none ↔ 1980 ≤ year ∧ year ≤ 2107 := by
  rw [dateFault?, firstArchiveYear, lastArchiveYear]
  split_ifs
  · simp only [false_iff]
    omega
  · simp only [false_iff]
    omega
  · simp only [true_iff]
    omega

theorem dateFault?_ne_none_iff {year : Nat} :
    dateFault? year ≠ none ↔ year < 1980 ∨ 2107 < year := by
  rw [Ne, dateFault?_eq_none_iff]
  omega

theorem dateFault?_eq_early_iff {year : Nat} : dateFault? year = some .early ↔ year < 1980 := by
  rw [dateFault?, firstArchiveYear]
  split_ifs with hearly
  · simp only [hearly]
  · simp [hearly]
  · simp [hearly]

theorem dateFault?_eq_late_iff {year : Nat} : dateFault? year = some .late ↔ 2107 < year := by
  rw [dateFault?, firstArchiveYear, lastArchiveYear]
  split_ifs with hearly hlate
  · simp only [Option.some.injEq, reduceCtorEq, false_iff]
    omega
  · simp only [hlate]
  · simp [hlate]

namespace Implementing

open FileTree (Confined isGiven)

/-! ## Packing -/

/-- The tree with an archive of which only the description is written. -/
def opened (archive : FilePath) (tree : FileTree) : FileTree :=
  tree.insert archive.place (.file (.archive [(manifestEntry, .text manifestText)]))

/-- Outcomes of packing: the archive is not opened, or it is opened and then the class is missing,
its date is at fault, or it is packed. -/
inductive Packing (archive compiled : FilePath) (entry : String) (year : Nat) (tree : FileTree) :
    Except FileError (Option DateFault) × FileTree → Prop
  | closed {e : FileError} (barred : ¬ tree.Takes archive) :
      Packing archive compiled entry year tree (.error e, tree)
  | missing {e : FileError} (takes : tree.Takes archive)
      (absent : (opened archive tree).entryAt? compiled = none) :
      Packing archive compiled entry year tree (.error e, opened archive tree)
  | misdated {fault : DateFault} {found : Entry} (takes : tree.Takes archive)
      (stands : (opened archive tree).entryAt? compiled = some found)
      (date : dateFault? year = some fault) :
      Packing archive compiled entry year tree (.ok (some fault), opened archive tree)
  | packed {found : Entry} (takes : tree.Takes archive)
      (stands : (opened archive tree).entryAt? compiled = some found)
      (date : dateFault? year = none) :
      Packing archive compiled entry year tree (.ok none, (opened archive tree).insert archive.place
        (.file (.archive [(manifestEntry, .text manifestText), found.member (memberName entry)])))

variable {archive compiled root : FilePath} {entry name : String} {year : Nat} {tree : FileTree}
  {s : Settings} {d : Descriptor} {w w' : Workshop} {e : ImplementError} {fault : DateFault}

/-- Opening an archive leaves what stands at another place. -/
theorem entryAt?_opened (h : tree.Takes archive) (hne : compiled.place ≠ archive.place) :
    (opened archive tree).entryAt? compiled = tree.entryAt? compiled := by
  have hconfined : Confined (· = archive.place) tree (opened archive tree) :=
    h.confined_insert _
  -- the archive is no directory, so it opens no way either
  have hback : ∀ l, (opened archive tree).lookup? l = some .directory →
      tree.lookup? l = some .directory := by
    intro l hl
    rw [opened, FileTree.lookup?_insert (FileTree.not_isGiven_of_lookup? h.free)] at hl
    split_ifs at hl
    · cases hl
    · exact hl
  ext found
  rw [FileTree.entryAt?_eq_some_iff, FileTree.entryAt?_eq_some_iff, hconfined.outside _ hne]
  exact and_congr_left' ⟨fun hlocate => FileTree.locate_mono hlocate hback,
    fun hlocate => FileTree.locate_mono hlocate hconfined.directory⟩

/-- A member is made of what stands at a path, and fails where nothing does. -/
theorem memberAt_cases (p : FilePath) (name : String) (tree : FileTree) :
    (∃ e, runFrom (memberAt p name) tree = (.error e, tree)) ∧ tree.entryAt? p = none ∨
      ∃ found : Entry, tree.entryAt? p = some found ∧
        runFrom (memberAt p name) tree = (.ok (found.member name), tree) := by
  rw [memberAt, runFrom_bind]
  rcases FileAction.isDirectory_cases p tree with ⟨⟨e, hfails⟩, hnone⟩ | hdirectory
  · rw [hfails]
    exact Or.inl ⟨⟨e, rfl⟩, hnone⟩
  · rw [hdirectory]
    cases hentry : tree.entryAt? p with
    | some found =>
        cases found with
        | directory => exact Or.inr ⟨_, rfl, rfl⟩
        | file content =>
            refine Or.inr ⟨_, rfl, ?_⟩
            rcases FileAction.read_cases p tree with ⟨-, hnot⟩ | ⟨content', hfile, hread⟩
            · exact absurd hentry (hnot content)
            · obtain rfl := Entry.file.inj (Option.some.inj (hentry.symm.trans hfile))
              change runFrom (FileAction.read p >>= fun content => pure (name, content)) tree = _
              rw [runFrom_bind, hread]
              rfl
    | none =>
        refine Or.inl ⟨?_, rfl⟩
        rcases FileAction.read_cases p tree with ⟨⟨e, hread⟩, -⟩ | ⟨content, hfile, -⟩
        · refine ⟨e, ?_⟩
          change runFrom (FileAction.read p >>= fun content => pure (name, content)) tree = _
          rw [runFrom_bind, hread]
        · cases hentry.symm.trans hfile

theorem packing (archive compiled : FilePath) (entry : String) (year : Nat) (tree : FileTree) :
    Packing archive compiled entry year tree
      (runFrom (packInto archive compiled entry year) tree) := by
  rw [packInto, runFrom_bind]
  rcases FileAction.write_cases archive (.archive [(manifestEntry, .text manifestText)]) tree with
    ⟨⟨e, hrun⟩, hbarred⟩ | ⟨htakes, hrun⟩
  · rw [hrun]
    exact .closed hbarred
  · rw [hrun]
    change Packing archive compiled entry year tree
      (runFrom (memberAt compiled (memberName entry) >>= _) (opened archive tree))
    rw [runFrom_bind]
    rcases memberAt_cases compiled (memberName entry) (opened archive tree) with
      ⟨⟨e, hmember⟩, habsent⟩ | ⟨found, hstands, hmember⟩
    · rw [hmember]
      exact .missing htakes habsent
    · rw [hmember]
      cases hdate : dateFault? year with
      | some fault => exact .misdated htakes hstands hdate
      | none =>
          -- the archive was opened, so it can be written once more
          have hagain : (opened archive tree).Takes archive :=
            FileTree.takes_of_entryAt? (htakes.entryAt?_insert _)
          simp only [runFrom_bind, FileAction.write_of_takes hagain]
          exact .packed htakes hstands hdate

theorem moves_packInto (archive compiled : FilePath) (entry : String) (year : Nat) :
    Moves (Confined (· = archive.place)) (packInto archive compiled entry year) := by
  have hmember : Moves (Confined (· = archive.place)) (memberAt compiled (memberName entry)) := by
    refine (FileAction.moves_isDirectory _ compiled).bind fun isDirectory => ?_
    cases isDirectory with
    | true => exact moves_pure _
    | false => exact (FileAction.moves_read _ compiled).bind fun content => moves_pure _
  refine (FileAction.moves_write archive _).bind fun _ => hmember.bind fun member => ?_
  cases dateFault? year with
  | some fault => exact moves_pure _
  | none => exact (FileAction.moves_write archive _).bind fun _ => moves_pure _

/-! ## Archives that are packed or given up -/

theorem runFrom_pack (archive compiled : FilePath) (entry : String) (year : Nat) (w : Workshop) :
    runFrom (pack archive compiled entry year) w =
      match runFrom (packInto archive compiled entry year) w.tree with
      | (.ok none, tree) => (.ok (), { w with tree })
      | (.ok (some fault), tree) => (.error (.misdated fault), { w with tree })
      | (.error e, tree) =>
        match runFrom (FileAction.remove archive) tree with
        | (.ok (), tree) => (.error (.placement (.noArchive archive.text e)), { w with tree })
        | (.error e, tree) => (.error (.cleanUp e), { w with tree }) := by
  rw [pack, runFrom_bind, runFrom_writeOrCleanUp]
  rcases runFrom (packInto archive compiled entry year) w.tree with ⟨e | fault, tree⟩
  · simp only
    rcases runFrom (FileAction.remove archive) tree with ⟨e' | ⟨⟩, tree'⟩
    · rfl
    · rfl
  · cases fault with
    | none => rfl
    | some fault => rfl

/-- The class is packed from where it is compiled to, with the date that the compiler gave it. -/
theorem runFrom_writeArchive (s : Settings) (d : Descriptor) (root archive : FilePath)
    (w : Workshop) :
    runFrom (writeArchive s d root archive) w =
      runFrom (pack archive (s.compiledPath root d) (s.classEntry d)
        (w.classYear (s.outputPath root d s.generatedExtension))) w := by
  rw [writeArchive, runFrom_bind, runFrom_get]

theorem moves_writeArchive (s : Settings) (d : Descriptor) (root archive : FilePath) :
    Moves (OnTree (Confined (· = archive.place))) (writeArchive s d root archive) := by
  intro w
  rw [runFrom_writeArchive]
  refine Moves.bind (moves_writeOrCleanUp (moves_packInto archive _ _ _)) (fun fault => ?_) w
  cases fault with
  | some fault => exact moves_throw _
  | none => exact moves_pure ()

/-- Packing fails for files or for a date. -/
theorem failsWith_writeArchive (s : Settings) (d : Descriptor) (root archive : FilePath) :
    FailsWith (fun e => OfFiles e ∨ ∃ fault, e = .misdated fault)
      (writeArchive s d root archive) := by
  intro w e w' h
  rw [runFrom_writeArchive] at h
  have hpack : FailsWith (fun e => OfFiles e ∨ ∃ fault, e = .misdated fault)
      (pack archive (s.compiledPath root d) (s.classEntry d)
        (w.classYear (s.outputPath root d s.generatedExtension))) := by
    refine ((failsWith_writeOrCleanUp _ _ _).imp fun _ => Or.inl).bind fun fault => ?_
    cases fault with
    | some fault => exact failsWith_throw (Or.inr ⟨fault, rfl⟩)
    | none => exact failsWith_pure ()
  exact hpack w e w' h

theorem entryAt?_erase (h : isGiven archive.place = false) :
    (tree.erase archive.place).entryAt? archive = none := by
  refine FileTree.entryAt?_eq_none_of_lookup? ?_
  rw [FileTree.lookup?_erase h, if_pos rfl]

/-- Where packing fails for files, nothing stands at the path of the archive, directories apart. -/
theorem entryAt?_of_pack_error
    (h : runFrom (pack archive compiled entry year) w = (.error e, w'))
    (hdated : ∀ fault, e ≠ .misdated fault)
    (hfree : w.tree.entryAt? archive ≠ some .directory) : w'.tree.entryAt? archive = none := by
  rw [runFrom_pack] at h
  have hpacking := packing archive compiled entry year w.tree
  generalize runFrom (packInto archive compiled entry year) w.tree = outcome at h hpacking
  cases hpacking with
  | closed barred =>
      have hnone : w.tree.entryAt? archive = none := by
        cases hentry : w.tree.entryAt? archive with
        | none => rfl
        | some found =>
            cases found with
            | directory => exact absurd hentry hfree
            | file content => exact absurd (FileTree.takes_of_entryAt? hentry) barred
      rcases FileAction.remove_cases archive w.tree with ⟨⟨result, hrun⟩, -⟩ | ⟨⟨content, hfile⟩, -⟩
      · simp only [hrun] at h
        cases result with
        | error e => rwa [← (Prod.mk.inj h).2]
        | ok a => rwa [← (Prod.mk.inj h).2]
      · rw [hnone] at hfile
        cases hfile
  | missing takes absent =>
      rcases FileAction.remove_cases archive (opened archive w.tree) with ⟨-, hnofile⟩ | ⟨-, hrun⟩
      · exact absurd (takes.entryAt?_insert _) (hnofile _)
      · simp only [hrun] at h
        rw [← (Prod.mk.inj h).2]
        exact entryAt?_erase (FileTree.not_isGiven_of_lookup? takes.free)
  | misdated takes stands date =>
      obtain rfl := Except.error.inj (Prod.mk.inj h).1
      exact absurd rfl (hdated _)
  | packed => cases h

/-- Packing succeeds where an archive is opened for a class that stands, with a date that it can
hold. Then it is filled with its description and the class. -/
theorem pack_ok_iff :
    runFrom (pack archive compiled entry year) w = (.ok (), w') ↔
      w.tree.Takes archive ∧ ∃ found, (opened archive w.tree).entryAt? compiled = some found ∧
        dateFault? year = none ∧ w' = { w with
          tree := (opened archive w.tree).insert archive.place (.file (.archive
            [(manifestEntry, .text manifestText), found.member (memberName entry)])) } := by
  rw [runFrom_pack]
  have hpacking := packing archive compiled entry year w.tree
  generalize runFrom (packInto archive compiled entry year) w.tree = outcome at hpacking ⊢
  cases hpacking with
  | closed barred =>
      refine iff_of_false (fun h => ?_) fun h => barred h.1
      rcases hremove : runFrom (FileAction.remove archive) w.tree with ⟨e | ⟨⟩, tree⟩
      all_goals simp [hremove] at h
  | missing takes absent =>
      refine iff_of_false (fun h => ?_) (by simp [absent])
      rcases hremove : runFrom (FileAction.remove archive) (opened archive w.tree) with
        ⟨e | ⟨⟩, tree⟩
      all_goals simp [hremove] at h
  | misdated takes stands date =>
      simp [date]
  | packed takes stands date =>
      simp [takes, stands, date, eq_comm]

/-- A date is at fault where an archive is opened for a class that stands, with a date that it
cannot hold. Then it stays with its description. -/
theorem pack_misdated_iff :
    runFrom (pack archive compiled entry year) w = (.error (.misdated fault), w') ↔
      w.tree.Takes archive ∧ (opened archive w.tree).entryAt? compiled ≠ none ∧
        dateFault? year = some fault ∧ w' = { w with tree := opened archive w.tree } := by
  rw [runFrom_pack]
  have hpacking := packing archive compiled entry year w.tree
  generalize runFrom (packInto archive compiled entry year) w.tree = outcome at hpacking ⊢
  cases hpacking with
  | closed barred =>
      refine iff_of_false (fun h => ?_) fun h => barred h.1
      rcases hremove : runFrom (FileAction.remove archive) w.tree with ⟨e | ⟨⟩, tree⟩
      all_goals simp [hremove] at h
  | missing takes absent =>
      refine iff_of_false (fun h => ?_) fun h => h.2.1 absent
      rcases hremove : runFrom (FileAction.remove archive) (opened archive w.tree) with
        ⟨e | ⟨⟩, tree⟩
      all_goals simp [hremove] at h
  | misdated takes stands date =>
      simp [takes, stands, date, eq_comm]
  | packed takes stands date =>
      simp [date]

end Implementing

end Skeletal
