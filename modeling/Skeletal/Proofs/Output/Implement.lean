import Skeletal.Output.Implement
import Skeletal.Proofs.FileTree.Change
import Skeletal.Proofs.Output.Place

/-!
# What implementing changes

The steps of the flows, each with what it does to the files. The source flow puts one file in place
and adds directories on its way (`moves_implement`), and a compilation writes the class beside the
source (`moves_compile`). Below a root that stands, both stay below it (`moves_compileBelow`), and
where no class stood, the one that stands after them is what the compiler wrote (`compileBelow_ok`).
-/

set_option autoImplicit false

namespace Skeletal

/-- The class of a type that stands below a root is the one that the compiler writes beside the
source, and there is none if it writes none. -/
def Compiler.Wrote (c : Compiler) (s : Settings) (d : Descriptor) (root : FilePath)
    (tree : FileTree) : Prop :=
  tree.entryAt? (s.outputPath root d classExtension) =
    (c.classFile (s.outputPath root d s.generatedExtension)).map fun file => .file file.content

namespace Implementing

open FileTree (AddsDirectories Confined PlacesFile StaysBelow)

/-- The files are changed as the relation says, and the compiler stays. -/
structure OnTree (R : FileTree → FileTree → Prop) (w w' : Workshop) : Prop where
  tree : R w.tree w'.tree
  compiler : w'.compiler = w.compiler

variable {R S : FileTree → FileTree → Prop} {α : Type} {w w' : Workshop} {e : ImplementError}
  {s : Settings} {u : Universe} {t : TypeId} {p source output root : FilePath}
  {roots : List String}

instance [IsPreorder FileTree R] : IsPreorder Workshop (OnTree R) where
  refl w := ⟨refl w.tree, rfl⟩
  trans _ _ _ h h' := ⟨IsTrans.trans _ _ _ h.tree h'.tree, h'.compiler.trans h.compiler⟩

theorem OnTree.imp (h : OnTree R w w') (hRS : ∀ tree tree', R tree tree' → S tree tree') :
    OnTree S w w' :=
  ⟨hRS _ _ h.tree, h.compiler⟩

/-! ## Steps -/

theorem runFrom_onFiles (report : FileError → ImplementError) (action : FileAction α)
    (w : Workshop) :
    runFrom (onFiles report action) w =
      match runFrom action w.tree with
      | (.ok a, tree) => (.ok a, { w with tree })
      | (.error e, tree) => (.error (report e), { w with tree }) := by
  rw [onFiles, runFrom_bind, runFrom_get]
  rcases hrun : runFrom action w.tree with ⟨e | a, tree⟩
  · rw [runFrom] at hrun
    simp only [hrun]
    rfl
  · rw [runFrom] at hrun
    simp only [hrun]
    rfl

theorem moves_onFiles {report : FileError → ImplementError} {action : FileAction α}
    (h : Moves R action) : Moves (OnTree R) (onFiles report action) := by
  intro w
  rw [runFrom_onFiles]
  rcases hrun : runFrom action w.tree with ⟨e | a, tree⟩
  · exact ⟨h.of_run hrun, rfl⟩
  · exact ⟨h.of_run hrun, rfl⟩

theorem runFrom_ofSynthesis (result : Except SynthesisError α) (w : Workshop) :
    runFrom (ofSynthesis result) w =
      match result with
      | .ok a => (.ok a, w)
      | .error e => (.error (.synthesis e), w) := by
  cases result with
  | ok a => rfl
  | error e => rfl

theorem moves_ofSynthesis {R : Workshop → Workshop → Prop} [IsPreorder Workshop R]
    (result : Except SynthesisError α) : Moves R (ofSynthesis result) := by
  intro w
  rw [runFrom_ofSynthesis]
  cases result with
  | ok a => exact refl w
  | error e => exact refl w

theorem runFrom_writeOrCleanUp (report : FileError → PlacementError) (p : FilePath)
    (write : FileAction α) (w : Workshop) :
    runFrom (writeOrCleanUp report p write) w =
      match runFrom write w.tree with
      | (.ok a, tree) => (.ok a, { w with tree })
      | (.error e, tree) =>
        match runFrom (FileAction.remove p) tree with
        | (.ok (), tree) => (.error (.placement (report e)), { w with tree })
        | (.error e, tree) => (.error (.cleanUp e), { w with tree }) := by
  rw [writeOrCleanUp, runFrom_tryCatch, runFrom_onFiles]
  rcases runFrom write w.tree with ⟨e | a, tree⟩
  · simp only [runFrom_bind, runFrom_onFiles]
    rcases runFrom (FileAction.remove p) tree with ⟨e' | ⟨⟩, tree'⟩
    · rfl
    · rfl
  · rfl

/-- What is written without a failure is not cleaned up. -/
theorem writeOrCleanUp_ok {report : FileError → PlacementError} {write : FileAction α} {a : α}
    (h : runFrom (writeOrCleanUp report p write) w = (.ok a, w')) :
    runFrom write w.tree = (.ok a, w'.tree) := by
  rw [runFrom_writeOrCleanUp] at h
  rcases hwrite : runFrom write w.tree with ⟨e | b, tree⟩
  · rw [hwrite] at h
    rcases hremove : runFrom (FileAction.remove p) tree with ⟨e' | ⟨⟩, tree'⟩
    · simp [hremove] at h
    · simp [hremove] at h
  · rw [hwrite] at h
    obtain ⟨hb, rfl⟩ := Prod.mk.inj h
    rw [Except.ok.inj hb]

/-- A file that is cleaned up stands at the same place as one that is written. -/
theorem moves_writeOrCleanUp {report : FileError → PlacementError} {write : FileAction α}
    (h : Moves (Confined (· = p.place)) write) :
    Moves (OnTree (Confined (· = p.place))) (writeOrCleanUp report p write) := by
  refine (moves_onFiles h).tryCatch fun e => ?_
  exact (moves_onFiles (FileAction.moves_remove p)).bind fun _ => moves_throw e

/-! ## The source flow -/

theorem moves_writeSource (p : FilePath) (text : String) :
    Moves (OnTree (PlacesFile p.parent p.place)) (writeSource p text) := by
  refine Moves.bind ?_ fun _ => ?_
  · refine moves_onFiles ((FileAction.moves_ensureDirectories p.parent).imp ?_)
    exact fun _ _ h => h.placesFile _
  · refine (moves_writeOrCleanUp (FileAction.moves_write p _)).imp ?_
    exact fun _ _ h => h.imp fun _ _ h => h.placesFile _

/-- The source flow puts the source in place, and adds directories on its way. -/
theorem moves_implement (s : Settings) (u : Universe) (t : TypeId) (root : FilePath) :
    Moves (OnTree (PlacesFile (s.outputPath root (u.get t) s.generatedExtension).parent
      (s.outputPath root (u.get t) s.generatedExtension).place)) (implement s u t (some root)) := by
  refine (moves_ofSynthesis _).bind fun _ => (moves_ofSynthesis _).bind fun source => ?_
  exact (moves_writeSource _ source).bind fun _ => moves_pure _

theorem eq_outputPath_of_implement
    (h : runFrom (implement s u t (some root)) w = (.ok p, w')) :
    p = s.outputPath root (u.get t) s.generatedExtension := by
  rw [implement, runFrom_bind_eq_ok_iff] at h
  obtain ⟨-, w₁, -, h⟩ := h
  obtain ⟨source, w₂, -, h⟩ := runFrom_bind_eq_ok_iff.1 h
  obtain ⟨-, w₃, -, h⟩ := runFrom_bind_eq_ok_iff.1 h
  exact (Except.ok.inj (Prod.mk.inj h).1).symm

/-! ## Compiling -/

theorem moves_writeClass (s : Settings) (c : Compiler) (source : FilePath) :
    Moves (OnTree (Confined (· = (besideSource s.generatedExtension source).place)))
      (writeClass s c source) := by
  rw [writeClass]
  cases c.classFile source with
  | none => exact moves_pure ()
  | some file => exact moves_onFiles (FileAction.moves_write _ _)

theorem moves_compile (s : Settings) (source output : FilePath) (roots : List String) :
    Moves (OnTree (Confined (· = (besideSource s.generatedExtension source).place)))
      (compile s source output roots) := by
  have hget : Moves (OnTree (Confined (· = (besideSource s.generatedExtension source).place)))
      (getThe Workshop : Implementing Workshop) := fun w => refl w
  refine hget.bind fun w => ?_
  cases w.compiler with
  | none => exact moves_throw _
  | some c =>
      refine Moves.bind (fun w => ⟨refl w.tree, rfl⟩) fun _ => ?_
      refine (moves_writeClass s c source).bind fun _ => ?_
      cases c.run.error? s.compileTimeout with
      | none => exact moves_pure ()
      | some e => exact moves_throw _

/-- A class that is written stands beside its source. -/
theorem writeClass_ok {c : Compiler} (h : runFrom (writeClass s c source) w = (.ok (), w')) :
    match c.classFile source with
    | none => w'.tree = w.tree
    | some file => w'.tree.entryAt? (besideSource s.generatedExtension source) =
        some (.file file.content) := by
  rw [writeClass] at h
  cases hfile : c.classFile source with
  | none =>
      rw [hfile] at h
      exact congrArg Workshop.tree (Prod.mk.inj h).2.symm
  | some file =>
      simp only [hfile] at h ⊢
      rw [runFrom_onFiles] at h
      rcases FileAction.write_cases (besideSource s.generatedExtension source) file.content
          w.tree with ⟨⟨e, hrun⟩, -⟩ | ⟨htakes, hrun⟩
      · rw [hrun] at h
        cases h
      · rw [hrun] at h
        rw [← (Prod.mk.inj h).2]
        exact htakes.entryAt?_insert _

/-- The class that a compilation leaves is the one that the compiler writes, if it writes one. -/
theorem compile_ok (h : runFrom (compile s source output roots) w = (.ok (), w')) :
    ∃ c, w.compiler = some c ∧
      match c.classFile source with
      | none => w'.tree = w.tree
      | some file => w'.tree.entryAt? (besideSource s.generatedExtension source) =
          some (.file file.content) := by
  obtain ⟨w₁, w₂, hget, h⟩ := runFrom_bind_eq_ok_iff.1 h
  obtain ⟨hw₁, rfl⟩ := Prod.mk.inj hget
  obtain rfl := Except.ok.inj hw₁
  cases hcompiler : w.compiler with
  | none =>
      rw [hcompiler] at h
      cases h
  | some c =>
      refine ⟨c, rfl, ?_⟩
      rw [hcompiler] at h
      obtain ⟨⟨⟩, w₃, hcommands, h⟩ := runFrom_bind_eq_ok_iff.1 h
      obtain ⟨-, rfl⟩ := Prod.mk.inj hcommands
      obtain ⟨⟨⟩, w₄, hwrite, h⟩ := runFrom_bind_eq_ok_iff.1 h
      have hclass := writeClass_ok hwrite
      cases herror : c.run.error? s.compileTimeout with
      | some e =>
          rw [herror] at h
          cases h
      | none =>
          rw [herror] at h
          rwa [← (Prod.mk.inj h).2]

/-! ## How steps fail -/

/-- The failure is one of files that are put in place or cleaned up. -/
inductive OfFiles : ImplementError → Prop
  | placement (cause : PlacementError) : OfFiles (.placement cause)
  | cleanUp (cause : FileError) : OfFiles (.cleanUp cause)

theorem OfFiles.ne_misdated (h : OfFiles e) (fault : DateFault) : e ≠ .misdated fault := by
  rintro rfl
  cases h

/-- The failure is one of the compiler. -/
inductive OfCompiler : ImplementError → Prop
  | compilation (cause : CompilationError) : OfCompiler (.compilation cause)

theorem failsWith_onFiles {P : ImplementError → Prop} {report : FileError → ImplementError}
    (h : ∀ e, P (report e)) (action : FileAction α) : FailsWith P (onFiles report action) := by
  intro w e w' hrun
  rw [runFrom_onFiles] at hrun
  rcases haction : runFrom action w.tree with ⟨fault | a, tree⟩
  · rw [haction] at hrun
    obtain rfl := Except.error.inj (Prod.mk.inj hrun).1
    exact h fault
  · rw [haction] at hrun
    cases (Prod.mk.inj hrun).1

theorem failsWith_get {P : ImplementError → Prop} :
    FailsWith P (getThe Workshop : Implementing Workshop) :=
  fun _ _ _ h => nomatch (Prod.mk.inj h).1

/-- The failure of cleaning up is reported, or that of writing. -/
theorem failsWith_writeOrCleanUp (report : FileError → PlacementError) (p : FilePath)
    (write : FileAction α) : FailsWith OfFiles (writeOrCleanUp report p write) := by
  refine FailsWith.tryCatch (Q := OfFiles) ?_ fun e he => ?_
  · exact failsWith_onFiles (fun e => .placement (report e)) write
  · exact (failsWith_onFiles .cleanUp _).bind fun _ => failsWith_throw he

theorem failsWith_writeSource (p : FilePath) (text : String) :
    FailsWith OfFiles (writeSource p text) :=
  (failsWith_onFiles (fun _ => .placement _) _).bind fun _ => failsWith_writeOrCleanUp _ p _

/-- The source flow fails in synthesis or for files. -/
theorem failsWith_implement (s : Settings) (u : Universe) (t : TypeId) (root : Option FilePath) :
    FailsWith (fun e => (∃ rejection, e = .synthesis rejection) ∨ OfFiles e)
      (implement s u t root) := by
  have hsynthesis : ∀ {β : Type} (result : Except SynthesisError β),
      FailsWith (fun e => (∃ rejection, e = .synthesis rejection) ∨ OfFiles e)
        (ofSynthesis result) := by
    intro β result
    cases result with
    | ok b => exact failsWith_pure b
    | error rejection => exact failsWith_throw (Or.inl ⟨rejection, rfl⟩)
  refine (hsynthesis _).bind fun _ => (hsynthesis _).bind fun text => ?_
  cases root with
  | none => exact failsWith_throw (Or.inr (.placement _))
  | some root =>
      refine FailsWith.bind ?_ fun _ => failsWith_pure _
      exact (failsWith_writeSource _ text).imp fun _ => Or.inr

theorem failsWith_compile (s : Settings) (source output : FilePath) (roots : List String) :
    FailsWith OfCompiler (compile s source output roots) := by
  refine failsWith_get.bind fun w => ?_
  cases w.compiler with
  | none => exact failsWith_throw (.compilation _)
  | some c =>
      refine FailsWith.bind (fun _ _ _ h => nomatch (Prod.mk.inj h).1) fun _ => ?_
      refine FailsWith.bind ?_ fun _ => ?_
      · rw [writeClass]
        cases c.classFile source with
        | none => exact failsWith_pure ()
        | some file => exact failsWith_onFiles (fun _ => .compilation _) _
      · cases c.run.error? s.compileTimeout with
        | none => exact failsWith_pure ()
        | some cause => exact failsWith_throw (.compilation cause)

/-- No date is at fault before a class is packed. -/
theorem misdated_ne_of_compileBelow
    (h : runFrom (compileBelow s u t root) w = (.error e, w')) (fault : DateFault) :
    e ≠ .misdated fault := by
  have hfails : FailsWith (fun e => ∀ fault, e ≠ ImplementError.misdated fault)
      (compileBelow s u t root) := by
    refine ((failsWith_implement s u t (some root)).imp ?_).bind fun source => ?_
    · rintro e (⟨rejection, rfl⟩ | ⟨⟨⟩⟩) fault h
      all_goals cases h
    · refine (failsWith_compile s source root _).imp ?_
      rintro e ⟨cause⟩ fault h
      cases h
  exact hfails _ _ _ h fault

/-! ## Source and class below a root -/

section

variable (hs : s.NamesFiles) (hd : (u.get t).NamesFiles)

include hs hd

/-- The source and the class of a type are put below the root. -/
theorem moves_compileBelow (root : FilePath) :
    Moves (OnTree (StaysBelow root)) (compileBelow s u t root) := by
  have hbelow : ∀ extension : String, '/' ∉ extension.toList →
      root.place <+: (s.outputPath root (u.get t) extension).place := by
    intro extension hextension
    rw [place_outputPath hs hd root hextension]
    exact List.prefix_append _ _
  refine Moves.bind_of_ok ?_ fun w source w' hsource => ?_
  · refine (moves_implement s u t root).imp fun w w' h => h.imp fun tree tree' h => ?_
    rw [parent_outputPath hs hd root hs.extension] at h
    exact h.staysBelow hd.package (hbelow _ hs.extension)
  · obtain rfl := eq_outputPath_of_implement hsource
    refine (moves_compile s _ root _).imp fun w w' h => h.imp fun tree tree' h => ?_
    rw [besideSource_outputPath hs hd root] at h
    -- nothing is created on the way of the class
    exact (h.placesFile ⟨root.anchor, root.segments ++ []⟩).staysBelow
      (fun _ hname => absurd hname List.not_mem_nil) (hbelow _ slash_not_mem_classExtension)

/-- Where no class stood, the class that stands after a compilation is what the compiler wrote. -/
theorem compileBelow_ok (h : runFrom (compileBelow s u t root) w = (.ok (), w'))
    (hroot : w.tree.entryAt? root = some .directory)
    (hfree : w.tree.lookup? (s.outputPath root (u.get t) classExtension).place = none) :
    ∃ c, w.compiler = some c ∧ c.Wrote s (u.get t) root w'.tree := by
  obtain ⟨source, w₁, hsource, hcompile⟩ := runFrom_bind_eq_ok_iff.1 h
  obtain rfl := eq_outputPath_of_implement hsource
  have hmoves := (moves_implement s u t root).of_run hsource
  have hstill : w₁.tree.lookup? (s.outputPath root (u.get t) classExtension).place = none := by
    rcases hmoves.tree.elsewhere _ (place_class_ne hs hd root) with hsame | ⟨-, -, hway⟩
    · rw [hsame, hfree]
    · -- the directories on the way of the source are shorter than the place of the class
      rw [parent_outputPath hs hd root hs.extension] at hway
      obtain ⟨below, hprefix, hplace⟩ :=
        FileTree.exists_below_of_comesBy hroot hd.package hfree hway
      rw [place_outputPath hs hd root slash_not_mem_classExtension,
        List.append_cancel_left_eq] at hplace
      have hlength := hprefix.length_le
      rw [← hplace, List.length_append, List.length_singleton] at hlength
      exact absurd hlength (Nat.not_succ_le_self _)
  obtain ⟨c, hcompiler, hclass⟩ := compile_ok hcompile
  refine ⟨c, hmoves.compiler ▸ hcompiler, ?_⟩
  rw [besideSource_outputPath hs hd root] at hclass
  rw [Compiler.Wrote]
  cases hfile : c.classFile (s.outputPath root (u.get t) s.generatedExtension) with
  | none =>
      rw [hfile] at hclass
      rw [hclass]
      exact FileTree.entryAt?_eq_none_of_lookup? hstill
  | some file =>
      rw [hfile] at hclass
      exact hclass

end

end Implementing

end Skeletal
