import Skeletal.Proofs.Output.ArchiveFlow
import Skeletal.Proofs.Output.SourceFlow

/-!
# Rejected types

A rejection comes from the gate or from synthesis. The source flow rejects a type before it touches
a file, and so does the gate of the archive flow. But the archive flow synthesizes in the scratch
directory beside the archive, and what it created on the way there is left. So the files are as they
were if the gate rejects the type or the directory of the archive was there, and only then
(`implementArchive_rejected`).
-/

set_option autoImplicit false

namespace Skeletal

variable {s : Settings} {u : Universe} {t : TypeId} {archive : FilePath} {w : Workshop}

/-- A scratch directory of a fresh name that is created and discarded leaves nothing. -/
theorem Workshop.FreshScratch.eraseAll_insert (h : w.FreshScratch archive) (entry : Entry) :
    ((w.prepared archive).insert (w.scratchPath archive).place entry).eraseAll
      (w.scratchPath archive).place = w.prepared archive := by
  have hnew : ((w.prepared archive).entries.filter
      fun e => e.1 ≠ (w.scratchPath archive).place) = (w.prepared archive).entries := by
    refine List.filter_eq_self.2 fun e he => decide_eq_true ?_
    exact fun heq => h.2 e he (heq ▸ List.prefix_rfl)
  have houtside : ((w.prepared archive).entries.filter
      fun e => !(w.scratchPath archive).place.isPrefixOf e.1) = (w.prepared archive).entries := by
    refine List.filter_eq_self.2 fun e he => ?_
    rw [Bool.not_eq_true', Bool.eq_false_iff, ne_eq, List.isPrefixOf_iff_prefix]
    exact h.2 e he
  have hown : (w.scratchPath archive).place.isPrefixOf (w.scratchPath archive).place = true :=
    List.isPrefixOf_iff_prefix.2 List.prefix_rfl
  simp only [FileTree.eraseAll, FileTree.insert, FileTree.erase]
  rw [hnew, List.filter_append, houtside, List.filter_cons_of_neg (by simp [hown]),
    List.filter_nil, List.append_nil]

namespace Implementing

variable {e : SynthesisError} {scratch : FilePath} {w₁ w₂ : Workshop}

/-! ## Where rejections come from -/

/-- Where a scratch directory was created beside an archive, the directory of the archive stands. -/
theorem entryAt?_prepared (h : runFrom (scratchBeside archive) w = (.ok scratch, w₁)) :
    (w.prepared archive).entryAt? (w.archiveDirectory archive) = some .directory := by
  simp only [scratchBeside, runFrom_bind, runFrom_get, runFrom_onFiles] at h
  rw [Workshop.prepared]
  rcases hensure : runFrom (FileAction.ensureDirectories (w.archiveDirectory archive)) w.tree with
    ⟨fault | ⟨⟩, tree⟩
  · rw [Workshop.archiveDirectory] at hensure
    rw [hensure] at h
    cases (Prod.mk.inj h).1
  · exact FileAction.ensureDirectories_ok hensure

/-- The source flow is rejected by synthesis alone, before a file is touched. -/
theorem implement_rejected {root : Option FilePath}
    (h : runFrom (implement s u t root) w₁ = (.error (.synthesis e), w₂)) :
    s.generateSource u t = .error e ∧ w₂ = w₁ := by
  cases hsource : s.generateSource u t with
  | error rejection =>
      rw [runFrom_implement_of_error root w₁ hsource] at h
      obtain ⟨hsame, rfl⟩ := Prod.mk.inj h
      exact ⟨congrArg _ (ImplementError.synthesis.inj (Except.error.inj hsame)), rfl⟩
  | ok source =>
      have hfails : FailsWith OfFiles (implement s u t root) := by
        rw [implement, Settings.checkImplementable_of_generateSource hsource, hsource]
        refine FailsWith.bind (failsWith_pure _) fun _ => ?_
        refine FailsWith.bind (failsWith_pure _) fun text => ?_
        cases root with
        | none => exact failsWith_throw (.placement _)
        | some root => exact (failsWith_writeSource _ text).bind fun _ => failsWith_pure _
      cases hfails _ _ _ h

/-- What is implemented below a root is rejected as the source is. -/
theorem compileBelow_rejected
    (h : runFrom (compileBelow s u t scratch) w₁ = (.error (.synthesis e), w₂)) :
    s.generateSource u t = .error e ∧ w₂ = w₁ := by
  rw [compileBelow, runFrom_bind] at h
  rcases hsource : runFrom (implement s u t (some scratch)) w₁ with ⟨e' | source, w'⟩
  · rw [hsource] at h
    obtain ⟨he, rfl⟩ := Prod.mk.inj h
    obtain rfl := Except.error.inj he
    exact implement_rejected hsource
  · rw [hsource] at h
    cases failsWith_compile _ _ _ _ _ _ _ h

/-- The archive flow is rejected by the gate, or by synthesis when the scratch directory was
created, which is then discarded. -/
theorem implementArchive_rejected_cases {after : Workshop}
    (h : outcome (implementArchive s u t archive) w = (.error (.synthesis e), after)) :
    u.checkImplementable t = .error e ∧ after = w ∨
      u.checkImplementable t = .ok () ∧ s.generateSource u t = .error e ∧
        ∃ scratch w₁, runFrom (scratchBeside archive) w = (.ok scratch, w₁) ∧
          after = discarded scratch w₁ := by
  have hrun := archiveRun s u t archive w
  rw [h] at hrun
  generalize outcome (beforePacking s u t archive) w = before at hrun
  generalize hresult : Except.error (ImplementError.synthesis e) = result at hrun
  cases hrun with
  | refused gate =>
      obtain rfl := ImplementError.synthesis.inj (Except.error.inj hresult)
      exact Or.inl ⟨gate, rfl⟩
  | unprepared gate beside =>
      obtain rfl := Except.error.inj hresult
      cases failsWith_scratchBeside archive _ _ _ beside
  | uncompiled gate beside compiled =>
      obtain rfl := Except.error.inj hresult
      obtain ⟨hsource, rfl⟩ := compileBelow_rejected compiled
      exact Or.inr ⟨gate, hsource, _, _, beside, rfl⟩
  | @packing _ packing _ _ _ gate beside compiled packed =>
      cases packing with
      | ok done => cases hresult
      | error failure =>
          obtain rfl := Except.error.inj hresult
          rcases failsWith_writeArchive _ _ _ _ _ _ _ packed with hfiles | ⟨fault, hdated⟩
          · cases hfiles
          · cases hdated

/-! ## What a rejection leaves -/

/-- A scratch directory that is discarded as it was created leaves what was prepared for it. -/
theorem tree_discarded_of_scratchBeside (hfresh : w.FreshScratch archive)
    (h : runFrom (scratchBeside archive) w = (.ok scratch, w₁)) :
    (discarded scratch w₁).tree = w.prepared archive := by
  obtain ⟨rfl, hscratch, -⟩ := scratchBeside_ok hfresh h
  rw [tree_discarded hscratch.stands]
  rcases scratchBeside_cases w archive with ⟨fault, hfails⟩ | ⟨-, -, hcreated⟩
  · cases h.symm.trans hfails
  · obtain ⟨-, rfl⟩ := Prod.mk.inj (h.symm.trans hcreated)
    exact hfresh.eraseAll_insert _

/-- A type that the archive flow rejects is rejected by synthesis, and by the source flow without a
trace. The archive flow leaves nothing new if the gate rejects the type. Else the directories on the
way to the archive are left, so nothing new is left exactly if the last of them was there. -/
theorem implementArchive_rejected (hfresh : w.FreshScratch archive)
    (hrejected : (outcome (implementArchive s u t archive) w).1 = .error (.synthesis e)) :
    s.generateSource u t = .error e ∧
      (∀ root, outcome (implement s u t root) w = (.error (.synthesis e), w)) ∧
      (outcome (implementArchive s u t archive) w).2.tree =
        (if u.checkImplementable t = .error e then w.tree else w.prepared archive) ∧
      ((outcome (implementArchive s u t archive) w).2.tree = w.tree ↔
        u.checkImplementable t = .error e ∨
          w.tree.entryAt? (w.archiveDirectory archive) = some .directory) := by
  rcases houtcome : outcome (implementArchive s u t archive) w with ⟨result, after⟩
  rw [houtcome] at hrejected
  obtain rfl : result = .error (.synthesis e) := hrejected
  rcases implementArchive_rejected_cases houtcome with
    ⟨hgate, hafter⟩ | ⟨hgate, hsource, scratch, w₁, hbeside, rfl⟩
  · have hsource := Settings.generateSource_of_refused (s := s) hgate
    refine ⟨hsource, fun root => runFrom_implement_of_error root w hsource, ?_, ?_⟩
    · rw [if_pos hgate, hafter]
    · exact iff_of_true (congrArg Workshop.tree hafter) (Or.inl hgate)
  · have hpassed : u.checkImplementable t ≠ .error e := by
      rw [hgate]
      exact nofun
    have hleft := tree_discarded_of_scratchBeside hfresh hbeside
    refine ⟨hsource, fun root => runFrom_implement_of_error root w hsource, ?_, ?_⟩
    · rw [if_neg hpassed, hleft]
    · rw [hleft]
      refine ⟨fun hsame => Or.inr (hsame ▸ entryAt?_prepared hbeside), fun h => ?_⟩
      have hthere := h.resolve_left hpassed
      rw [Workshop.prepared, FileAction.ensureDirectories_of_entryAt? hthere]

/-- A class that the gate lets pass, below a private one. -/
def shownUnits : List SourceUnit :=
  [{ code := "package demo; public class Outer \x7b private static class Hidden \x7b \x7d " ++
      "public static class Shown extends Hidden \x7b \x7d \x7d" }]

def shownWorkshop : Workshop where
  tree := ⟨[]⟩
  workingDirectory := "/work"
  scratchName := "skeletal-1"
  compiler := none

def shownArchive : FilePath := ⟨.relative, ["dist", "shown.jar"]⟩

def shownRejection : SynthesisError := .privateAncestor "demo.Outer.Shown" "demo.Outer.Hidden"

theorem shown_outcome : ∃ r t u, Registry.load true shownUnits = .ok r ∧
    r.resolve "demo.Outer.Shown" = .ok (t, u) ∧
      (outcome (implementArchive {} u t shownArchive) shownWorkshop).1 =
        .error (.synthesis shownRejection) ∧
      (outcome (implementArchive {} u t shownArchive) shownWorkshop).2.tree =
        ⟨[(["dist"], .directory)]⟩ := by
  have hrun : Registry.resolvesTo true shownUnits "demo.Outer.Shown" (fun t u =>
      (outcome (implementArchive {} u t shownArchive) shownWorkshop).1 ==
          .error (.synthesis shownRejection) &&
        (outcome (implementArchive {} u t shownArchive) shownWorkshop).2.tree ==
          ⟨[(["dist"], .directory)]⟩) = true := by
    decide +kernel
  simpa using Registry.exists_of_resolvesTo hrun

/-- What the rejected class leaves. -/
theorem implementArchive_rejected_shown : ∃ r t u, Registry.load true shownUnits = .ok r ∧
    r.resolve "demo.Outer.Shown" = .ok (t, u) ∧ shownWorkshop.FreshScratch shownArchive ∧
      (outcome (implementArchive {} u t shownArchive) shownWorkshop).2.tree =
        (if u.checkImplementable t = .error shownRejection
          then shownWorkshop.tree else shownWorkshop.prepared shownArchive) := by
  obtain ⟨r, t, u, hload, hresolve, hrejected, -⟩ := shown_outcome
  have hfresh : shownWorkshop.FreshScratch shownArchive := by decide +kernel
  exact ⟨r, t, u, hload, hresolve, hfresh, (implementArchive_rejected hfresh hrejected).2.2.1⟩

/-- The class is rejected, and a directory is left where nothing stood. -/
theorem shown_leaves_directory : ∃ r t u e, Registry.load true shownUnits = .ok r ∧
    r.resolve "demo.Outer.Shown" = .ok (t, u) ∧ shownWorkshop.FreshScratch shownArchive ∧
      (outcome (implementArchive {} u t shownArchive) shownWorkshop).1 =
        .error (.synthesis e) ∧
      (outcome (implementArchive {} u t shownArchive) shownWorkshop).2.tree ≠
        shownWorkshop.tree := by
  obtain ⟨r, t, u, hload, hresolve, hrejected, hleft⟩ := shown_outcome
  refine ⟨r, t, u, _, hload, hresolve, by decide +kernel, hrejected, ?_⟩
  rw [hleft]
  decide

end Implementing

end Skeletal
