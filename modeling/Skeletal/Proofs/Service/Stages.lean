import Skeletal.Proofs.Output.HandOver
import Skeletal.Proofs.Service.Layout
import Skeletal.Service.Routes

/-!
# Stages of the endpoint for archives

The endpoint for archives lays out the files and loads what discovery finds (`archiveRegistry`).
With the registry it implements a type and offers the archive (`archiveOf_eq`). On the way it hands
the source to the compiler (`handOver`), from where it goes on (`archiveOf_of_handOver`). It refuses
an archive for what synthesis refuses, and for nothing else (`rejection_of_offerArchive`).
-/

set_option autoImplicit false

namespace Skeletal.Service

variable {s : Settings} {submission : Submission} {r : Registry} {scratch path : FilePath}
  {w w' : Workshop} {filename : String} {work : Implementing FilePath} {response : Response}

/-- Scratch directory where the files are laid out, and the registry of what discovery finds. -/
def archiveRegistry (files : List SourceFile) : Serving (FilePath × Registry) := do
  let w ← getThe Workshop
  let scratch : FilePath := ⟨.within w.workingDirectory, [w.scratchName]⟩
  onFiles (FileAction.makeDirectory scratch)
  let sources := scratch.below "src"
  let _ ← files.foldlM (placeFile sources) []
  let tree := (← getThe Workshop).tree
  let r ← ofResult refuseLoad
    (Registry.ofRoots tree w.workingDirectory [SourceRoot.ofPath sources])
  return (scratch, r)

/-- Name of the archive of a type. -/
def archiveName (s : Settings) (d : Descriptor) : String := s.className d ++ ".jar"

theorem isFileName_archiveName {d : Descriptor} (hs : s.NamesFiles) (hd : d.NamesFiles) :
    IsFileName (archiveName s d) :=
  isFileName_className hs hd (by decide)

/-- Response with the entries of an archive. -/
def offerEntries (filename : String) (written : FilePath) : Serving Response := do
  let entries ← archiveEntries written
  match receivedHeader? (attachmentHeader filename) with
  | some disposition => return .success (.archive disposition entries)
  | none => throw .unforeseen

/-- Response with the archive that the work writes. -/
def offerArchive (filename : String) (work : Implementing FilePath) : Serving Response := do
  offerEntries filename (← implementing work)

/-- Archive of a type that a registry knows. -/
def archiveFrom (s : Settings) (typeName : String) (scratch : FilePath) (r : Registry) :
    Serving Response := do
  let (t, u) ← ofResult refuseType (r.resolve typeName)
  let filename := archiveName s (u.get t)
  offerArchive filename
    (Implementing.implementArchive s u t ((scratch.below "out").below filename))

theorem archiveOf_eq (s : Settings) (submission : Submission) :
    archiveOf s submission = archiveRegistry submission.files >>= fun laid =>
      archiveFrom s submission.typeName laid.1 laid.2 := by
  simp only [archiveOf, archiveRegistry, archiveFrom, offerArchive, archiveName, bind_assoc,
    pure_bind]
  rfl

/-- Path of the source that the endpoint for archives gives to the compiler. -/
def handOver (s : Settings) (submission : Submission) : Serving FilePath := do
  let (scratch, r) ← archiveRegistry submission.files
  let (t, u) ← ofResult refuseType (r.resolve submission.typeName)
  implementing
    (Implementing.beforeCompiling s u t ((scratch.below "out").below (archiveName s (u.get t))))

theorem runFrom_implementing {α : Type} (work : Implementing α) (w : Workshop) :
    runFrom (implementing work) w =
      match runFrom work w with
      | (.ok a, w) => (.ok a, w)
      | (.error e, w) => (.error (refuseImplement e), w) := by
  rw [implementing, runFrom_bind, runFrom_get]
  change runFrom (do
    set (runFrom work w).2
    ofResult refuseImplement (runFrom work w).1) w = _
  rcases runFrom work w with ⟨e | a, w'⟩
  · rfl
  · rfl

theorem runFrom_implementing_eq_ok_iff {α : Type} {work : Implementing α} {a : α} :
    runFrom (implementing work) w = (.ok a, w') ↔ runFrom work w = (.ok a, w') := by
  rw [runFrom_implementing]
  rcases runFrom work w with ⟨e | a', w₁⟩
  · simp
  · simp

/-- From where the source is handed over, the endpoint goes on with the compiler. -/
theorem archiveOf_of_handOver (h : runFrom (handOver s submission) w = (.ok path, w')) :
    ∃ u t archive scratch, runFrom (archiveOf s submission) w =
      runFrom (offerArchive (archiveName s (u.get t))
        (Implementing.fromCompiling s u t archive scratch path)) w' := by
  obtain ⟨⟨scratch, r⟩, w₁, hregistry, h⟩ := runFrom_bind_eq_ok_iff.1 h
  obtain ⟨⟨t, u⟩, w₂, hresolve, h⟩ := runFrom_bind_eq_ok_iff.1 h
  have hbefore := runFrom_implementing_eq_ok_iff.1 h
  obtain ⟨inner, hgoesOn⟩ := Implementing.runFrom_implementArchive_of_ok hbefore
  refine ⟨u, t, (scratch.below "out").below (archiveName s (u.get t)), inner, ?_⟩
  simp only [archiveOf_eq, runFrom_bind, hregistry, archiveFrom, hresolve, offerArchive,
    runFrom_implementing, hgoesOn]

/-! ## Outcomes -/

theorem outcome_eq (work : Serving Response) (w : Workshop) :
    (Serving.outcome work w).1 =
      match (runFrom work w).1 with
      | .ok response => response
      | .error response => response := by
  rw [Serving.outcome, runFrom]
  rcases work.run.run w with ⟨response | response, w'⟩
  · rfl
  · rfl

theorem failsWith_archiveEntries (written : FilePath) :
    FailsWith (· = .unforeseen) (archiveEntries written) := by
  have hread : FailsWith (· = .unforeseen) (onFiles (FileAction.read written)) := by
    intro w e w' hrun
    rw [runFrom_onFiles] at hrun
    rcases hcontent : runFrom (FileAction.read written) w.tree with ⟨fault | content, tree⟩
    · rw [hcontent] at hrun
      exact (Except.error.inj (Prod.mk.inj hrun).1).symm
    · rw [hcontent] at hrun
      cases (Prod.mk.inj hrun).1
  refine hread.bind fun content => ?_
  split
  · exact failsWith_pure _
  · exact failsWith_pure _

/-- What is offered is a success, or something unforeseen failed. -/
theorem status_offerEntries (filename : String) (written : FilePath) (w : Workshop) :
    (Serving.outcome (offerEntries filename written) w).1.status ∈ [200, 500] := by
  rw [outcome_eq, offerEntries, runFrom_bind]
  rcases hentries : runFrom (archiveEntries written) w with ⟨e | entries, w₁⟩
  · obtain rfl := failsWith_archiveEntries written _ _ _ hentries
    exact List.mem_cons_of_mem _ List.mem_cons_self
  · simp only
    cases receivedHeader? (attachmentHeader filename) with
    | none => exact List.mem_cons_of_mem _ List.mem_cons_self
    | some disposition => exact List.mem_cons_self

theorem outcome_offerArchive_of_error {e : ImplementError} (h : (runFrom work w).1 = .error e) :
    (Serving.outcome (offerArchive filename work) w).1 = refuseImplement e := by
  rw [outcome_eq, offerArchive, runFrom_bind, runFrom_implementing]
  rcases hwork : runFrom work w with ⟨result, w₁⟩
  rw [hwork] at h
  obtain rfl := h
  rfl

/-- An archive is refused for what synthesis refuses, and for nothing else. -/
theorem rejection_of_offerArchive
    (hresponse : (Serving.outcome (offerArchive filename work) w).1 = response)
    (hstatus : response.status = 404 ∨ response.status = 422) :
    ∃ e, (runFrom work w).1 = .error (.synthesis e) ∧
      response = refuseImplement (.synthesis e) := by
  rw [outcome_eq, offerArchive, runFrom_bind, runFrom_implementing] at hresponse
  -- a failure of the work itself is answered by its kind, and behind it only 200 and 500 are left
  rcases hwork : runFrom work w with ⟨e | written, w₁⟩
  · rw [hwork] at hresponse
    obtain rfl := hresponse
    cases e with
    | synthesis e => exact ⟨e, rfl, rfl⟩
    | _ => exact absurd hstatus (by simp [refuseImplement, Response.refusal, Response.unforeseen])
  · rw [hwork] at hresponse
    have hoffered := status_offerEntries filename written w₁
    rw [outcome_eq, hresponse] at hoffered
    rcases hstatus with hstatus | hstatus
    · exact absurd (hstatus ▸ hoffered) (by decide)
    · exact absurd (hstatus ▸ hoffered) (by decide)

theorem outcome_archiveOf
    (h : runFrom (archiveRegistry submission.files) w = (.ok (scratch, r), w')) :
    (Serving.outcome (archiveOf s submission) w).1 =
      match r.resolve submission.typeName with
      | .error e => refuseType e
      | .ok (t, u) =>
        (Serving.outcome (offerArchive (archiveName s (u.get t))
          (Implementing.implementArchive s u t
            ((scratch.below "out").below (archiveName s (u.get t))))) w').1 := by
  rw [outcome_eq, archiveOf_eq, runFrom_bind, h]
  simp only [archiveFrom, runFrom_bind, runFrom_ofResult]
  cases r.resolve submission.typeName with
  | error e => rfl
  | ok result => exact (outcome_eq _ w').symm

theorem runFrom_handOver
    (h : runFrom (archiveRegistry submission.files) w = (.ok (scratch, r), w')) :
    runFrom (handOver s submission) w =
      match r.resolve submission.typeName with
      | .error e => (.error (refuseType e), w')
      | .ok (t, u) =>
        runFrom (implementing (Implementing.beforeCompiling s u t
          ((scratch.below "out").below (archiveName s (u.get t))))) w' := by
  rw [handOver, runFrom_bind, h]
  simp only [runFrom_bind, runFrom_ofResult]
  cases r.resolve submission.typeName with
  | error e => rfl
  | ok result => rfl

end Skeletal.Service
