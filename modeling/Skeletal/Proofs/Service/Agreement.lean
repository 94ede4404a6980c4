import Skeletal.Proofs.Service.Room

/-!
# Sources and archives of one submission

The endpoint for sources loads the submitted files as they are. The endpoint for archives lays them
out by their packages, and loads what discovery finds. Both have the same types exactly if discovery
enters the directories of all files with types. Then they refuse the same types with the same words,
and the compiler is given the source that the other endpoint returns (`endpoints_agree`). But
discovery does not enter the directory of a package with a name such as `build`, whose types the
endpoint for archives does not know (`box_unknown`).
-/

set_option autoImplicit false

namespace Skeletal.Service

variable {s : Settings} {submission : Submission} {r : Registry} {path : FilePath}
  {w w' : Workshop} {response : Response}

/-! ## The endpoint for sources -/

theorem outcome_withBody {α : Type} {checked : Checked α} {a : α} (h : checked = .ok a)
    (work : α → Serving Response) (w : Workshop) :
    Serving.outcome (withBody checked work) w = Serving.outcome (work a) w := by
  subst h
  rfl

/-- Answer with a generated source. -/
def sourceAnswer (s : Settings) (d : Descriptor) (source : String) : GeneratedSource :=
  { className := s.className d
    package := d.package
    path := (s.outputPath (FilePath.ofText "") d s.generatedExtension).text
    source }

theorem runFrom_sourceOf (s : Settings)
    (h : Registry.load true (submission.files.map SourceFile.unit) = .ok r) (w : Workshop) :
    runFrom (sourceOf s submission) w =
      match r.resolve submission.typeName with
      | .error e => (.error (refuseType e), w)
      | .ok (t, u) =>
        match s.generateSource u t with
        | .error e => (.error (refuseImplement (.synthesis e)), w)
        | .ok source => (.ok (.success (.source (sourceAnswer s (u.get t) source))), w) := by
  simp only [sourceOf, loadFiles, runFrom_bind, runFrom_ofResult, h]
  cases r.resolve submission.typeName with
  | error e => rfl
  | ok result =>
      simp only
      cases s.generateSource result.2 result.1 with
      | error e => rfl
      | ok source => rfl

/-- How the endpoint for sources answers. -/
inductive SourceAnswer (s : Settings) (r : Registry) (typeName : String) : Response → Prop
  | unknown {e : Registry.UnknownType} (resolve : r.resolve typeName = .error e) :
      SourceAnswer s r typeName (refuseType e)
  | rejected {t : TypeId} {u : Universe} {e : SynthesisError}
      (resolve : r.resolve typeName = .ok (t, u)) (source : s.generateSource u t = .error e) :
      SourceAnswer s r typeName (refuseImplement (.synthesis e))
  | given {t : TypeId} {u : Universe} {text : String}
      (resolve : r.resolve typeName = .ok (t, u)) (source : s.generateSource u t = .ok text) :
      SourceAnswer s r typeName (.success (.source (sourceAnswer s (u.get t) text)))

theorem sourceAnswer_serve {body : Option Payload} (hbody : Submission.ofBody body = .ok submission)
    (hload : Registry.load true (submission.files.map SourceFile.unit) = .ok r) (w : Workshop) :
    SourceAnswer s r submission.typeName
      (Serving.outcome (Endpoint.source.serve s body) w).1 := by
  rw [Endpoint.serve, outcome_withBody hbody, outcome_eq, runFrom_sourceOf s hload]
  cases hresolve : r.resolve submission.typeName with
  | error e => exact .unknown hresolve
  | ok result =>
      simp only
      cases hsource : s.generateSource result.2 result.1 with
      | error e => exact .rejected hresolve hsource
      | ok text => exact .given hresolve hsource

/-- How the endpoints answer one submission. -/
structure EndpointsAgree (s : Settings) (body : Option Payload) (submission : Submission)
    (r : Registry) (w : Workshop) : Prop where
  /-- The endpoint for archives has the types that the other one has exactly if discovery enters the
  directories of all files with types. -/
  types : (∃ scratch r' w', runFrom (archiveRegistry submission.files) w =
      (.ok (scratch, r'), w') ∧ r.LoadedAlike r') ↔ AllEntered submission.files
  /-- Then a name is unknown to both, and synthesis refuses a type for both with the same words. -/
  refused : AllEntered submission.files → ∀ response,
    response.status = 404 ∨ response.status = 422 →
      ((Serving.outcome (Endpoint.source.serve s body) w).1 = response ↔
        (Serving.outcome (Endpoint.archive.serve s body) w).1 = response)
  /-- The source that is handed to the compiler is the one that the other endpoint returns. -/
  handed : AllEntered submission.files → ∀ path w',
    runFrom (handOver s submission) w = (.ok path, w') → ∃ answer,
      (Serving.outcome (Endpoint.source.serve s body) w).1 = .success (.source answer) ∧
      w'.tree.entryAt? path = some (.file (.text answer.source)) ∧
      ∃ u t archive scratch, runFrom (archiveOf s submission) w =
        runFrom (offerArchive (archiveName s (u.get t))
          (Implementing.fromCompiling s u t archive scratch path)) w'
  /-- A source that the other endpoint returns is handed to the compiler, if the system takes its
  path there. -/
  given : AllEntered submission.files → ∀ answer,
    (Serving.outcome (Endpoint.source.serve s body) w).1 = .success (.source answer) →
    FilePath.FitsWhole ⟨.within w.workingDirectory, [w.scratchName, "out", w.scratchName] ++
      (packageSegments answer.package ++ [answer.className ++ s.generatedExtension])⟩ →
    ∃ path w', runFrom (handOver s submission) w = (.ok path, w')

section

variable {body : Option Payload} (hs : s.NamesFiles)
  (hbody : Submission.ofBody body = .ok submission) (hsubmitted : Submitted submission.files r)
  (hread : ReadAlike submission.files) (hroom : HasRoom w submission.files)
  (hentered : AllEntered submission.files)

include hs hbody hsubmitted hread hroom hentered

theorem refused_alike (hstatus : response.status = 404 ∨ response.status = 422) :
    (Serving.outcome (Endpoint.source.serve s body) w).1 = response ↔
      (Serving.outcome (Endpoint.archive.serve s body) w).1 = response := by
  obtain ⟨tree, units, r', hlaid, hrun, hload, -, hsame⟩ :=
    exists_archiveRegistry hroom hsubmitted hread hentered
  have hanswer := sourceAnswer_serve (s := s) hbody hsubmitted.loads w
  have hresolved := hsame submission.typeName
  have hserve : Endpoint.archive.serve s body =
      withBody (Submission.ofBody body) (archiveOf s) := rfl
  rw [hserve, outcome_withBody hbody, outcome_archiveOf hrun]
  -- by how the endpoint for sources answers: the name is resolved alike in the other registry
  generalize (Serving.outcome (Endpoint.source.serve s body) w).1 = answer at hanswer ⊢
  cases hanswer with
  | unknown hresolve =>
      rw [hresolve] at hresolved
      generalize r'.resolve submission.typeName = result at hresolved ⊢
      cases hresolved
      rfl
  | rejected hresolve hsource =>
      rw [hresolve] at hresolved
      generalize hresult : r'.resolve submission.typeName = result at hresolved ⊢
      cases hresolved with
      | known gate source names =>
          have hrejected := (implementArchive_rejected_iff_generateSource hroom hlaid hs hload
            hresult _).2 ((source s).symm.trans hsource)
          simp only [outcome_offerArchive_of_error hrejected]
  | given hresolve hsource =>
      rw [hresolve] at hresolved
      generalize hresult : r'.resolve submission.typeName = result at hresolved ⊢
      cases hresolved with
      | known gate source names =>
          -- neither answer is a refusal
          refine iff_of_false ?_ fun hresponse => ?_
          · rintro rfl
            exact absurd hstatus (by simp [Response.success])
          · obtain ⟨e, hrejected, -⟩ := rejection_of_offerArchive hresponse hstatus
            have herror := (implementArchive_rejected_iff_generateSource hroom hlaid hs hload
              hresult e).1 hrejected
            exact nomatch (hsource.symm.trans (source s)).trans herror

omit hs in
/-- What is handed to the compiler is the source that the other endpoint returns. -/
theorem handed_source (h : runFrom (handOver s submission) w = (.ok path, w')) : ∃ answer,
    (Serving.outcome (Endpoint.source.serve s body) w).1 = .success (.source answer) ∧
      w'.tree.entryAt? path = some (.file (.text answer.source)) := by
  obtain ⟨tree, units, r', -, hrun, -, -, hsame⟩ :=
    exists_archiveRegistry hroom hsubmitted hread hentered
  have hanswer := sourceAnswer_serve (s := s) hbody hsubmitted.loads w
  have hresolved := hsame submission.typeName
  rw [runFrom_handOver hrun] at h
  generalize r'.resolve submission.typeName = result at h hresolved
  generalize (Serving.outcome (Endpoint.source.serve s body) w).1 = response at hanswer ⊢
  cases hanswer with
  | unknown hresolve =>
      rw [hresolve] at hresolved
      cases hresolved
      cases (Prod.mk.inj h).1
  | rejected hresolve hsource =>
      rw [hresolve] at hresolved
      cases hresolved with
      | known gate source names =>
          obtain ⟨text, htext, -⟩ :=
            Implementing.entryAt?_of_beforeCompiling (runFrom_implementing_eq_ok_iff.1 h)
          exact nomatch (hsource.symm.trans (source s)).trans htext
  | given hresolve hsource =>
      rw [hresolve] at hresolved
      cases hresolved with
      | known gate source names =>
          obtain ⟨text, htext, hstands⟩ :=
            Implementing.entryAt?_of_beforeCompiling (runFrom_implementing_eq_ok_iff.1 h)
          obtain rfl := Except.ok.inj ((hsource.symm.trans (source s)).trans htext)
          exact ⟨_, rfl, hstands⟩

/-- The source that the other endpoint returns is handed to the compiler. -/
theorem exists_handOver {answer : GeneratedSource}
    (h : (Serving.outcome (Endpoint.source.serve s body) w).1 = .success (.source answer))
    (hfits : FilePath.FitsWhole
      ⟨.within w.workingDirectory, [w.scratchName, "out", w.scratchName] ++
        (packageSegments answer.package ++ [answer.className ++ s.generatedExtension])⟩) :
    ∃ path w', runFrom (handOver s submission) w = (.ok path, w') := by
  obtain ⟨tree, units, r', hlaid, hrun, hload, -, hsame⟩ :=
    exists_archiveRegistry hroom hsubmitted hread hentered
  have hanswer := sourceAnswer_serve (s := s) hbody hsubmitted.loads w
  have hresolved := hsame submission.typeName
  rw [runFrom_handOver hrun]
  rw [h] at hanswer
  generalize hresult : r'.resolve submission.typeName = result at hresolved ⊢
  cases hanswer with
  | @given t u text hresolve hsource =>
      rw [hresolve] at hresolved
      cases hresolved with
      | @known t t' u u' gate source names =>
          have hsource' := (source s).symm.trans hsource
          have hgate' := Settings.checkImplementable_of_generateSource hsource'
          obtain ⟨hname, hpackage⟩ := names (gate.trans hgate')
          have hd := Registry.namesFiles_of_offers hload (Or.inr ⟨_, hresult⟩) hgate'
          have hfits' : FilePath.FitsWhole
              ⟨.within w.workingDirectory, [w.scratchName, "out", w.scratchName] ++
                (packageSegments (u'.get t').package ++
                  [s.className (u'.get t') ++ s.generatedExtension])⟩ := by
            rw [Settings.className, ← hname, ← hpackage]
            exact hfits
          obtain ⟨path, w', hbefore⟩ :=
            exists_beforeCompiling_archive hroom hlaid hs hd hsource' hfits'
          exact ⟨path, w', runFrom_implementing_eq_ok_iff.2 hbefore⟩

end

/-- The endpoints agree on what is submitted if discovery enters the directories of all files with
types, and only then. -/
theorem endpoints_agree {body : Option Payload} (hs : s.NamesFiles)
    (hbody : Submission.ofBody body = .ok submission)
    (hsubmitted : Submitted submission.files r) (hread : ReadAlike submission.files)
    (hroom : HasRoom w submission.files) : EndpointsAgree s body submission r w := by
  constructor
  case types =>
    constructor
    · rintro ⟨scratch, r', w', hrun, halike⟩
      exact allEntered_of_loadedAlike hroom hsubmitted hread hrun halike
    · intro hentered
      obtain ⟨tree, units, r', -, hrun, -, halike, -⟩ :=
        exists_archiveRegistry hroom hsubmitted hread hentered
      exact ⟨_, r', _, hrun, halike⟩
  case refused =>
    intro hentered response hstatus
    exact refused_alike hs hbody hsubmitted hread hroom hentered hstatus
  case handed =>
    intro hentered path w' hrun
    obtain ⟨answer, hanswer, hstands⟩ :=
      handed_source hbody hsubmitted hread hroom hentered hrun
    exact ⟨answer, hanswer, hstands, archiveOf_of_handOver hrun⟩
  case given =>
    intro hentered answer hanswer hfits
    exact exists_handOver hs hbody hsubmitted hread hroom hentered hanswer hfits

/-- Body of a request for a type. -/
def bodyOf (submission : Submission) : Option Payload :=
  some (.object [("type_name", .text submission.typeName),
    ("files", .list (submission.files.map fun file =>
      .object [("filename", .text file.filename), ("code", .text file.code)]))])

/-- An empty workshop. -/
def emptyWorkshop : Workshop where
  tree := ⟨[]⟩
  workingDirectory := "/work"
  scratchName := "skeletal-1"
  compiler := none

/-- A type that refers to one of another package. -/
def basketSubmission : Submission where
  typeName := "shop.Basket"
  files :=
    [{ filename := "lib/Basket.java"
       code := "package shop; public interface Basket \x7b store.Item first(); \x7d" },
      { filename := "Item.java", code := "package store; public class Item \x7b \x7d" }]

/-- The endpoints agree on the type. -/
theorem endpoints_agree_basket : ∃ r, ({} : Settings).NamesFiles ∧
    Submission.ofBody (bodyOf basketSubmission) = .ok basketSubmission ∧
    Submitted basketSubmission.files r ∧ ReadAlike basketSubmission.files ∧
    HasRoom emptyWorkshop basketSubmission.files ∧ AllEntered basketSubmission.files ∧
    EndpointsAgree {} (bodyOf basketSubmission) basketSubmission r emptyWorkshop := by
  have hbody : Submission.ofBody (bodyOf basketSubmission) = .ok basketSubmission := rfl
  have hread : ReadAlike basketSubmission.files := by
    refine ⟨fun file hfile => congrArg Source.parse (SourceFile.unified_of_not_mem ?_), ?_⟩
    · revert file
      decide +kernel
    · decide +kernel
  have hroom : HasRoom emptyWorkshop basketSubmission.files :=
    ⟨by decide, fun _ he => absurd he List.not_mem_nil, by decide +kernel, by decide +kernel⟩
  have hpackages : basketSubmission.files.map SourceFile.package = ["shop", "store"] := by
    decide +kernel
  have hentered : AllEntered basketSubmission.files := by
    have hnone : ∀ package ∈ basketSubmission.files.map SourceFile.package,
        ∀ name ∈ packageSegments package, isSkippedDirectory name = false := by
      rw [hpackages]
      decide +kernel
    exact fun file hfile _ => hnone _ (List.mem_map_of_mem hfile)
  have hok : (Registry.load true (basketSubmission.files.map SourceFile.unit)).isOk = true := by
    decide +kernel
  cases hload : Registry.load true (basketSubmission.files.map SourceFile.unit) with
  | error e =>
      rw [hload] at hok
      cases hok
  | ok r =>
      have hnames : basketSubmission.files.map (fun file => file.unit.declaredNames) =
          [["shop.Basket"], ["store.Item"]] := by
        decide +kernel
      have hsubmitted : Submitted basketSubmission.files r := by
        refine ⟨hload, by decide +kernel, List.Nodup.of_map Prod.fst ?_, List.pairwise_map.1 ?_⟩
        · rw [List.map_map]
          exact hpackages ▸ by decide
        · rw [hnames]
          simp
      exact ⟨r, Settings.namesFiles_default, hbody, hsubmitted, hread, hroom, hentered,
        endpoints_agree Settings.namesFiles_default hbody hsubmitted hread hroom⟩

/-- Status and reason of a refusal. -/
def Response.refusal? (response : Response) : Option (Nat × String) :=
  match response.content with
  | .detail reason => some (response.status, reason)
  | _ => none

/-- A type of a package whose directory discovery does not enter. -/
def boxSubmission : Submission where
  typeName := "build.Box"
  files := [{ filename := "Box.java", code := "package build; public final class Box \x7b \x7d" }]

/-- One endpoint refuses the type, and the other one does not know it. -/
theorem box_unknown : ∃ r, Submission.ofBody (bodyOf boxSubmission) = .ok boxSubmission ∧
    Submitted boxSubmission.files r ∧ ReadAlike boxSubmission.files ∧
    HasRoom emptyWorkshop boxSubmission.files ∧
    (¬ ∃ scratch r' w', runFrom (archiveRegistry boxSubmission.files) emptyWorkshop =
      (.ok (scratch, r'), w') ∧ r.LoadedAlike r') ∧
    (Serving.outcome (Endpoint.source.serve {} (bodyOf boxSubmission)) emptyWorkshop).1.refusal? =
      some (422, "UnsupportedToken: Unsupported class token build.Box: " ++
        "final classes cannot be extended") ∧
    (Serving.outcome (Endpoint.archive.serve {} (bodyOf boxSubmission)) emptyWorkshop).1.refusal? =
      some (404, "Unknown type: build.Box") := by
  have hread : ReadAlike boxSubmission.files := by
    refine ⟨fun file hfile => congrArg Source.parse (SourceFile.unified_of_not_mem ?_), ?_⟩
    · revert file
      decide +kernel
    · decide +kernel
  have hroom : HasRoom emptyWorkshop boxSubmission.files :=
    ⟨by decide, fun _ he => absurd he List.not_mem_nil, by decide +kernel, by decide +kernel⟩
  have hnotEntered : ¬ AllEntered boxSubmission.files := by decide +kernel
  have hok : (Registry.load true (boxSubmission.files.map SourceFile.unit)).isOk = true := by
    decide +kernel
  cases hload : Registry.load true (boxSubmission.files.map SourceFile.unit) with
  | error e =>
      rw [hload] at hok
      cases hok
  | ok r =>
      have hsubmitted : Submitted boxSubmission.files r :=
        ⟨hload, by decide +kernel, List.pairwise_singleton _ _, List.pairwise_singleton _ _⟩
      refine ⟨r, rfl, hsubmitted, hread, hroom, ?_, by decide +kernel, by decide +kernel⟩
      rintro ⟨scratch, r', w', hrun, halike⟩
      exact hnotEntered (allEntered_of_loadedAlike hroom hsubmitted hread hrun halike)

end Skeletal.Service
