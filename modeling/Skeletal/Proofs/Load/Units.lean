import Skeletal.Load.Registry
import Skeletal.Proofs.Attempt
import Skeletal.Proofs.Load.Declared

/-!
# Source units read one after another

A reading goes through the units in order, adds what a unit declares to what is known and skips the
units that do not parse. The lenient reading never fails, and a strict one that succeeds gives the
same (`readUnits_lenient_of_ok`).
-/

set_option autoImplicit false

namespace Skeletal

open Load

namespace SourceUnit

/-- Whether the text is a compilation unit. -/
def parses (unit : SourceUnit) : Bool := (Source.parse unit.code).isOk

/-- Known types with those that the unit declares, if it parses. -/
def addTo (known : List Declared) (unit : SourceUnit) : List Declared :=
  match Source.parse unit.code with
  | .ok content => declareUnit known unit.origin content
  | .error _ => known

/-- Report of the unit, if it does not parse. -/
def report? (unit : SourceUnit) : Option SkippedSource :=
  match Source.parse unit.code with
  | .ok _ => none
  | .error e => some (unit.skippedFor e)

/-- The report of a unit names its file and says why it does not parse. -/
theorem report?_eq (unit : SourceUnit) : unit.report? =
    match Source.parse unit.code with
    | .ok _ => none
    | .error .outsideGrammar =>
      some ⟨(unit.filename.filter (· ≠ "")).getD "<memory>", "Java syntax error: "⟩
    | .error (.lexical fault shown line text) =>
      some ⟨(unit.filename.filter (· ≠ "")).getD "<memory>", "Failed to parse Java code: " ++
        fault.text ++ " at \"" ++ shown ++ "\", line " ++ toString line ++ ": " ++ text⟩
    | .error e => some ⟨(unit.filename.filter (· ≠ "")).getD "<memory>",
      "Failed to parse Java code: " ++ e.detail⟩ := by
  rw [report?]
  cases Source.parse unit.code with
  | ok content => rfl
  | error e =>
      cases e with
      | lexical fault shown line text =>
          simp only [skippedFor, Source.SourceError.message, Source.SourceError.detail,
            String.append_assoc]
          rfl
      | _ => rfl

end SourceUnit

variable {strict : Bool} {units : List SourceUnit} {known : List Declared}
  {skipped : List SkippedSource}

/-- Reading of one more unit. -/
def readUnit (strict : Bool) (state : List Declared × List SkippedSource) (unit : SourceUnit) :
    Except Source.SourceError (List Declared × List SkippedSource) :=
  match Source.parse unit.code with
  | .ok content => .ok (declareUnit state.1 unit.origin content, state.2)
  | .error e => if strict then .error e else .ok (state.1, state.2 ++ [unit.skippedFor e])

theorem readUnits_eq (strict : Bool) (units : List SourceUnit) :
    readUnits strict units = units.foldlM (readUnit strict) ([], []) := rfl

theorem readUnit_lenient (unit : SourceUnit) :
    readUnit false (known, skipped) unit =
      .ok (unit.addTo known, skipped ++ unit.report?.toList) := by
  rw [readUnit, SourceUnit.addTo, SourceUnit.report?]
  cases Source.parse unit.code with
  | ok content => simp
  | error e => rfl

theorem readUnit_lenient_of_ok {state state' : List Declared × List SkippedSource}
    {unit : SourceUnit} (h : readUnit strict state unit = .ok state') :
    readUnit false state unit = .ok state' := by
  cases strict with
  | false => exact h
  | true =>
      rw [readUnit] at h ⊢
      cases hparse : Source.parse unit.code with
      | ok content => rwa [hparse] at h
      | error e =>
          rw [hparse] at h
          exact absurd h nofun

/-- The lenient reading reports the units that do not parse, in their order. -/
theorem readUnits_lenient (units : List SourceUnit) : readUnits false units =
    .ok (units.foldl SourceUnit.addTo [], units.filterMap SourceUnit.report?) := by
  -- the induction is on the units, from any state that was reached
  have hfold : ∀ known skipped, units.foldlM (readUnit false) (known, skipped) =
      .ok (units.foldl SourceUnit.addTo known,
        skipped ++ units.filterMap SourceUnit.report?) := by
    induction units with
    | nil => exact fun known skipped => by simp; rfl
    | cons unit rest ih =>
        intro known skipped
        rw [List.foldlM_cons, readUnit_lenient]
        refine (ih _ _).trans ?_
        rw [List.foldl_cons, List.append_assoc]
        cases h : unit.report? <;> simp [h]
  rw [readUnits_eq, hfold]
  rfl

theorem foldlM_lenient_of_ok {state result : List Declared × List SkippedSource}
    (h : units.foldlM (readUnit strict) state = .ok result) :
    units.foldlM (readUnit false) state = .ok result := by
  induction units generalizing state with
  | nil => exact h
  | cons unit rest ih =>
      rw [List.foldlM_cons, bind_eq_ok_iff] at h ⊢
      obtain ⟨state', hunit, hrest⟩ := h
      exact ⟨state', readUnit_lenient_of_ok hunit, ih hrest⟩

/-- A strict reading that succeeds is a lenient one. -/
theorem readUnits_lenient_of_ok {result : List Declared × List SkippedSource}
    (h : readUnits strict units = .ok result) : readUnits false units = .ok result :=
  foldlM_lenient_of_ok h

/-- A unit that parses adds its types in a strict reading and in a lenient one. -/
theorem readUnit_of_parses {unit : SourceUnit} (h : unit.parses = true) :
    readUnit strict (known, skipped) unit = .ok (unit.addTo known, skipped) := by
  rw [readUnit, SourceUnit.addTo]
  rw [SourceUnit.parses] at h
  cases hparse : Source.parse unit.code with
  | ok content => rfl
  | error e =>
      rw [hparse] at h
      cases h

/-- Units that all parse are read, and none is skipped. -/
theorem readUnits_of_parses (h : ∀ unit ∈ units, unit.parses = true) :
    readUnits strict units = .ok (units.foldl SourceUnit.addTo [], []) := by
  have hfold : ∀ known, units.foldlM (readUnit strict) (known, []) =
      .ok (units.foldl SourceUnit.addTo known, []) := by
    induction units with
    | nil => exact fun known => rfl
    | cons unit rest ih =>
        intro known
        rw [List.foldlM_cons, readUnit_of_parses (h unit List.mem_cons_self)]
        exact ih (fun other hother => h other (List.mem_cons_of_mem unit hother)) _
  rw [readUnits_eq, hfold]

theorem wellDeclared_foldl_addTo (units : List SourceUnit) (h : WellDeclared known) :
    WellDeclared (units.foldl SourceUnit.addTo known) := by
  induction units generalizing known with
  | nil => exact h
  | cons unit rest ih =>
      refine ih ?_
      rw [SourceUnit.addTo]
      cases Source.parse unit.code with
      | ok content => exact h.declareUnit unit.origin content
      | error e => exact h

theorem wellDeclared_of_readUnits (h : readUnits strict units = .ok (known, skipped)) :
    WellDeclared known := by
  have hlenient := readUnits_lenient_of_ok h
  rw [readUnits_lenient] at hlenient
  obtain ⟨rfl, -⟩ := Prod.mk.inj (Except.ok.inj hlenient)
  exact wellDeclared_foldl_addTo units wellDeclared_nil

end Skeletal
