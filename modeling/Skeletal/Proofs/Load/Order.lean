import Mathlib.Data.List.Find
import Mathlib.Data.List.Perm.Basic
import Skeletal.Proofs.Load.Units
import Skeletal.Proofs.Load.World

/-!
# The order of the units does not matter

Units that declare no names in common add the same types in whatever order they are read, and units
that do not parse add none. Linking looks names up only after all is declared, and every loaded type
is summarized by what its linked form says. So two lenient readings of the same units give the same
map from canonical names to summaries (`Registry.read_perm`).
-/

set_option autoImplicit false

namespace Skeletal

open Load

/-! ## Declared types -/

namespace SourceUnit

/-- Canonical names of the types that the unit declares on its own. -/
def declaredNames (unit : SourceUnit) : List String := (unit.addTo []).map Declared.canonical

variable {unit : SourceUnit} {known : List Declared}

theorem addTo_of_not_parses (h : unit.parses = false) : unit.addTo known = known := by
  rw [parses] at h
  rw [addTo]
  cases hparse : Source.parse unit.code with
  | error e => rfl
  | ok content =>
      rw [hparse] at h
      cases h

theorem parses_of_mem {name : String} (h : name ∈ unit.declaredNames) : unit.parses = true := by
  by_contra hparses
  rw [declaredNames, addTo_of_not_parses (Bool.eq_false_iff.2 hparses)] at h
  exact absurd h List.not_mem_nil

/-- A unit adds to the known types what it declares on its own, if no name is known already. -/
theorem addTo_eq_append (h : (known.map Declared.canonical).Disjoint unit.declaredNames) :
    unit.addTo known = known ++ unit.addTo [] := by
  simp only [declaredNames, addTo] at h ⊢
  cases hparse : Source.parse unit.code with
  | error e => exact (List.append_nil known).symm
  | ok content =>
      simp only [hparse] at h
      refine declareUnit_eq_append fun d hd => ?_
      rw [Bool.eq_false_iff, Ne, isTaken_eq_true_iff]
      exact fun htaken => h htaken (List.mem_map_of_mem hd)

end SourceUnit

variable {units units' : List SourceUnit} {known known' : List Declared}

/-- Units that do not parse may be left out. -/
theorem foldl_addTo_filter (units : List SourceUnit) (known : List Declared) :
    units.foldl SourceUnit.addTo known =
      (units.filter SourceUnit.parses).foldl SourceUnit.addTo known := by
  induction units generalizing known with
  | nil => rfl
  | cons unit rest ih =>
      rw [List.foldl_cons, List.filter_cons, ih]
      cases h : unit.parses with
      | true => rfl
      | false => rw [SourceUnit.addTo_of_not_parses h]; rfl

/-- Units without names in common are declared each on its own. -/
theorem foldl_addTo_eq_append
    (hknown : ∀ unit ∈ units, (known.map Declared.canonical).Disjoint unit.declaredNames)
    (hapart : units.Pairwise fun a b => a.declaredNames.Disjoint b.declaredNames) :
    units.foldl SourceUnit.addTo known = known ++ units.flatMap fun unit => unit.addTo [] := by
  induction units generalizing known with
  | nil => simp
  | cons unit rest ih =>
      obtain ⟨hfirst, hrest⟩ := List.pairwise_cons.1 hapart
      rw [List.foldl_cons, SourceUnit.addTo_eq_append (hknown unit List.mem_cons_self), ih _ hrest,
        List.flatMap_cons, List.append_assoc]
      -- what the first unit adds is apart from the units that follow
      intro other hother
      rw [List.map_append, List.disjoint_append_left]
      exact ⟨hknown other (List.mem_cons_of_mem unit hother), hfirst other hother⟩

/-- What is known after a reading are the types of the units that parse. -/
theorem foldl_addTo_eq_flatMap (hapart : (units.filter SourceUnit.parses).Pairwise
      fun a b => a.declaredNames.Disjoint b.declaredNames) :
    units.foldl SourceUnit.addTo [] =
      (units.filter SourceUnit.parses).flatMap fun unit => unit.addTo [] := by
  rw [foldl_addTo_filter]
  exact foldl_addTo_eq_append (fun _ _ => List.disjoint_nil_left _) hapart

/-! ## Linked types -/

theorem isTaken_eq_of_perm (h : known.Perm known') : isTaken known = isTaken known' := by
  funext name
  rw [Bool.eq_iff_iff, isTaken_eq_true_iff, isTaken_eq_true_iff]
  exact (h.map Declared.canonical).mem_iff

theorem linkAll_perm (h : known.Perm known') : (linkAll known).Perm (linkAll known') := by
  rw [linkAll, linkAll, isTaken_eq_of_perm h]
  exact h.map _

/-- Where keys are different, an element is found by its key in any order. -/
theorem find?_eq_of_perm {α : Type} {key : α → String} {l l' : List α} (h : l.Perm l')
    (hnodup : (l.map key).Nodup) (name : String) :
    (l.find? fun a => key a == name) = l'.find? fun a => key a == name := by
  refine List.find?_eq_find?_of_perm h ?_
  rintro a ⟨ha, hname⟩ b ⟨hb, hname'⟩
  exact List.inj_on_of_nodup_map hnodup ha hb
    ((beq_iff_eq.1 hname).trans (beq_iff_eq.1 hname').symm)

theorem signaturesOf_eq_of_perm {linked linked' : List Linked} (h : linked.Perm linked')
    (hnodup : (linked.map fun l => l.declared.canonical).Nodup) :
    signaturesOf linked = signaturesOf linked' := by
  funext name
  rw [signaturesOf, signaturesOf, findLinked?, findLinked?, find?_eq_of_perm h hnodup]

/-! ## Summaries -/

namespace Registry

/-- Summary of the loaded type with a canonical name. -/
def summary? (r : Registry) (name : String) : Option Summary :=
  (r.ofCanonical? name).map r.world.summary

/-- What a registry says of a name is what the linked types say. -/
theorem summary?_ofDeclared (h : WellDeclared known) (skipped : List SkippedSource)
    (name : String) : (ofDeclared known skipped).summary? name =
      (findLinked? (linkAll known) name).map
        (Linked.summary (signaturesOf (linkAll known))) := by
  have hplaced := placed_linkAll h
  -- both sides look for the name in one list of summaries
  have hsummaries : (loadedPlaces (linkAll known)).map (realizeAll (linkAll known)).summary =
      (linkAll known).map (Linked.summary (signaturesOf (linkAll known))) := by
    refine List.ext_getElem (by simp [loadedPlaces]) fun i hi hi' => ?_
    rw [List.length_map] at hi'
    simp only [loadedPlaces, List.getElem_map, List.getElem_range]
    exact summary_realizeAll hplaced hi'
  have hfind := congrArg (List.find? fun s => s.canonical == name) hsummaries
  rw [List.find?_map, List.find?_map] at hfind
  exact hfind

/-- A registry says something of the names that were declared. -/
theorem isSome_summary?_ofDeclared (h : WellDeclared known) (skipped : List SkippedSource)
    (name : String) : ((ofDeclared known skipped).summary? name).isSome = true ↔
      name ∈ known.map Declared.canonical := by
  rw [summary?_ofDeclared h, Option.isSome_map, findLinked?, List.find?_isSome, List.mem_map]
  simp only [linkAll, List.mem_map, exists_exists_and_eq_and, beq_iff_eq]
  rfl

/-- Lenient readings of the same units, of which no two declare a name in common, give the same map
from canonical names to summaries, and it has the names that the units declare. It does not matter
in which order the units are read, nor which units that do not parse stand among them. Those are
reported in their order, each by the name of its file and with the reason why it does not parse. -/
theorem read_perm (hperm : (units.filter SourceUnit.parses).Perm (units'.filter SourceUnit.parses))
    (hapart : (units.filter SourceUnit.parses).Pairwise
      fun a b => a.declaredNames.Disjoint b.declaredNames) :
    ∃ r r', read false units = .ok r ∧ read false units' = .ok r' ∧
      (∀ name, r.summary? name = r'.summary? name) ∧
      (∀ name, (r.summary? name).isSome = true ↔ ∃ unit ∈ units, name ∈ unit.declaredNames) ∧
      (r.skipped = units.filterMap fun unit => match Source.parse unit.code with
        | .ok _ => none
        | .error .outsideGrammar =>
          some ⟨(unit.filename.filter (· ≠ "")).getD "<memory>", "Java syntax error: "⟩
        | .error (.lexical fault shown line text) =>
          some ⟨(unit.filename.filter (· ≠ "")).getD "<memory>", "Failed to parse Java code: " ++
            fault.text ++ " at \"" ++ shown ++ "\", line " ++ toString line ++ ": " ++ text⟩
        | .error e => some ⟨(unit.filename.filter (· ≠ "")).getD "<memory>",
          "Failed to parse Java code: " ++ e.detail⟩) ∧
      (r'.skipped = units'.filterMap fun unit => match Source.parse unit.code with
        | .ok _ => none
        | .error .outsideGrammar =>
          some ⟨(unit.filename.filter (· ≠ "")).getD "<memory>", "Java syntax error: "⟩
        | .error (.lexical fault shown line text) =>
          some ⟨(unit.filename.filter (· ≠ "")).getD "<memory>", "Failed to parse Java code: " ++
            fault.text ++ " at \"" ++ shown ++ "\", line " ++ toString line ++ ": " ++ text⟩
        | .error e => some ⟨(unit.filename.filter (· ≠ "")).getD "<memory>",
          "Failed to parse Java code: " ++ e.detail⟩) := by
  have hread : ∀ units, read false units = .ok (ofDeclared (units.foldl SourceUnit.addTo [])
      (units.filterMap SourceUnit.report?)) := by
    intro units
    rw [read, readUnits_lenient]
  have hdeclared := wellDeclared_foldl_addTo units wellDeclared_nil
  have hdeclared' := wellDeclared_foldl_addTo units' wellDeclared_nil
  refine ⟨_, _, hread units, hread units', fun name => ?_, fun name => ?_,
    List.filterMap_congr fun unit _ => unit.report?_eq,
    List.filterMap_congr fun unit _ => unit.report?_eq⟩
  · -- the known types of the two readings differ in order alone, and their names are different
    have hapart' := (hperm.pairwise_iff List.Disjoint.symm).1 hapart
    have hknown : (units.foldl SourceUnit.addTo []).Perm (units'.foldl SourceUnit.addTo []) := by
      rw [foldl_addTo_eq_flatMap hapart, foldl_addTo_eq_flatMap hapart']
      exact hperm.flatMap_right _
    have hlinked := linkAll_perm hknown
    have hnodup : ((linkAll (units.foldl SourceUnit.addTo [])).map
        fun l => l.declared.canonical).Nodup := by
      rw [linkAll, List.map_map]
      exact hdeclared.nodup
    rw [summary?_ofDeclared hdeclared, summary?_ofDeclared hdeclared',
      signaturesOf_eq_of_perm hlinked hnodup, findLinked?, findLinked?,
      find?_eq_of_perm hlinked hnodup]
  · rw [isSome_summary?_ofDeclared hdeclared, foldl_addTo_eq_flatMap hapart, List.map_flatMap,
      List.mem_flatMap]
    constructor
    · rintro ⟨unit, hunit, hname⟩
      exact ⟨unit, (List.mem_filter.1 hunit).1, hname⟩
    · rintro ⟨unit, hunit, hname⟩
      exact ⟨unit, List.mem_filter.2 ⟨hunit, SourceUnit.parses_of_mem hname⟩, hname⟩

/-- A unit that refers to the type of another one, also as a type argument. -/
def rateUnit : SourceUnit :=
  { code := "interface Rate extends Comparable<Money> \x7b Money of(); \x7d" }

/-- The other unit. -/
def moneyUnit : SourceUnit := { code := "class Money \x7b \x7d" }

/-- A unit that does not parse. -/
def brokenUnit : SourceUnit := { code := "class \x7b", filename := some "Broken.java" }

/-- The units are read the same in both orders, with and without the broken one, which is reported
where it stands among them. -/
theorem read_perm_moneyUnits :
    ∃ r r', read false [rateUnit, brokenUnit, moneyUnit] = .ok r ∧
      read false [moneyUnit, rateUnit] = .ok r' ∧
      (∀ name, r.summary? name = r'.summary? name) ∧
      (∀ name, (r.summary? name).isSome = true ↔
        ∃ unit ∈ [rateUnit, brokenUnit, moneyUnit], name ∈ unit.declaredNames) ∧
      r.skipped = [⟨"Broken.java", "Java syntax error: "⟩] ∧ r'.skipped = [] := by
  have hrateNames : rateUnit.declaredNames = ["Rate"] := by decide +kernel
  have hmoneyNames : moneyUnit.declaredNames = ["Money"] := by decide +kernel
  have hrate : rateUnit.parses = true := by
    apply SourceUnit.parses_of_mem
    rw [hrateNames]
    exact List.mem_singleton_self "Rate"
  have hmoney : moneyUnit.parses = true := by
    apply SourceUnit.parses_of_mem
    rw [hmoneyNames]
    exact List.mem_singleton_self "Money"
  have hbroken : brokenUnit.parses = false := by decide +kernel
  have hfilter : [rateUnit, brokenUnit, moneyUnit].filter SourceUnit.parses =
      [rateUnit, moneyUnit] := by
    simp [hrate, hmoney, hbroken]
  have hfilter' : [moneyUnit, rateUnit].filter SourceUnit.parses = [moneyUnit, rateUnit] := by
    simp [hrate, hmoney]
  have hperm : ([rateUnit, brokenUnit, moneyUnit].filter SourceUnit.parses).Perm
      ([moneyUnit, rateUnit].filter SourceUnit.parses) := by
    rw [hfilter, hfilter']
    exact List.Perm.swap _ _ _
  have hapart : ([rateUnit, brokenUnit, moneyUnit].filter SourceUnit.parses).Pairwise
      fun a b => a.declaredNames.Disjoint b.declaredNames := by
    rw [hfilter]
    simp [hrateNames, hmoneyNames]
  obtain ⟨r, r', hread, hread', hsame, hnames, hskipped, hskipped'⟩ := read_perm hperm hapart
  refine ⟨r, r', hread, hread', hsame, hnames, hskipped.trans ?_, hskipped'.trans ?_⟩
  · decide +kernel
  · decide +kernel

example : (match read false [rateUnit, moneyUnit] with
    | .ok r => (r.summary? "Rate").map Summary.interfaces
    | .error _ => none) = some [⟨"java.lang.Comparable", [⟨"compareTo", ["Money"]⟩]⟩] := by
  decide +kernel

end Registry

end Skeletal
