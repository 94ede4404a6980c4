import Skeletal.Proofs.Load.Units
import Skeletal.Proofs.Load.World
import Skeletal.Proofs.TypeGraph.Links
import Skeletal.Proofs.Universe.Walks

/-!
# Loaded types inherit without cycles

The check for cycles looks at canonical names, and the walks follow places. The two agree: only
loaded types inherit from loaded types, and the graph has an edge for each such step
(`Founded.acyclic`). Everything else inherits from standard types alone, which stand before it. So
in a registry that could be loaded no type is its own supertype, and all walks end
(`Registry.load_acyclic`).
-/

set_option autoImplicit false

namespace Skeletal

open Load
open Load.Layout (firstLoaded)

namespace Load

variable {layout : Layout} {u : Universe} {g : TypeGraph} {t s : TypeId}

/-- The place is one of a loaded type. -/
def Layout.IsLoaded (layout : Layout) (t : TypeId) : Prop :=
  firstLoaded ≤ t ∧ t < firstLoaded + layout.loaded.length

/-- What is not loaded inherits from standard types that stand before it. -/
theorem Founded.lt_of_inherits (hu : Founded layout u) (ht : ¬ layout.IsLoaded t)
    (h : u.Inherits t s) : s < t ∧ s < firstLoaded := by
  by_cases hlt : t < firstLoaded
  · have hst : s < t := by
      rw [Universe.Inherits, hu.standard t hlt] at h
      exact lt_of_inherits_standard h
    exact ⟨hst, hst.trans hlt⟩
  · have hge : firstLoaded ≤ t := Nat.not_lt.1 hlt
    have hs := hu.supertype t s (Nat.not_lt.1 fun h => ht ⟨hge, h⟩) h
    exact ⟨hs.trans_le hge, hs⟩

theorem not_isLoaded_of_lt (h : s < firstLoaded) : ¬ layout.IsLoaded s :=
  fun hs => Nat.not_lt.2 hs.1 h

/-- A universe is acyclic if steps between loaded types lead in a graph without cycles. -/
theorem Founded.acyclic (hu : Founded layout u)
    (hg : ∀ name, ¬ Relation.TransGen g.Leads name name)
    (hleads : ∀ t s, layout.IsLoaded t → layout.IsLoaded s → u.Inherits t s →
      g.Leads (u.canonical t) (u.canonical s)) : u.Acyclic := by
  -- the way to a loaded type goes through loaded types
  have hnames : ∀ t s, u.ProperSubtype t s → layout.IsLoaded s →
      layout.IsLoaded t ∧ Relation.TransGen g.Leads (u.canonical t) (u.canonical s) := by
    have hback : ∀ t s, u.Inherits t s → layout.IsLoaded s → layout.IsLoaded t := by
      intro t s hts hs
      by_contra ht
      exact not_isLoaded_of_lt (hu.lt_of_inherits ht hts).2 hs
    intro t s hts hs
    induction hts using Relation.TransGen.head_induction_on with
    | single hstep =>
        have ht := hback _ _ hstep hs
        exact ⟨ht, Relation.TransGen.single (hleads _ _ ht hs hstep)⟩
    | head hstep _ ih =>
        have ht := hback _ _ hstep ih.1
        exact ⟨ht, Relation.TransGen.head (hleads _ _ ht ih.1 hstep) ih.2⟩
  -- and from any other type on places become smaller
  have hdrops : ∀ t s, u.ProperSubtype t s → ¬ layout.IsLoaded t → s < t ∧ s < firstLoaded := by
    intro t s hts ht
    induction hts with
    | single hstep => exact hu.lt_of_inherits ht hstep
    | tail _ hstep ih =>
        obtain ⟨hlt, hs⟩ := hu.lt_of_inherits (not_isLoaded_of_lt ih.2) hstep
        exact ⟨hlt.trans ih.1, hs⟩
  intro t hcycle
  by_cases ht : layout.IsLoaded t
  · exact hg _ (hnames t t hcycle ht).2
  · exact Nat.lt_irrefl t (hdrops t t hcycle ht).1

/-- Adding an array leaves the types before it as they are. -/
theorem get_arrayOf (root component : TypeId) (dimensions : Nat) (u : Universe) :
    u.size ≤ (arrayOf root component dimensions u).2.size ∧
      ∀ t < u.size, (arrayOf root component dimensions u).2.get t = u.get t := by
  induction dimensions with
  | zero => exact ⟨le_rfl, fun _ _ => rfl⟩
  | succ dimensions ih =>
      obtain ⟨hsize, hget⟩ := ih
      have hpush : (arrayOf root component (dimensions + 1) u).2 =
          (arrayOf root component dimensions u).2.push
            ((arrayOf root component dimensions u).2.arrayOver root
              (arrayOf root component dimensions u).1) := rfl
      rw [hpush]
      refine ⟨?_, fun t ht => ?_⟩
      · rw [Universe.size_push]
        exact Nat.le_succ_of_le hsize
      · rw [Universe.get_push_of_lt _ _ (ht.trans_le hsize), hget t ht]

end Load

namespace Registry

variable {strict : Bool} {units : List SourceUnit} {r : Registry} {w : Universe} {t : TypeId}

/-- A registry that could be read is that of the types read. -/
theorem exists_of_read (h : read strict units = .ok r) :
    ∃ known skipped, readUnits strict units = .ok (known, skipped) ∧
      r = ofDeclared known skipped := by
  rw [read] at h
  split at h
  · exact absurd h nofun
  · exact ⟨_, _, ‹_›, (Except.ok.inj h).symm⟩

theorem mem_loadedPlaces_iff {linked : List Linked} :
    t ∈ loadedPlaces linked ↔ (Layout.ofLinked linked).IsLoaded t := by
  rw [loadedPlaces, Layout.IsLoaded, length_loaded, List.mem_map]
  constructor
  · rintro ⟨i, hi, rfl⟩
    exact ⟨Nat.le_add_right _ _, Nat.add_lt_add_left (List.mem_range.1 hi) _⟩
  · rintro ⟨hge, hlt⟩
    obtain ⟨i, rfl⟩ := Nat.exists_eq_add_of_le hge
    exact ⟨i, List.mem_range.2 (Nat.lt_of_add_lt_add_left hlt), rfl⟩

/-- A type that is resolved stands in the loaded universe with arrays added to it. -/
theorem exists_arrayOf_of_resolve {name : String} (h : r.resolve name = .ok (t, w)) :
    ∃ component dimensions, (arrayOf Standard.object component dimensions r.world).2 = w := by
  simp only [resolve] at h
  cases hbare : r.bare? (splitPairs name).2 with
  | some component =>
      rw [hbare] at h
      exact ⟨component, (splitPairs name).1, congrArg Prod.snd (Except.ok.inj h)⟩
  | none =>
      rw [hbare] at h
      exact absurd h nofun

/-- The universe of linked types without a cycle of names is acyclic, and stays so if types are
added that inherit from standard types alone. -/
theorem acyclic_of_findCycle? {linked : List Linked}
    (hplaced : ∀ l ∈ linked, l.Placed (Layout.ofLinked linked))
    (hnone : (TypeGraph.ofTypes (realizeAll linked) (loadedPlaces linked)).findCycle? = none)
    (hw : Founded (Layout.ofLinked linked) w)
    (hget : ∀ t < (realizeAll linked).size, w.get t = (realizeAll linked).get t) : w.Acyclic := by
  have hlt : ∀ t, (Layout.ofLinked linked).IsLoaded t → t < (realizeAll linked).size :=
    fun t ht => ht.2.trans_le (firstLoaded_le_size (founded_realizeAll hplaced))
  refine hw.acyclic
    (TypeGraph.no_cycle_of_findCycle? (TypeGraph.closed_ofTypes _ _) hnone) fun t s ht hs hts => ?_
  rw [Universe.Inherits, hget t (hlt t ht)] at hts
  rw [Universe.canonical, Universe.canonical, hget t (hlt t ht), hget s (hlt s hs)]
  exact TypeGraph.leads_ofTypes_iff.2 ⟨t, mem_loadedPlaces_iff.2 ht, s, hts, rfl, rfl⟩

/-- What is loaded is what is read, where it has no cycle. -/
theorem load_eq_ok_iff : load strict units = .ok r ↔
    read strict units = .ok r ∧ r.graph.findCycle? = none := by
  rw [← TypeGraph.checkAcyclic_eq_ok_iff]
  constructor
  · intro h
    obtain ⟨r', hread, h⟩ := bind_eq_ok_iff.1 h
    cases hcheck : r'.graph.checkAcyclic with
    | error e =>
        rw [hcheck] at h
        cases h
    | ok pass =>
        rw [hcheck] at h
        obtain rfl := Except.ok.inj h
        exact ⟨hread, hcheck⟩
  · rintro ⟨hread, hcheck⟩
    refine bind_eq_ok_iff.2 ⟨r, hread, ?_⟩
    rw [hcheck]
    rfl

theorem read_of_load (h : load strict units = .ok r) : read strict units = .ok r :=
  (load_eq_ok_iff.1 h).1

/-- The world of a registry that is loaded is acyclic, and stays so where a name is resolved. -/
theorem acyclic_of_load (h : load strict units = .ok r) :
    r.world.Acyclic ∧ ∀ name t w, r.resolve name = .ok (t, w) → w.Acyclic := by
  obtain ⟨hread, hnone⟩ := load_eq_ok_iff.1 h
  obtain ⟨known, skipped, hunits, rfl⟩ := exists_of_read hread
  have hplaced := placed_linkAll (wellDeclared_of_readUnits hunits)
  have hfounded := founded_realizeAll hplaced
  refine ⟨acyclic_of_findCycle? hplaced hnone hfounded fun _ _ => rfl, ?_⟩
  intro name t w hresolve
  obtain ⟨component, dimensions, rfl⟩ := exists_arrayOf_of_resolve hresolve
  exact acyclic_of_findCycle? hplaced hnone
    (growth_arrayOf hfounded component dimensions).founded (get_arrayOf _ _ _ _).2

/-- No type of a registry that is loaded without error reaches itself through superclass and
interface references. The same holds where a name is resolved, and all walks from the type that is
resolved end. -/
theorem load_acyclic (h : load strict units = .ok r) :
    r.world.Acyclic ∧
      ∀ name t w, r.resolve name = .ok (t, w) → w.Acyclic ∧ w.WalksEnd t := by
  obtain ⟨hworld, hresolved⟩ := acyclic_of_load h
  refine ⟨hworld, fun name t w hresolve => ?_⟩
  have hacyclic := hresolved name t w hresolve
  exact ⟨hacyclic, hacyclic.walksEnd t⟩

/-- Two units of which each refers to the type of the other. -/
def shapeUnits : List SourceUnit :=
  [{ code := "package p; abstract class Figure implements Shape \x7b Shape[] parts; \x7d" },
    { code := "package p; interface Shape extends Comparable<Shape> \x7b Figure[] parts(); \x7d" }]

/-- The units are loaded, and the walks from an array of their types end. -/
theorem load_acyclic_shapeUnits :
    ∃ r t w, load true shapeUnits = .ok r ∧ r.resolve "p.Figure[]" = .ok (t, w) ∧
      r.world.Acyclic ∧ w.Acyclic ∧ w.WalksEnd t := by
  have hok : (match load true shapeUnits with
      | .ok r => (r.resolve "p.Figure[]").isOk
      | .error _ => false) = true := by
    decide +kernel
  cases hload : load true shapeUnits with
  | error e =>
      rw [hload] at hok
      exact absurd hok nofun
  | ok r =>
      obtain ⟨hworld, hresolved⟩ := load_acyclic hload
      simp only [hload] at hok
      cases hresolve : r.resolve "p.Figure[]" with
      | error e =>
          rw [hresolve] at hok
          exact absurd hok nofun
      | ok result =>
          obtain ⟨hacyclic, hwalks⟩ := hresolved _ result.1 result.2 hresolve
          exact ⟨r, result.1, result.2, rfl, hresolve, hworld, hacyclic, hwalks⟩

example : (match load true
      [{ code := "class A extends B \x7b \x7d class B extends A \x7b \x7d" }] with
    | .ok _ => none
    | .error e => some e) = some (.cyclic ⟨"Cyclic inheritance: A -> B"⟩) := by
  decide +kernel

end Registry

end Skeletal
