import Skeletal.Proofs.Load.Offered
import Skeletal.Proofs.Load.WellFormed
import Skeletal.Proofs.Universe.Enumeration

/-!
# Source roots

A type involves its supertypes, the types that its members mention, its component and its enclosing
type, and whatever these involve. Members may refer back to the type that they are declared in, so
that the walk over all this goes in circles even where no type inherits from itself. It ends all the
same, and finds the origins of the types involved (`Registry.sourceRoots_closure`).
-/

set_option autoImplicit false

namespace Skeletal

namespace Universe

variable {u : Universe} {t s : TypeId} {root : String}

/-! ## Types involved -/

/-- Types that `t` involves: the smallest set with `t` in it that is closed under supertypes, types
mentioned by constructors and methods, components and enclosing types. -/
inductive Involves (u : Universe) (t : TypeId) : TypeId → Prop where
  | self : Involves u t t
  | supertype {a b : TypeId} : Involves u t a → b ∈ u.supertypes a → Involves u t b
  | parameter {a b : TypeId} {m : Member} : Involves u t a → m ∈ (u.get a).members →
      b ∈ m.parameters → Involves u t b
  | exception {a b : TypeId} {m : Member} : Involves u t a → m ∈ (u.get a).members →
      b ∈ m.exceptions → Involves u t b
  | result {a b : TypeId} {m : Member} : Involves u t a → m ∈ (u.get a).members →
      m.result = some b → Involves u t b
  | component {a b : TypeId} : Involves u t a → (u.get a).component = some b → Involves u t b
  | enclosing {a b : TypeId} : Involves u t a → (u.get a).enclosing = some b → Involves u t b

theorem mem_related_iff : s ∈ u.related t ↔
    s ∈ u.supertypes t ∨ (∃ m ∈ (u.get t).members, s ∈ m.mentions) ∨
      (u.get t).component = some s ∨ (u.get t).enclosing = some s := by
  simp only [related, List.mem_append, List.mem_flatMap, Option.mem_toList, or_assoc]

theorem Involves.related {a : TypeId} (h : u.Involves t a) (hs : s ∈ u.related a) :
    u.Involves t s := by
  rcases mem_related_iff.1 hs with hs | ⟨m, hm, hs⟩ | hs | hs
  · exact h.supertype hs
  · simp only [Member.mentions, List.mem_append, Option.mem_toList] at hs
    rcases hs with (hs | hs) | hs
    · exact h.parameter hm hs
    · exact h.exception hm hs
    · exact h.result hm hs
  · exact h.component hs
  · exact h.enclosing hs

theorem mem_related_of_mem_mentions {m : Member} (hm : m ∈ (u.get t).members)
    (hs : s ∈ m.mentions) : s ∈ u.related t :=
  mem_related_iff.2 (Or.inr (Or.inl ⟨m, hm, hs⟩))

theorem involves_iff_reaches : u.Involves t s ↔ Reaches u.related t s := by
  constructor
  · intro h
    induction h with
    | self => exact Relation.ReflTransGen.refl
    | supertype _ hb ih => exact ih.tail (mem_related_iff.2 (Or.inl hb))
    | parameter _ hm hb ih =>
        exact ih.tail (mem_related_of_mem_mentions hm (by simp [Member.mentions, hb]))
    | exception _ hm hb ih =>
        exact ih.tail (mem_related_of_mem_mentions hm (by simp [Member.mentions, hb]))
    | result _ hm hb ih =>
        exact ih.tail (mem_related_of_mem_mentions hm (by simp [Member.mentions, hb]))
    | component _ hb ih => exact ih.tail (mem_related_iff.2 (Or.inr (Or.inr (Or.inl hb))))
    | enclosing _ hb ih => exact ih.tail (mem_related_iff.2 (Or.inr (Or.inr (Or.inr hb))))
  · intro h
    induction h with
    | refl => exact Involves.self
    | tail _ hb ih => exact ih.related hb

/-! ## The walk -/

/-- The walk lists the types involved. -/
theorem mem_relatedClosure_iff : s ∈ u.relatedClosure t ↔ u.Involves t s := by
  have hseen : StepsQueued u.related [] [t] := fun a ha => absurd ha List.not_mem_nil
  rw [relatedClosure, involves_iff_reaches,
    mem_breadthFirst_iff (fun a ha => Or.inr (related_of_not_mem_ids ha)) hseen]
  simp

theorem exists_relatedClosure_eq_cons (u : Universe) (t : TypeId) :
    ∃ rest, u.relatedClosure t = t :: rest := by
  rw [relatedClosure, breadthFirst, if_neg List.not_mem_nil]
  split_ifs
  · exact ⟨_, rfl⟩
  · exact ⟨_, rfl⟩

theorem mem_sourceRoots_iff : root ∈ u.sourceRoots t ↔
    root ≠ "" ∧ ∃ s, u.Involves t s ∧ (u.get s).origin = some root := by
  simp only [sourceRoots, List.mem_eraseDups, List.mem_filter, List.mem_filterMap,
    mem_relatedClosure_iff, decide_eq_true_eq, and_comm]

/-- The origin of the type itself comes first. -/
theorem head?_sourceRoots (horigin : (u.get t).origin = some root) (hroot : root ≠ "") :
    (u.sourceRoots t).head? = some root := by
  obtain ⟨rest, hrest⟩ := exists_relatedClosure_eq_cons u t
  have hcons : (t :: rest).filterMap (fun s => (u.get s).origin) =
      root :: rest.filterMap fun s => (u.get s).origin :=
    List.filterMap_cons_some horigin
  rw [sourceRoots, hrest, hcons, List.filter_cons_of_pos (by simpa using hroot),
    List.eraseDups_cons, List.head?_cons]

end Universe

namespace Registry

variable {strict : Bool} {units : List SourceUnit} {r : Registry} {t : TypeId} {u : Universe}

/-- The walk from a type of a loaded registry has exactly one result: the origins of the types that
it involves, each once, its own origin first. -/
theorem sourceRoots_closure (h : load strict units = .ok r)
    (hu : u = r.world ∨ ∃ name, r.resolve name = .ok (t, u)) :
    (∀ roots, u.SourceRootsRun t roots ↔ roots = u.sourceRoots t) ∧
      (u.sourceRoots t).Nodup ∧
      (∀ root, root ∈ u.sourceRoots t ↔
        root ≠ "" ∧ ∃ s, u.Involves t s ∧ (u.get s).origin = some root) ∧
      ∀ root, (u.get t).origin = some root → root ≠ "" →
        (u.sourceRoots t).head? = some root := by
  have hacyclic : u.Acyclic := by
    rcases hu with rfl | ⟨name, hresolve⟩
    · exact (acyclic_of_load h).1
    · exact (acyclic_of_load h).2 name t u hresolve
  have hrun := (hacyclic.walksEnd t).sourceRoots
  refine ⟨fun roots => ⟨fun hroots => hroots.unique hrun, ?_⟩, nodup_eraseDups _,
    fun root => Universe.mem_sourceRoots_iff, fun root => Universe.head?_sourceRoots⟩
  rintro rfl
  exact hrun

/-- An interface and the types that it involves, in source roots of their own. The type of the
parameter refers back to the interface. -/
def rootedUnits : List SourceUnit :=
  [{ code := "package p; public interface Sub extends q.Base \x7b void take(r.Arg[] args); \x7d"
     origin := some "/a" },
    { code := "package q; public interface Base \x7b \x7d", origin := some "/b" },
    { code := "package r; public interface Arg \x7b p.Sub back(); \x7d", origin := some "/c" }]

/-- A method of the type takes an array of a type with this origin, and the type with this origin
has a method that results in the type again. -/
def TakesArrayFrom (origin : String) (t : TypeId) (u : Universe) : Prop :=
  ∃ m ∈ (u.get t).members, ∃ array ∈ m.parameters, ∃ s ∈ (u.get array).component,
    (u.get s).origin = some origin ∧ ∃ back ∈ (u.get s).members, back.result = some t

instance (origin : String) (t : TypeId) (u : Universe) : Decidable (TakesArrayFrom origin t u) :=
  inferInstanceAs (Decidable (∃ m ∈ (u.get t).members, ∃ array ∈ m.parameters,
    ∃ s ∈ (u.get array).component, (u.get s).origin = some origin ∧
      ∃ back ∈ (u.get s).members, back.result = some t))

/-- The references go round, and the root of the type of the parameter is found behind the own root
of the interface. -/
theorem sourceRoots_closure_rootedUnits : ∃ r t u, load true rootedUnits = .ok r ∧
    r.resolve "p.Sub" = .ok (t, u) ∧ TakesArrayFrom "/c" t u ∧
      (∀ roots, u.SourceRootsRun t roots ↔ roots = u.sourceRoots t) ∧
      (u.sourceRoots t).Nodup ∧ (u.sourceRoots t).head? = some "/a" ∧ "/c" ∈ u.sourceRoots t := by
  have htest : resolvesTo true rootedUnits "p.Sub" (fun t u =>
      decide ((u.get t).origin = some "/a" ∧ TakesArrayFrom "/c" t u)) = true := by
    decide +kernel
  obtain ⟨r, t, u, hload, hresolve, htest⟩ := exists_of_resolvesTo htest
  obtain ⟨horigin, harray⟩ := of_decide_eq_true htest
  obtain ⟨hruns, hnodup, hmem, hhead⟩ :=
    sourceRoots_closure hload (Or.inr ⟨"p.Sub", hresolve⟩)
  have hroot : "/c" ∈ u.sourceRoots t := by
    obtain ⟨m, hm, array, hparameter, s, hcomponent, hs, -⟩ := harray
    have hinvolved := (Universe.Involves.self.parameter hm hparameter).component hcomponent
    exact (hmem "/c").2 ⟨by decide, s, hinvolved, hs⟩
  exact ⟨r, t, u, hload, hresolve, harray, hruns, hnodup, hhead "/a" horigin (by decide), hroot⟩

end Registry

end Skeletal
