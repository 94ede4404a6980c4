import Skeletal.Proofs.Load.Reread
import Skeletal.Proofs.TypeGraph.Reached
import Skeletal.Proofs.Universe.Enumeration

/-!
# Supertypes in descriptors and in the graph

The supertypes of a type are found by following the references of descriptors, and their names by
following the edges of the graph. Edges leave loaded types alone, and references are followed in
another way from a class than from an interface. So the names agree exactly if the graph gets round
each supertype that is not loaded, and if the descriptors get wherever a loaded type with the name
of a supertype leads (`Registry.supertypes?_eq_supertypeNames_iff`). An interface that extends
`java.io.Closeable` fails the first (`Registry.supertypes?_ne_supertypeNames_pipeUnits`).
-/

set_option autoImplicit false

namespace Skeletal

open Relation (ReflTransGen TransGen)

/-! ## Supertypes of descriptors -/

namespace Universe

variable {u : Universe} {t s x : TypeId}

/-- Names of the supertypes of a type but itself, each once and in dictionary order. -/
def supertypeNames (u : Universe) (t : TypeId) : List String :=
  (((u.supertypes t).filter (· ≠ t)).map u.canonical).eraseDups.mergeSort (· ≤ ·)

/-- The type inherits from the other, and both are supertypes of `t`. -/
def InheritsWithin (u : Universe) (t a b : TypeId) : Prop :=
  u.Inherits a b ∧ a ∈ u.supertypes t ∧ b ∈ u.supertypes t

/-- The chain of superclasses is walked over supertypes. -/
theorem reaches_within_of_extends (hu : u.Acyclic) (h : ReflTransGen u.Extends t s) :
    ReflTransGen (u.InheritsWithin t) t s := by
  have hmem : ∀ a, ReflTransGen u.Extends t a → a ∈ u.supertypes t := fun a ha =>
    mem_supertypes_iff_reaches.2 ⟨a, (mem_ancestors_iff hu).2 ha, ReflTransGen.refl⟩
  induction h with
  | refl => exact ReflTransGen.refl
  | @tail a b hta hab ih =>
      exact ih.tail ⟨Extends.inherits hab, hmem a hta, hmem b (hta.tail hab)⟩

/-- A supertype is reached over supertypes. -/
theorem reaches_within_of_mem_supertypes (hu : u.Acyclic) (hs : s ∈ u.supertypes t) :
    ReflTransGen (u.InheritsWithin t) t s := by
  obtain ⟨c, hc, hwalk⟩ := mem_supertypes_iff_reaches.1 hs
  have hmem : ∀ a, Reaches (fun i => (u.get i).interfaces) c a → a ∈ u.supertypes t :=
    fun a ha => mem_supertypes_iff_reaches.2 ⟨c, hc, ha⟩
  -- over interfaces from the class of the chain that the walk begins at
  clear hs
  induction hwalk with
  | refl => exact reaches_within_of_extends hu ((mem_ancestors_iff hu).1 hc)
  | @tail a b hca hab ih =>
      exact ih.tail ⟨inherits_of_mem_interfaces hab, hmem a hca, hmem b (hca.tail hab)⟩

/-- No supertype leads back to the type. -/
theorem ne_of_inherits_of_mem_supertypes (hu : u.Acyclic) (hs : s ∈ u.supertypes t)
    (hsx : u.Inherits s x) : x ≠ t := by
  have hts : ReflTransGen u.Inherits t s :=
    ReflTransGen.mono (fun a b (hab : u.InheritsWithin t a b) => hab.1) t s
      (reaches_within_of_mem_supertypes hu hs)
  rintro rfl
  exact hu x (TransGen.tail' hts hsx)

theorem mem_supertypeWords_iff {name : String} :
    name ∈ (((u.supertypes t).filter (· ≠ t)).map u.canonical).eraseDups ↔
      ∃ s ∈ u.supertypes t, s ≠ t ∧ u.canonical s = name := by
  simp only [List.mem_eraseDups, List.mem_map, List.mem_filter, decide_eq_true_eq, and_assoc]

end Universe

/-! ## Supertypes in the graph -/

namespace Registry

variable {strict : Bool} {units : List SourceUnit} {r : Registry}
  {t s x : TypeId} {a b : String}

theorem graph_eq_ofTypes (h : load strict units = .ok r) :
    r.graph = TypeGraph.ofTypes r.world r.types := by
  obtain ⟨known, skipped, -, rfl⟩ := exists_of_read (read_of_load h)
  rfl

/-- Edges leave loaded types. -/
theorem leads_iff (h : load strict units = .ok r) : r.graph.Leads a b ↔
    ∃ l ∈ r.types, ∃ x, r.world.Inherits l x ∧ r.world.canonical l = a ∧
      r.world.canonical x = b := by
  rw [graph_eq_ofTypes h]
  exact TypeGraph.leads_ofTypes_iff

theorem closed_graph (h : load strict units = .ok r) : r.graph.Closed := by
  rw [graph_eq_ofTypes h]
  exact TypeGraph.closed_ofTypes _ _

/-- Edges never lead back to a name. -/
theorem ne_of_leads (h : load strict units = .ok r) (hleads : TransGen r.graph.Leads a b) :
    b ≠ a := by
  rintro rfl
  exact TypeGraph.no_cycle_of_findCycle? (closed_graph h) (load_eq_ok_iff.1 h).2 b hleads

/-- Descriptors and graph lead on alike from each supertype. What a supertype that is not loaded
inherits from is reached by edges in another way, and what a loaded type with the name of a
supertype inherits from has the name of a supertype. -/
structure Traced (r : Registry) (t : TypeId) : Prop where
  unloaded : ∀ s ∈ r.world.supertypes t, s ∉ r.types → ∀ x ∈ r.world.supertypes t,
    r.world.Inherits s x → TransGen r.graph.Leads (r.world.canonical t) (r.world.canonical x)
  loaded : ∀ s ∈ r.world.supertypes t, ∀ l ∈ r.types, r.world.canonical l = r.world.canonical s →
    ∀ x, r.world.Inherits l x →
      ∃ y ∈ r.world.supertypes t, y ≠ t ∧ r.world.canonical y = r.world.canonical x

/-- What edges lead to is a supertype. -/
theorem Traced.exists_of_leads (h : load strict units = .ok r) (htraced : r.Traced t)
    (hleads : TransGen r.graph.Leads (r.world.canonical t) b) :
    ∃ s ∈ r.world.supertypes t, s ≠ t ∧ r.world.canonical s = b := by
  -- each edge leaves a loaded type, which need not be the supertype of its name
  induction hleads with
  | single hstep =>
      obtain ⟨l, hl, x, hlx, hname, rfl⟩ := (leads_iff h).1 hstep
      exact htraced.loaded t (Universe.self_mem_supertypes _ t) l hl hname x hlx
  | tail _ hstep ih =>
      obtain ⟨s, hs, -, hsame⟩ := ih
      obtain ⟨l, hl, x, hlx, hname, rfl⟩ := (leads_iff h).1 hstep
      exact htraced.loaded s hs l hl (hname.trans hsame.symm) x hlx

/-- Edges lead on to whatever a supertype that they lead to inherits from. -/
theorem Traced.leads_of_inheritsWithin (h : load strict units = .ok r) (htraced : r.Traced t)
    (hsx : r.world.InheritsWithin t s x)
    (hs : ReflTransGen r.graph.Leads (r.world.canonical t) (r.world.canonical s)) :
    TransGen r.graph.Leads (r.world.canonical t) (r.world.canonical x) := by
  obtain ⟨hinherits, hmem, hmem'⟩ := hsx
  by_cases hloaded : s ∈ r.types
  · exact TransGen.tail' hs ((leads_iff h).2 ⟨s, hloaded, x, hinherits, rfl, rfl⟩)
  · exact htraced.unloaded s hmem hloaded x hmem' hinherits

/-- Edges lead to every supertype but the type itself. -/
theorem Traced.leads_of_mem (h : load strict units = .ok r) (htraced : r.Traced t)
    (hs : s ∈ r.world.supertypes t) (hst : s ≠ t) :
    TransGen r.graph.Leads (r.world.canonical t) (r.world.canonical s) := by
  have hreach : ∀ x, ReflTransGen (r.world.InheritsWithin t) t x →
      ReflTransGen r.graph.Leads (r.world.canonical t) (r.world.canonical x) := by
    intro x hx
    induction hx with
    | refl => exact ReflTransGen.refl
    | tail _ hstep ih => exact (htraced.leads_of_inheritsWithin h hstep ih).to_reflTransGen
  rcases (Universe.reaches_within_of_mem_supertypes (acyclic_of_load h).1 hs).cases_tail with
    heq | ⟨a, hta, hstep⟩
  · exact absurd heq hst
  · exact htraced.leads_of_inheritsWithin h hstep (hreach a hta)

/-- The graph and the descriptors agree on the supertypes of a loaded type exactly if they lead on
alike from each of them. -/
theorem supertypes?_eq_supertypeNames_iff (h : load strict units = .ok r) (ht : t ∈ r.types) :
    r.graph.supertypes? (r.world.canonical t) = some (r.world.supertypeNames t) ↔ r.Traced t := by
  have hnode : r.world.canonical t ∈ r.graph.names := by
    rw [graph_eq_ofTypes h]
    exact TypeGraph.canonical_mem_names ht
  have hacyclic := (acyclic_of_load h).1
  rw [Universe.supertypeNames, TypeGraph.supertypes?_eq_some_iff (closed_graph h) hnode
    (nodup_eraseDups _)]
  simp only [Universe.mem_supertypeWords_iff]
  constructor
  · intro hsame
    -- a supertype is the type itself, or its name is reached
    have hreach : ∀ s ∈ r.world.supertypes t,
        ReflTransGen r.graph.Leads (r.world.canonical t) (r.world.canonical s) := by
      intro s hs
      by_cases hst : s = t
      · rw [hst]
      · exact ((hsame _).1 ⟨s, hs, hst, rfl⟩).2.to_reflTransGen
    constructor
    · intro s hs _ x hx hsx
      have hne := Universe.ne_of_inherits_of_mem_supertypes hacyclic hs hsx
      exact ((hsame _).1 ⟨x, hx, hne, rfl⟩).2
    · intro s hs l hl hname x hlx
      have hleads := TransGen.tail' (hreach s hs) ((leads_iff h).2 ⟨l, hl, x, hlx, hname, rfl⟩)
      exact (hsame _).2 ⟨ne_of_leads h hleads, hleads⟩
  · intro htraced name
    constructor
    · rintro ⟨s, hs, hst, rfl⟩
      have hleads := htraced.leads_of_mem h hs hst
      exact ⟨ne_of_leads h hleads, hleads⟩
    · rintro ⟨-, hleads⟩
      exact htraced.exists_of_leads h hleads

/-- A class that implements an interface. -/
def cellUnits : List SourceUnit :=
  [{ code := "package g; public interface I \x7b \x7d" },
    { code := "package g; public abstract class C implements I \x7b \x7d" }]

/-- The graph and the descriptors agree on the supertypes of the class, which are the interface and
the root of all classes. -/
theorem supertypes?_eq_supertypeNames_cellUnits : ∃ r t, load true cellUnits = .ok r ∧
    t ∈ r.types ∧ r.world.canonical t = "g.C" ∧
      r.graph.supertypes? "g.C" = some (r.world.supertypeNames t) := by
  have hloads : loadsTo true cellUnits (fun r =>
      decide (∃ i ∈ r.types, ∃ c ∈ r.types, r.types = [i, c] ∧ r.world.canonical c = "g.C" ∧
        (r.world.get c).superclass = some Standard.object ∧ (r.world.get c).interfaces = [i] ∧
        (r.world.get i).directSupertypes = [] ∧
        (r.world.get Standard.object).directSupertypes = [])) = true := by
    decide +kernel
  obtain ⟨r, hload, htest⟩ := exists_of_loadsTo hloads
  obtain ⟨i, -, c, hc, htypes, hname, hclass, hinterfaces, hi, hroot⟩ := of_decide_eq_true htest
  have hacyclic := (acyclic_of_load hload).1
  have hdirect : ∀ x, r.world.Inherits c x ↔ x = Standard.object ∨ x = i := by
    intro x
    simp [Universe.Inherits, Descriptor.directSupertypes, hclass, hinterfaces]
  -- the class and its two direct supertypes are all there is
  have hall : ∀ s ∈ r.world.supertypes c, s = c ∨ s = Standard.object ∨ s = i := by
    intro s hs
    induction Universe.reaches_within_of_mem_supertypes hacyclic hs with
    | refl => exact Or.inl rfl
    | @tail a b _ hab ih =>
        obtain ⟨hinherits, ha, -⟩ := hab
        rcases ih ha with rfl | rfl | rfl
        · exact Or.inr ((hdirect b).1 hinherits)
        · rw [Universe.Inherits, hroot] at hinherits
          exact absurd hinherits List.not_mem_nil
        · rw [Universe.Inherits, hi] at hinherits
          exact absurd hinherits List.not_mem_nil
  have hmem : ∀ x, r.world.Inherits c x → x ∈ r.world.supertypes c := by
    intro x hcx
    rcases (hdirect x).1 hcx with rfl | rfl
    · exact Universe.mem_supertypes_iff_reaches.2 ⟨Standard.object,
        (Universe.mem_ancestors_iff hacyclic).2 (ReflTransGen.single hclass), ReflTransGen.refl⟩
    · exact Universe.mem_supertypes_iff_reaches.2 ⟨c, Universe.self_mem_ancestors _ c,
        ReflTransGen.single (by simp [hinterfaces])⟩
  refine ⟨r, c, hload, hc, hname, ?_⟩
  rw [← hname, supertypes?_eq_supertypeNames_iff hload hc]
  constructor
  · intro s hs hunloaded x _ hsx
    rcases hall s hs with rfl | rfl | rfl
    · exact absurd hc hunloaded
    · rw [Universe.Inherits, hroot] at hsx
      exact absurd hsx List.not_mem_nil
    · exact absurd (by simp [htypes]) hunloaded
  · intro s _ l hl _ x hlx
    rw [htypes, List.mem_pair] at hl
    rcases hl with rfl | rfl
    · rw [Universe.Inherits, hi] at hlx
      exact absurd hlx List.not_mem_nil
    · exact ⟨x, hmem x hlx, Universe.ne_of_inherits_of_mem_supertypes hacyclic
        (Universe.self_mem_supertypes _ l) hlx, rfl⟩

/-- An interface that extends a standard one, which extends a standard one in turn. -/
def pipeUnits : List SourceUnit :=
  [{ code := "package p; public interface Pipe extends java.io.Closeable \x7b \x7d" }]

/-- The graph ends at the first standard interface, and the descriptors go on to the second. -/
theorem supertypes?_ne_supertypeNames_pipeUnits : ∃ r t, load true pipeUnits = .ok r ∧
    t ∈ r.types ∧ r.world.canonical t = "p.Pipe" ∧
      r.graph.supertypes? "p.Pipe" ≠ some (r.world.supertypeNames t) := by
  have hloads : loadsTo true pipeUnits (fun r =>
      decide (∃ t ∈ r.types, r.world.canonical t = "p.Pipe" ∧
        (r.world.get t).interfaces = [Standard.closeable] ∧ t ≠ Standard.autoCloseable ∧
        (r.world.get Standard.closeable).interfaces = [Standard.autoCloseable] ∧
        r.world.canonical Standard.autoCloseable = "java.lang.AutoCloseable" ∧
        "p.Pipe" ∈ r.graph.names ∧
        r.graph.edges = [⟨"p.Pipe", "java.io.Closeable", .implements⟩])) = true := by
    decide +kernel
  obtain ⟨r, hload, htest⟩ := exists_of_loadsTo hloads
  obtain ⟨t, ht, hname, hinterfaces, hne, habove, htarget, hnode, hedges⟩ :=
    of_decide_eq_true htest
  refine ⟨r, t, hload, ht, hname, fun heq => ?_⟩
  rw [Universe.supertypeNames, TypeGraph.supertypes?_eq_some_iff (closed_graph hload) hnode
    (nodup_eraseDups _)] at heq
  -- the descriptors get to it over `java.io.Closeable`
  have hmem : Standard.autoCloseable ∈ r.world.supertypes t := by
    have hfirst : Standard.closeable ∈ (r.world.get t).interfaces := by simp [hinterfaces]
    have hsecond : Standard.autoCloseable ∈ (r.world.get Standard.closeable).interfaces := by
      simp [habove]
    exact Universe.mem_supertypes_iff_reaches.2 ⟨t, Universe.self_mem_ancestors _ t,
      ReflTransGen.head hfirst (ReflTransGen.single hsecond)⟩
  obtain ⟨-, hleads⟩ := (heq "java.lang.AutoCloseable").1
    (Universe.mem_supertypeWords_iff.2 ⟨_, hmem, hne.symm, htarget⟩)
  -- the only edge leads elsewhere
  obtain ⟨b, -, e, he, -, htarget⟩ := (TransGen.tail'_iff).1 hleads
  rw [hedges, List.mem_singleton] at he
  rw [he] at htarget
  exact absurd htarget (by decide)

end Registry

end Skeletal
