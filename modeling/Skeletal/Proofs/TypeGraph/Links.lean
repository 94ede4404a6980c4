import Skeletal.Proofs.TypeGraph.Cycle

/-!
# Linked graphs

The edges of a graph of linked types are those of the types one after another (`edges_ofTypes`):
an edge to the superclass and one to each interface. All their ends are nodes. So the check for
cycles is exact (`checkAcyclic_ofTypes`).
-/

set_option autoImplicit false

namespace Skeletal.TypeGraph

/-- Edges from a type to its direct supertypes. -/
def edgesOf (u : Universe) (t : TypeId) : List TypeEdge :=
  (u.get t).superclass.toList.map (fun s => ⟨u.canonical t, u.canonical s, .inherits⟩) ++
    (u.get t).interfaces.map fun s => ⟨u.canonical t, u.canonical s, .implements⟩

variable {u : Universe} {t s : TypeId} {g : TypeGraph} {name : String} {kind : EdgeKind}

/-! ## Names -/

/-- A node that is set keeps its place among the names, and a new one comes last. -/
theorem map_name_setNode (nodes : List TypeNode) : (setNode name t nodes).map TypeNode.name =
    if name ∈ nodes.map TypeNode.name then nodes.map TypeNode.name
    else nodes.map TypeNode.name ++ [name] := by
  induction nodes with
  | nil => rfl
  | cons node rest ih =>
      rw [setNode]
      by_cases hnode : node.name = name
      · simp [hnode]
      · rw [if_neg hnode, List.map_cons, ih]
        simp only [List.map_cons, List.mem_cons]
        by_cases hrest : name ∈ rest.map TypeNode.name
        · simp only [hrest, or_true, if_true]
        · simp only [hrest, Ne.symm hnode, or_self, if_false, List.cons_append]

theorem mem_map_name_setNode {nodes : List TypeNode} {other : String} :
    other ∈ (setNode name t nodes).map TypeNode.name ↔
      other ∈ nodes.map TypeNode.name ∨ other = name := by
  rw [map_name_setNode]
  split_ifs with hname
  · exact (or_iff_left_of_imp fun heq => heq ▸ hname).symm
  · rw [List.mem_append, List.mem_singleton]

theorem mem_names_describe :
    name ∈ (g.describe u t).names ↔ name ∈ g.names ∨ name = u.canonical t :=
  mem_map_name_setNode

theorem mem_names_mention :
    name ∈ (g.mention u t).names ↔ name ∈ g.names ∨ name = u.canonical t := by
  rw [mention]
  split_ifs with h
  · constructor
    · exact Or.inl
    · rintro (hname | rfl)
      · exact hname
      · exact h
  · exact mem_names_describe

theorem mem_names_connect : name ∈ (connect u t kind g s).names ↔
    name ∈ g.names ∨ name = u.canonical s :=
  mem_names_mention

theorem mem_names_foldl_connect {above : List TypeId} :
    name ∈ (above.foldl (connect u t kind) g).names ↔
      name ∈ g.names ∨ ∃ s ∈ above, name = u.canonical s := by
  induction above generalizing g with
  | nil => simp
  | cons s rest ih => simp [ih, mem_names_connect, or_assoc]

/-- Linking adds the names of a type and of its direct supertypes. -/
theorem mem_names_link : name ∈ (link u g t).names ↔
    name ∈ g.names ∨ name = u.canonical t ∨
      ∃ s ∈ (u.get t).directSupertypes, name = u.canonical s := by
  simp only [link, mem_names_foldl_connect, mem_names_describe, Descriptor.directSupertypes,
    List.mem_append, or_and_right, exists_or, or_assoc]

/-! ## Edges -/

theorem edges_describe : (g.describe u t).edges = g.edges := rfl

theorem edges_connect :
    (connect u t kind g s).edges = g.edges ++ [⟨u.canonical t, u.canonical s, kind⟩] := by
  simp only [connect, mention]
  split_ifs <;> rfl

theorem edges_foldl_connect {above : List TypeId} :
    (above.foldl (connect u t kind) g).edges =
      g.edges ++ above.map fun s => ⟨u.canonical t, u.canonical s, kind⟩ := by
  induction above generalizing g with
  | nil => simp
  | cons s rest ih => simp [ih, edges_connect]

/-- Linking adds the edges of the type. -/
theorem edges_link : (link u g t).edges = g.edges ++ edgesOf u t := by
  simp only [link, edges_foldl_connect, edges_describe, edgesOf, List.append_assoc]

theorem edges_foldl_link {types : List TypeId} :
    (types.foldl (link u) g).edges = g.edges ++ types.flatMap (edgesOf u) := by
  induction types generalizing g with
  | nil => simp
  | cons t rest ih => simp [ih, edges_link]

/-- The edges of a graph are those of its types. -/
theorem edges_ofTypes (u : Universe) (types : List TypeId) :
    (ofTypes u types).edges = types.flatMap (edgesOf u) := by
  rw [ofTypes, edges_foldl_link]
  rfl

/-! ## Leading names -/

theorem exists_mem_edgesOf_iff {a b : String} :
    (∃ e ∈ edgesOf u t, e.source = a ∧ e.target = b) ↔
      ∃ s ∈ (u.get t).directSupertypes, u.canonical t = a ∧ u.canonical s = b := by
  simp only [edgesOf, Descriptor.directSupertypes, List.mem_append, List.mem_map, or_and_right,
    exists_or, exists_exists_and_eq_and]

/-- One name leads to another if a linked type with the one inherits from a type with the other. -/
theorem leads_ofTypes_iff {types : List TypeId} {a b : String} : (ofTypes u types).Leads a b ↔
    ∃ t ∈ types, ∃ s ∈ (u.get t).directSupertypes, u.canonical t = a ∧ u.canonical s = b := by
  simp only [Leads, edges_ofTypes, List.mem_flatMap, ← exists_mem_edgesOf_iff]
  constructor
  · rintro ⟨e, ⟨t, ht, he⟩, hends⟩
    exact ⟨t, ht, e, he, hends⟩
  · rintro ⟨t, ht, e, he, hends⟩
    exact ⟨e, ⟨t, ht, he⟩, hends⟩

theorem closed_link (hg : g.Closed) : (link u g t).Closed := by
  intro e he
  rw [edges_link, List.mem_append] at he
  rw [mem_names_link, mem_names_link]
  rcases he with he | he
  · exact ⟨Or.inl (hg e he).1, Or.inl (hg e he).2⟩
  · obtain ⟨s, hs, hsource, htarget⟩ := exists_mem_edgesOf_iff.1 ⟨e, he, rfl, rfl⟩
    exact ⟨Or.inr (Or.inl hsource.symm), Or.inr (Or.inr ⟨s, hs, htarget.symm⟩)⟩

theorem closed_ofTypes (u : Universe) (types : List TypeId) : (ofTypes u types).Closed := by
  have hfold : ∀ g : TypeGraph, g.Closed → (types.foldl (link u) g).Closed := by
    induction types with
    | nil => exact fun g hg => hg
    | cons t rest ih => exact fun g hg => ih _ (closed_link hg)
  exact hfold empty fun e he => absurd he List.not_mem_nil

/-! ## The check for cycles -/

/-- The check of linked types is exact, whatever they have in common and in whatever order they are
linked. It passes if and only if no name leads back to itself. Otherwise it gives an error whose
text lists the names of a cycle, each of which leads to the next one, and the last to the first. The
steps are those from a linked type to a direct supertype. -/
theorem checkAcyclic_ofTypes (u : Universe) (types : List TypeId) :
    ((ofTypes u types).checkAcyclic = .ok () ↔
        ∀ name, ¬ Relation.TransGen (ofTypes u types).Leads name name) ∧
      (∀ e, (ofTypes u types).checkAcyclic = .error e → ∃ cycle,
        (ofTypes u types).IsCycle cycle ∧
          e.text = "Cyclic inheritance: " ++ " -> ".intercalate cycle) ∧
      ∀ a b, (ofTypes u types).Leads a b ↔ ∃ t ∈ types, ∃ s ∈ (u.get t).directSupertypes,
        u.canonical t = a ∧ u.canonical s = b := by
  refine ⟨?_, fun e he => ?_, fun a b => leads_ofTypes_iff⟩
  · rw [checkAcyclic_eq_ok_iff]
    refine ⟨no_cycle_of_findCycle? (closed_ofTypes u types), fun hnone => ?_⟩
    cases hfound : (ofTypes u types).findCycle? with
    | none => rfl
    | some cycle =>
        obtain ⟨name, hname⟩ := exists_cycle_of_findCycle? hfound
        exact absurd hname (hnone name)
  · obtain ⟨cycle, hfound, rfl⟩ := checkAcyclic_eq_error_iff.1 he
    exact ⟨cycle, isCycle_of_findCycle? hfound, rfl⟩

/-- A class whose superclass implements interfaces that extend each other in a circle, and a class
of the same name without supertypes. -/
def enteredCircle : Universe :=
  ⟨#[{ name := "A", canonical := "A", superclass := some 1 },
     { name := "B", canonical := "B", interfaces := [2, 3] },
     { name := "I", canonical := "I", kind := .interfaceType, interfaces := [3] },
     { name := "J", canonical := "J", kind := .interfaceType, interfaces := [2] },
     { name := "A", canonical := "A" }]⟩

/-- The way into the circle is not part of the cycle. -/
example : (ofTypes enteredCircle [0, 1, 2, 3, 4]).checkAcyclic =
    .error ⟨"Cyclic inheritance: I -> J"⟩ := by
  decide +kernel

example : (ofTypes enteredCircle [0, 1, 3, 4]).checkAcyclic = .ok () := by
  decide +kernel

end Skeletal.TypeGraph
