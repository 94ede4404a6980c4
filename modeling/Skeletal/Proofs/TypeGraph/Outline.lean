import Skeletal.Proofs.TypeGraph.Reached
import Skeletal.TypeGraph.Outline

/-!
# What linked graphs tell

A graph of linked types tells of each name once. Linking a type makes it the one that describes its
name, and names its supertypes where they have no node yet (`typeAt?_link`). So over any sequence of
types a name is described by the last linked type that has it, and by the first supertype that has
it if no linked type does (`typeAt?_ofTypes`). All edges are told, equal ones each on their own
(`perm_orderedEdges`).
-/

set_option autoImplicit false

/-- Items grouped by distinct keys that cover them are the items. -/
theorem List.Perm.flatMap_filter {α κ : Type} [DecidableEq κ] {keys : List κ} {items : List α}
    {key : α → κ} (hkeys : keys.Nodup) (h : ∀ item ∈ items, key item ∈ keys) :
    (keys.flatMap fun k => items.filter fun item => key item = k).Perm items := by
  induction keys generalizing items with
  | nil =>
      have hnone : items = [] := List.eq_nil_iff_forall_not_mem.2 fun item hitem =>
        List.not_mem_nil (h item hitem)
      rw [hnone]
      rfl
  | cons k rest ih =>
      obtain ⟨hk, hrest⟩ := List.nodup_cons.1 hkeys
      -- the later groups are made of the items that have other keys
      have hothers : (rest.flatMap fun k' => items.filter fun item => key item = k') =
          rest.flatMap fun k' =>
            (items.filter fun item => !decide (key item = k)).filter fun item => key item = k' := by
        refine List.flatMap_congr fun k' hk' => ?_
        rw [List.filter_filter]
        refine List.filter_congr fun item _ => ?_
        by_cases hitem : key item = k'
        · have hne : key item ≠ k := fun heq => hk (heq ▸ hitem ▸ hk')
          simp [hitem, hitem ▸ hne]
        · simp [hitem]
      have hcovered : ∀ item ∈ items.filter fun item => !decide (key item = k),
          key item ∈ rest := by
        intro item hitem
        obtain ⟨hmem, hne⟩ := List.mem_filter.1 hitem
        exact (List.mem_cons.1 (h item hmem)).resolve_left (by simpa using hne)
      rw [List.flatMap_cons, hothers]
      exact ((ih hrest hcovered).append_left _).trans
        (List.filter_append_perm (fun item => decide (key item = k)) items)

namespace Skeletal.TypeGraph

variable {u : Universe} {t s : TypeId} {g : TypeGraph} {name : String} {kind : EdgeKind}
  {types : List TypeId}

/-! ## Nodes -/

/-- Type that describes the node of a name. -/
def typeAt? (g : TypeGraph) (name : String) : Option TypeId :=
  (g.nodes.find? fun node => node.name = name).map TypeNode.type

/-- First of the types that has a name. -/
def firstNamed? (u : Universe) (name : String) (types : List TypeId) : Option TypeId :=
  types.find? fun t => u.canonical t = name

/-- The type that is to describe a name after types were linked: the last of them that has the name
or, if none has it, the first direct supertype that does. -/
def describing? (u : Universe) (types : List TypeId) (name : String) : Option TypeId :=
  (firstNamed? u name types.reverse).or
    (firstNamed? u name (types.flatMap fun t => (u.get t).directSupertypes))

theorem find?_setNode (nodes : List TypeNode) {other : String} :
    (setNode other t nodes).find? (fun node => node.name = name) =
      if other = name then some ⟨other, t⟩ else nodes.find? fun node => node.name = name := by
  induction nodes with
  | nil => by_cases h : other = name <;> simp [setNode, h]
  | cons node rest ih =>
      rw [setNode]
      by_cases hnode : node.name = other
      · rw [if_pos hnode, List.find?_cons, List.find?_cons, hnode]
        by_cases h : other = name <;> simp [h]
      · rw [if_neg hnode, List.find?_cons, List.find?_cons, ih]
        by_cases h : other = name
        · have hne : node.name ≠ name := h ▸ hnode
          simp [h, hne]
        · simp [h]

theorem typeAt?_describe : (g.describe u t).typeAt? name =
    if u.canonical t = name then some t else g.typeAt? name := by
  rw [typeAt?, describe, find?_setNode]
  split_ifs <;> rfl

theorem typeAt?_eq_none_iff : g.typeAt? name = none ↔ name ∉ g.names := by
  simp [typeAt?, names]

/-- A mention leaves the nodes that there are. -/
theorem typeAt?_mention : (g.mention u s).typeAt? name =
    (g.typeAt? name).or (firstNamed? u name [s]) := by
  have hnone : g.typeAt? name = none ↔ name ∉ g.names := typeAt?_eq_none_iff
  rw [mention, firstNamed?]
  split_ifs with hnode
  · by_cases hname : u.canonical s = name
    · obtain ⟨other, hother⟩ := Option.ne_none_iff_exists'.1 fun h => hnone.1 h (hname ▸ hnode)
      rw [hother, Option.some_or]
    · simp [hname]
  · rw [typeAt?_describe]
    by_cases hname : u.canonical s = name
    · rw [hnone.2 (hname ▸ hnode)]
      simp [hname]
    · simp [hname]

theorem typeAt?_foldl_connect {above : List TypeId} :
    (above.foldl (connect u t kind) g).typeAt? name =
      (g.typeAt? name).or (firstNamed? u name above) := by
  induction above generalizing g with
  | nil => simp [firstNamed?]
  | cons s rest ih =>
      have hconnect : (connect u t kind g s).typeAt? name = (g.mention u s).typeAt? name := rfl
      rw [List.foldl_cons, ih, hconnect, typeAt?_mention, Option.or_assoc, firstNamed?, firstNamed?,
        firstNamed?, ← List.find?_append, List.singleton_append]

/-- Linking makes a type the one that describes its name, and its supertypes those that describe
names without a node. -/
theorem typeAt?_link : (link u g t).typeAt? name =
    if u.canonical t = name then some t
    else (g.typeAt? name).or (firstNamed? u name (u.get t).directSupertypes) := by
  simp only [link, typeAt?_foldl_connect, typeAt?_describe, Descriptor.directSupertypes,
    firstNamed?, List.find?_append]
  split_ifs
  · rfl
  · rw [Option.or_assoc]

theorem typeAt?_foldl_link : (types.foldl (link u) g).typeAt? name =
    (firstNamed? u name types.reverse).or ((g.typeAt? name).or
      (firstNamed? u name (types.flatMap fun t => (u.get t).directSupertypes))) := by
  induction types generalizing g with
  | nil => simp [firstNamed?]
  | cons t rest ih =>
      rw [List.foldl_cons, ih, typeAt?_link]
      simp only [firstNamed?, List.reverse_cons, List.find?_append, List.flatMap_cons]
      cases rest.reverse.find? fun t => decide (u.canonical t = name) with
      | some last => rfl
      | none =>
          by_cases h : u.canonical t = name
          · simp [h]
          · simp [h, Option.or_assoc]

/-- After types were linked a name is described by the type that is to describe it. -/
theorem typeAt?_ofTypes : (ofTypes u types).typeAt? name = describing? u types name :=
  typeAt?_foldl_link

/-! ## Edges -/

/-- The edges that are told are those of the graph, if all of them leave nodes. -/
theorem perm_orderedEdges (hnames : g.names.Nodup) (hg : g.Closed) :
    g.orderedEdges.Perm g.edges := by
  have htargets : ∀ name, ((g.successors name).flatMap fun target =>
      (g.edgesFrom name).filter fun e => e.target = target).Perm (g.edgesFrom name) := by
    intro name
    refine List.Perm.flatMap_filter (nodup_eraseDups _) fun e he => ?_
    exact List.mem_eraseDups.2 (List.mem_map_of_mem he)
  exact (List.Perm.flatMap_left _ fun name _ => htargets name).trans
    (List.Perm.flatMap_filter hnames fun e he => (hg e he).1)

/-! ## Outlines -/

theorem nodup_names_describe (h : g.names.Nodup) : (g.describe u t).names.Nodup := by
  rw [names, describe, map_name_setNode]
  split_ifs with hname
  · exact h
  · exact List.nodup_append'.2 ⟨h, List.nodup_singleton _, List.disjoint_singleton.2 hname⟩

theorem nodup_names_connect (h : g.names.Nodup) : (connect u t kind g s).names.Nodup := by
  have hmention : (g.mention u s).names.Nodup := by
    rw [mention]
    split_ifs
    · exact h
    · exact nodup_names_describe h
  exact hmention

theorem nodup_names_foldl {α : Type} {step : TypeGraph → α → TypeGraph}
    (hstep : ∀ g a, g.names.Nodup → (step g a).names.Nodup) (items : List α)
    (h : g.names.Nodup) : (items.foldl step g).names.Nodup := by
  induction items generalizing g with
  | nil => exact h
  | cons a rest ih => exact ih (hstep g a h)

theorem nodup_names_link (h : g.names.Nodup) : (link u g t).names.Nodup :=
  nodup_names_foldl (fun _ _ => nodup_names_connect) _
    (nodup_names_foldl (fun _ _ => nodup_names_connect) _ (nodup_names_describe h))

/-- No two nodes of a graph of linked types have one name. -/
theorem nodup_names_ofTypes (u : Universe) (types : List TypeId) :
    (ofTypes u types).names.Nodup :=
  nodup_names_foldl (fun _ _ => nodup_names_link) types List.nodup_nil

theorem typeAt?_of_mem (hnames : g.names.Nodup) {node : TypeNode} (h : node ∈ g.nodes) :
    g.typeAt? node.name = some node.type := by
  rw [typeAt?]
  cases hfind : g.nodes.find? fun other => other.name = node.name with
  | none => simpa using List.find?_eq_none.1 hfind node h
  | some other =>
      have hname : other.name = node.name := by simpa using List.find?_some hfind
      rw [List.inj_on_of_nodup_map hnames (List.mem_of_find?_eq_some hfind) h hname]
      rfl

theorem map_id_outline (u : Universe) (g : TypeGraph) :
    (g.outline u).nodes.map NodeOutline.id = g.names := by
  rw [outline, List.map_map]
  rfl

/-- A linked type leaves its name to none but a linked type. -/
theorem exists_describing?_of_mem (h : t ∈ types) : ∃ s ∈ types,
    u.canonical s = u.canonical t ∧ describing? u types (u.canonical t) = some s := by
  cases hlast : firstNamed? u (u.canonical t) types.reverse with
  | none => simpa using List.find?_eq_none.1 hlast t (List.mem_reverse.2 h)
  | some s =>
      refine ⟨s, List.mem_reverse.1 (List.mem_of_find?_eq_some hlast), ?_, ?_⟩
      · simpa using List.find?_some hlast
      · rw [describing?, hlast, Option.some_or]

/-- What a graph tells after any sequence of links. Its nodes have different names, which are those
of the linked types and of their direct supertypes. Each tells the kind, the names and modifiers,
the number of constructors, the methods and the origin of one type: the last linked type of its name
or, if there is none, the first direct supertype that has it, so that the name of a linked type is
left to linked types. The edges are those of each linked type in turn, one to its superclass and one
to each interface. -/
theorem outline_ofTypes (u : Universe) (types : List TypeId) :
    (((ofTypes u types).outline u).nodes.map NodeOutline.id).Nodup ∧
      (∀ id, id ∈ ((ofTypes u types).outline u).nodes.map NodeOutline.id ↔
        ∃ t ∈ types, id = u.canonical t ∨ ∃ s ∈ (u.get t).directSupertypes, id = u.canonical s) ∧
      (∀ node ∈ ((ofTypes u types).outline u).nodes, ∃ t,
        describing? u types node.id = some t ∧
          node = { id := node.id
                   kind := (u.get t).kind
                   name := (u.get t).name
                   package := (u.get t).package
                   modifiers := (u.get t).modifiers
                   constructors := (u.get t).constructors.length
                   methods := (u.get t).methods.map Member.name
                   origin := (u.get t).origin
                   membersUnknown := (u.get t).membersUnknown }) ∧
      (∀ t ∈ types, ∃ s ∈ types, u.canonical s = u.canonical t ∧
        describing? u types (u.canonical t) = some s) ∧
      ((ofTypes u types).outline u).edges.Perm (types.flatMap (edgesOf u)) := by
  rw [map_id_outline]
  refine ⟨nodup_names_ofTypes u types, fun id => ?_, ?_, fun t => exists_describing?_of_mem, ?_⟩
  · rw [ofTypes, mem_names_foldl_link]
    exact or_iff_right List.not_mem_nil
  · intro outline houtline
    obtain ⟨node, hnode, rfl⟩ := List.mem_map.1 houtline
    refine ⟨node.type, ?_, rfl⟩
    rw [← typeAt?_ofTypes]
    exact typeAt?_of_mem (nodup_names_ofTypes u types) hnode
  · rw [← edges_ofTypes]
    exact perm_orderedEdges (nodup_names_ofTypes u types) (closed_ofTypes u types)

/-- A placeholder, an interface of its name and a class that implements the placeholder. -/
def sharedName : Universe :=
  ⟨#[{ name := "I", canonical := "p.I", membersUnknown := true },
     { name := "I", canonical := "p.I", kind := .interfaceType },
     { name := "A", canonical := "p.A", interfaces := [0] }]⟩

/-- The placeholder has the node only until the interface is linked. -/
example : (ofTypes sharedName [2]).nodes = [⟨"p.A", 2⟩, ⟨"p.I", 0⟩] ∧
    (ofTypes sharedName [2, 1]).nodes = [⟨"p.A", 2⟩, ⟨"p.I", 1⟩] ∧
    (ofTypes sharedName [1, 2]).nodes = [⟨"p.I", 1⟩, ⟨"p.A", 2⟩] := by
  decide +kernel

end Skeletal.TypeGraph
