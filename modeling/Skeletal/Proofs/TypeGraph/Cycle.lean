import Mathlib.Data.List.Chain
import Mathlib.Data.List.Nodup
import Mathlib.Data.List.Perm.Subperm
import Mathlib.Logic.Relation
import Skeletal.Proofs.Attempt
import Skeletal.TypeGraph.Cycle

/-!
# Search for cycles

The search lists a name once it is done, in front of the names that were done before it. The
invariant is that whatever a done name leads to stands behind it (`Settled`), so that no done name
leads back to itself. A search that finds nothing has done all names, and the graph has no cycle
(`no_cycle_of_findCycle?`). The bound on the depth is never met: the names on the path are
different nodes. A search that finds something has come back to a name on its path, and what it
finds is the part of the path from there on (`isCycle_of_findCycle?`).
-/

set_option autoImplicit false

namespace Skeletal.TypeGraph

/-- An edge goes from `a` to `b`. -/
def Leads (g : TypeGraph) (a b : String) : Prop := ∃ e ∈ g.edges, e.source = a ∧ e.target = b

/-- Both ends of every edge are nodes. -/
def Closed (g : TypeGraph) : Prop := ∀ e ∈ g.edges, e.source ∈ g.names ∧ e.target ∈ g.names

/-- Whatever a name of the list leads to stands behind it. -/
def Settled (g : TypeGraph) : List String → Prop
  | [] => True
  | name :: rest => (∀ next, g.Leads name next → next ∈ rest) ∧ Settled g rest

variable {g : TypeGraph} {name next : String} {finished finished' path : List String}

theorem mem_successors : next ∈ g.successors name ↔ g.Leads name next := by
  rw [successors, List.mem_eraseDups, List.mem_map, edgesFrom]
  simp only [List.mem_filter, decide_eq_true_eq, and_assoc, Leads]

theorem Closed.mem_names (hg : g.Closed) (h : g.Leads name next) : next ∈ g.names := by
  obtain ⟨e, he, -, rfl⟩ := h
  exact (hg e he).2

/-! ## Settled names -/

theorem Settled.leads (h : g.Settled finished) (hname : name ∈ finished)
    (hnext : Relation.TransGen g.Leads name next) : next ∈ finished := by
  induction finished generalizing name with
  | nil => exact absurd hname List.not_mem_nil
  | cons first rest ih =>
      obtain ⟨hfirst, hrest⟩ := h
      rcases List.mem_cons.1 hname with rfl | hname
      · -- the first step leads behind the name, and nothing leads out of what is settled there
        obtain ⟨step, hstep, hsteps⟩ := Relation.TransGen.head'_iff.1 hnext
        rcases Relation.reflTransGen_iff_eq_or_transGen.1 hsteps with rfl | hsteps
        · exact List.mem_cons_of_mem _ (hfirst next hstep)
        · exact List.mem_cons_of_mem _ (ih hrest (hfirst step hstep) hsteps)
      · exact List.mem_cons_of_mem _ (ih hrest hname hnext)

/-- No settled name leads back to itself. -/
theorem Settled.not_leads_self (h : g.Settled finished) (hname : name ∈ finished) :
    ¬ Relation.TransGen g.Leads name name := by
  induction finished with
  | nil => exact absurd hname List.not_mem_nil
  | cons first rest ih =>
      obtain ⟨hfirst, hrest⟩ := h
      intro hcycle
      by_cases hmem : name ∈ rest
      · exact ih hrest hmem hcycle
      · obtain rfl := (List.mem_cons.1 hname).resolve_right hmem
        obtain ⟨step, hstep, hsteps⟩ := Relation.TransGen.head'_iff.1 hcycle
        rcases Relation.reflTransGen_iff_eq_or_transGen.1 hsteps with rfl | hsteps
        · exact hmem (hfirst _ hstep)
        · exact hmem (hrest.leads (hfirst step hstep) hsteps)

/-! ## The search -/

/-- A search over names in turn, each of which it settles, settles them all. -/
theorem settled_of_foldlM {ε : Type} {step : List String → String → Except ε (List String)}
    {names : List String} (hstep : ∀ finished finished', ∀ next ∈ names, g.Settled finished →
      step finished next = .ok finished' →
        g.Settled finished' ∧ finished ⊆ finished' ∧ next ∈ finished')
    (hfinished : g.Settled finished) (h : names.foldlM step finished = .ok finished') :
    g.Settled finished' ∧ finished ⊆ finished' ∧ ∀ next ∈ names, next ∈ finished' := by
  induction names generalizing finished with
  | nil =>
      obtain rfl := Except.ok.inj h
      exact ⟨hfinished, List.Subset.refl _, fun _ hn => absurd hn List.not_mem_nil⟩
  | cons first rest ih =>
      rw [List.foldlM_cons, bind_eq_ok_iff] at h
      obtain ⟨middle, hfirst, hrest⟩ := h
      obtain ⟨hmiddle, hsub, hmem⟩ := hstep _ _ first List.mem_cons_self hfinished hfirst
      obtain ⟨hsettled, hsub', hall⟩ := ih
        (fun f f' n hn => hstep f f' n (List.mem_cons_of_mem first hn)) hmiddle hrest
      refine ⟨hsettled, List.Subset.trans hsub hsub', ?_⟩
      intro n hn
      rcases List.mem_cons.1 hn with rfl | hn
      · exact hsub' hmem
      · exact hall n hn

/-- A search below a name settles it. The names on the path are different nodes, so that the depth
lasts. -/
theorem settled_of_searchCycle (hg : g.Closed) (depth : Nat)
    (hdepth : g.nodes.length ≤ depth + path.length) (hpath : (name :: path).Nodup)
    (hnodes : name :: path ⊆ g.names) (hfinished : g.Settled finished)
    (h : g.searchCycle depth path finished name = .ok finished') :
    g.Settled finished' ∧ finished ⊆ finished' ∧ name ∈ finished' := by
  induction depth generalizing path name finished finished' with
  | zero =>
      -- the path would have more names than there are nodes
      have hle := (List.subperm_of_subset hpath hnodes).length_le
      simp only [names, List.length_map, List.length_cons] at hle
      omega
  | succ depth ih =>
      rw [searchCycle, bind_eq_ok_iff] at h
      obtain ⟨below, hbelow, h⟩ := h
      obtain rfl := Except.ok.inj h
      have hstep : ∀ finished finished', ∀ next ∈ g.successors name, g.Settled finished →
          (if next ∈ name :: path then .error (cycleFrom next (name :: path))
            else if next ∈ finished then .ok finished
            else g.searchCycle depth (name :: path) finished next) = .ok finished' →
          g.Settled finished' ∧ finished ⊆ finished' ∧ next ∈ finished' := by
        intro finished finished' next hnext hfinished h
        -- a name on the path would have ended the search with a cycle
        split_ifs at h with honPath hdone
        · obtain rfl := Except.ok.inj h
          exact ⟨hfinished, List.Subset.refl _, hdone⟩
        · refine ih ?_ (List.nodup_cons.2 ⟨honPath, hpath⟩) ?_ hfinished h
          · simp only [List.length_cons]
            omega
          · exact List.cons_subset.2 ⟨hg.mem_names (mem_successors.1 hnext), hnodes⟩
      obtain ⟨hsettled, hsub, hall⟩ := settled_of_foldlM hstep hfinished hbelow
      refine ⟨⟨?_, hsettled⟩, List.subset_cons_of_subset _ hsub, List.mem_cons_self⟩
      intro next hnext
      exact hall next (mem_successors.2 hnext)

/-- Where the search finds no cycle, there is none. -/
theorem no_cycle_of_findCycle? (hg : g.Closed) (h : g.findCycle? = none) (name : String) :
    ¬ Relation.TransGen g.Leads name name := by
  rw [findCycle?] at h
  split at h
  · exact absurd h nofun
  · rename_i finished hsearch
    have hstep : ∀ finished finished', ∀ next ∈ g.names, g.Settled finished →
        (if next ∈ finished then .ok finished
          else g.searchCycle g.nodes.length [] finished next) = .ok finished' →
        g.Settled finished' ∧ finished ⊆ finished' ∧ next ∈ finished' := by
      intro finished finished' next hnext hfinished h
      split_ifs at h with hdone
      · obtain rfl := Except.ok.inj h
        exact ⟨hfinished, List.Subset.refl _, hdone⟩
      · exact settled_of_searchCycle hg _ (by simp) (List.nodup_singleton next) (by simpa)
          hfinished h
    obtain ⟨hsettled, -, hall⟩ := settled_of_foldlM hstep (show g.Settled [] from trivial) hsearch
    intro hcycle
    -- a name on a cycle has an edge to it, so that it is a node
    obtain ⟨last, -, hlast⟩ := Relation.TransGen.tail'_iff.1 hcycle
    exact hsettled.not_leads_self (hall name (hg.mem_names hlast)) hcycle

/-! ## Cycles that are found -/

/-- Different names that each lead to the next one, the last to the first. -/
structure IsCycle (g : TypeGraph) (cycle : List String) : Prop where
  nodup : cycle.Nodup
  leads : cycle.IsChain g.Leads
  closes : ∃ h : cycle ≠ [], g.Leads (cycle.getLast h) (cycle.head h)

/-- Different names, latest first, each of which is led to by the one behind it. -/
structure IsPath (g : TypeGraph) (path : List String) : Prop where
  nodup : path.Nodup
  leads : path.IsChain fun a b => g.Leads b a

theorem isPath_singleton (g : TypeGraph) (name : String) : g.IsPath [name] :=
  ⟨List.nodup_singleton name, List.isChain_singleton name⟩

theorem IsPath.cons (h : g.IsPath (name :: path)) (hstep : g.Leads name next)
    (hnext : next ∉ name :: path) : g.IsPath (next :: name :: path) :=
  ⟨List.nodup_cons.2 ⟨hnext, h.nodup⟩, List.isChain_cons_cons.2 ⟨hstep, h.leads⟩⟩

theorem exists_prefix_of_mem (h : next ∈ path) : ∃ before,
    before ++ [next] <+: path ∧ cycleFrom next path = (before ++ [next]).reverse := by
  obtain ⟨before, after, rfl, hbefore⟩ := List.eq_append_cons_of_mem h
  refine ⟨before, ⟨after, by simp⟩, ?_⟩
  have hpassed : ∀ other ∈ before, decide (other ≠ next) = true := by
    intro other hother
    exact decide_eq_true fun heq => hbefore (heq ▸ hother)
  rw [cycleFrom, List.takeWhile_append_of_pos hpassed, List.takeWhile_cons_of_neg (by simp),
    List.append_nil]

/-- A step back to a path closes a cycle: the part of the path from there on. -/
theorem IsPath.isCycle_cycleFrom (h : g.IsPath (name :: path)) (hstep : g.Leads name next)
    (hnext : next ∈ name :: path) : g.IsCycle (cycleFrom next (name :: path)) := by
  obtain ⟨before, hprefix, hcycle⟩ := exists_prefix_of_mem hnext
  have hlatest : (before ++ [next]).head (by simp) = name := hprefix.head _
  have hleads : (before ++ [next]).IsChain fun a b => g.Leads b a :=
    List.IsChain.prefix h.leads hprefix
  rw [hcycle]
  refine ⟨List.nodup_reverse.2 (h.nodup.sublist hprefix.sublist), List.isChain_reverse.2 hleads,
    by simp, ?_⟩
  rw [List.getLast_reverse, hlatest, List.head_reverse, List.getLast_append_singleton]
  exact hstep

/-- What stops a search is a cycle. The invariant is that the name that is searched below and the
names it was reached along make a path. -/
theorem isCycle_of_searchCycle {cycle : List String} (depth : Nat)
    (hpath : g.IsPath (name :: path))
    (h : g.searchCycle depth path finished name = .error cycle) : g.IsCycle cycle := by
  induction depth generalizing path finished name with
  | zero => exact absurd h nofun
  | succ depth ih =>
      rw [searchCycle, bind_eq_error_iff] at h
      rcases h with h | ⟨_, -, h⟩
      · obtain ⟨next, hnext, finished, h⟩ := exists_of_foldlM_eq_error h
        have hstep : g.Leads name next := mem_successors.1 hnext
        split_ifs at h with honPath hdone
        · obtain rfl := Except.error.inj h
          exact hpath.isCycle_cycleFrom hstep honPath
        · exact ih (hpath.cons hstep honPath) h
      · exact absurd h nofun

/-- What the search finds is a cycle. -/
theorem isCycle_of_findCycle? {cycle : List String} (h : g.findCycle? = some cycle) :
    g.IsCycle cycle := by
  rw [findCycle?] at h
  split at h
  · rename_i found hsearch
    obtain rfl := Option.some.inj h
    obtain ⟨next, -, finished, h⟩ := exists_of_foldlM_eq_error hsearch
    split_ifs at h
    exact isCycle_of_searchCycle _ (isPath_singleton g next) h
  · exact absurd h nofun

/-- The first name of a cycle leads back to itself. -/
theorem IsCycle.exists_leads_self {cycle : List String} (h : g.IsCycle cycle) :
    ∃ name, Relation.TransGen g.Leads name name := by
  obtain ⟨hne, hstep⟩ := h.closes
  have hwalk := List.relationReflTransGen_of_exists_isChain cycle h.leads hne
  exact ⟨_, Relation.TransGen.tail' hwalk hstep⟩

theorem exists_cycle_of_findCycle? {cycle : List String} (h : g.findCycle? = some cycle) :
    ∃ name, Relation.TransGen g.Leads name name :=
  (isCycle_of_findCycle? h).exists_leads_self

/-! ## The check -/

theorem checkAcyclic_eq_ok_iff : g.checkAcyclic = .ok () ↔ g.findCycle? = none := by
  rw [checkAcyclic]
  cases g.findCycle? with
  | none => exact iff_of_true rfl rfl
  | some cycle => exact iff_of_false nofun nofun

/-- A graph that is refused has a cycle, and its names are listed. -/
theorem checkAcyclic_eq_error_iff {e : ValueError} : g.checkAcyclic = .error e ↔
    ∃ cycle, g.findCycle? = some cycle ∧ e = ⟨cycleMessage cycle⟩ := by
  rw [checkAcyclic]
  cases g.findCycle? with
  | none => exact iff_of_false nofun fun ⟨_, h, _⟩ => nomatch h
  | some cycle =>
      constructor
      · intro h
        exact ⟨cycle, rfl, (Except.error.inj h).symm⟩
      · rintro ⟨_, h, rfl⟩
        rw [Option.some.inj h]

end Skeletal.TypeGraph
