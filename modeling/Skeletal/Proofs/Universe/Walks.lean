import Skeletal.Proofs.Universe.Hierarchy
import Skeletal.Synthesis.Obligation

/-!
# Walks without a bound

Superclass chains are followed until there is no superclass, and queues are worked off until they
are empty. Neither has a bound of its own. A run of such a loop is given as a derivation, which is
finite; along a cyclic chain there is none (`AncestorsRun.not_extends_self`). A walk has one run at
most. Where a chain ends its run is the bounded list (`AncestorsRun.ancestors_eq`), and so is that
of the supertypes (`AncestorsRun.supertypesRun`). In an acyclic universe every walk has a run from
every type, and it results in the lists that lineage and obligations are made of
(`Acyclic.walksEnd`).
-/

set_option autoImplicit false

namespace Skeletal

/-- A queue worked off: what was met before is dropped, anything else is met and its steps join the
queue at the end. -/
inductive QueueRun {α : Type} (steps : α → List α → Prop) : List α → List α → List α → Prop where
  | done (seen : List α) : QueueRun steps seen [] []
  | drop {seen rest met : List α} {a : α} : a ∈ seen → QueueRun steps seen rest met →
      QueueRun steps seen (a :: rest) met
  | meet {seen rest next met : List α} {a : α} : a ∉ seen → steps a next →
      QueueRun steps (a :: seen) (rest ++ next) met → QueueRun steps seen (a :: rest) (a :: met)

namespace Universe

variable {u : Universe} {t s : TypeId} {l : List TypeId}

/-! ## Loops -/

/-- A superclass chain followed to its root. -/
inductive AncestorsRun (u : Universe) : TypeId → List TypeId → Prop where
  | root {t : TypeId} : (u.get t).superclass = none → AncestorsRun u t [t]
  | next {t above : TypeId} {rest : List TypeId} : (u.get t).superclass = some above →
      AncestorsRun u above rest → AncestorsRun u t (t :: rest)

/-- The superclass chain, and a queue of interfaces worked off from all that it lists. -/
def SupertypesRun (u : Universe) (t : TypeId) (result : List TypeId) : Prop :=
  ∃ classes interfaces, u.AncestorsRun t classes ∧
    QueueRun (fun s next => next = (u.get s).interfaces) classes
      (classes.flatMap fun c => (u.get c).interfaces) interfaces ∧
    result = classes ++ interfaces

/-- One pass over the supertypes. -/
def PublicMethodsRun (u : Universe) (t : TypeId) (result : List Member) : Prop :=
  ∃ supertypes, u.SupertypesRun t supertypes ∧
    result = u.firstOfSignature (supertypes.flatMap (u.publicMethodsFrom t))

/-- One pass over the supertypes, one over the public methods and one over the superclass chain. -/
def AbstractMethodsRun (u : Universe) (t : TypeId)
    (result : Except SynthesisError (List Member)) : Prop :=
  ∃ supertypes methods classes, u.SupertypesRun t supertypes ∧ u.PublicMethodsRun t methods ∧
    u.AncestorsRun t classes ∧
    result = match supertypes.find? fun s => (u.get s).membersUnknown with
      | some s => .error (.unknownMembers (u.canonical t) (u.canonical s))
      | none => match classes.find? fun level => (u.get level).isPrivate with
        | some level => .error (.privateAncestor (u.canonical t) (u.canonical level))
        | none =>
          let exposed := methods.filter Member.isAbstract
          .ok (exposed ++ u.hiddenObligations (exposed.map u.signature) classes)

/-- Everything that a type refers to, its supertypes found by a walk of their own. -/
def RelatedRun (u : Universe) (t : TypeId) (result : List TypeId) : Prop :=
  ∃ supertypes, u.SupertypesRun t supertypes ∧
    result = supertypes ++ (u.get t).members.flatMap Member.mentions ++
      (u.get t).component.toList ++ (u.get t).enclosing.toList

/-- A queue of related types worked off, and the origins found on the way. -/
def SourceRootsRun (u : Universe) (t : TypeId) (result : List String) : Prop :=
  ∃ met, QueueRun u.RelatedRun [] [t] met ∧
    result = ((met.filterMap fun s => (u.get s).origin).filter (· ≠ "")).eraseDups

/-- Every walk from a type ends, with the result that it is to have. -/
structure WalksEnd (u : Universe) (t : TypeId) : Prop where
  ancestors : u.AncestorsRun t (u.ancestors t)
  supertypes : u.SupertypesRun t (u.supertypes t)
  publicMethods : u.PublicMethodsRun t (u.publicMethods t)
  abstractMethods : u.AbstractMethodsRun t (u.abstractMethods t)
  sourceRoots : u.SourceRootsRun t (u.sourceRoots t)

/-! ## Chains -/

theorem ancestorsRun_of_extends (h : u.AncestorsRun t l) (hts : u.Extends t s) :
    ∃ rest, u.AncestorsRun s rest ∧ rest.length < l.length := by
  cases h with
  | root hroot => exact absurd (hroot.symm.trans hts) nofun
  | next habove hrest =>
      obtain rfl := Option.some.inj (habove.symm.trans hts)
      exact ⟨_, hrest, Nat.lt_succ_self _⟩

/-- A chain that is followed to its root does not come back to where it started. -/
theorem AncestorsRun.not_extends_self (h : u.AncestorsRun t l) :
    ¬ Relation.TransGen u.Extends t t := by
  have hshorter : ∀ s, Relation.TransGen u.Extends t s → ∀ l, u.AncestorsRun t l →
      ∃ rest, u.AncestorsRun s rest ∧ rest.length < l.length := by
    intro s hts
    induction hts with
    | single hstep => exact fun l h => ancestorsRun_of_extends h hstep
    | tail _ hstep ih =>
        intro l h
        obtain ⟨rest, hrest, hlt⟩ := ih l h
        obtain ⟨rest', hrest', hlt'⟩ := ancestorsRun_of_extends hrest hstep
        exact ⟨rest', hrest', hlt'.trans hlt⟩
  intro hcycle
  -- around the cycle there would be shorter and shorter runs from `t`
  induction hlen : l.length using Nat.strong_induction_on generalizing l with
  | _ n ih =>
      obtain ⟨rest, hrest, hlt⟩ := hshorter t hcycle l h
      exact ih rest.length (hlen ▸ hlt) hrest rfl

theorem AncestorsRun.extends_of_mem (h : u.AncestorsRun t l) (hs : s ∈ l) :
    Relation.ReflTransGen u.Extends t s := by
  induction h with
  | root hroot =>
      obtain rfl := List.mem_singleton.1 hs
      exact Relation.ReflTransGen.refl
  | next habove hrest ih =>
      rcases List.mem_cons.1 hs with rfl | hs
      · exact Relation.ReflTransGen.refl
      · exact Relation.ReflTransGen.head habove (ih hs)

theorem AncestorsRun.nodup (h : u.AncestorsRun t l) : l.Nodup := by
  induction h with
  | root hroot => exact List.nodup_singleton _
  | next habove hrest ih =>
      refine List.nodup_cons.2 ⟨fun hmem => ?_, ih⟩
      exact (AncestorsRun.next habove hrest).not_extends_self
        (Relation.TransGen.head' habove (hrest.extends_of_mem hmem))

/-- A chain has at most one place outside the universe, at its end. -/
theorem AncestorsRun.length_le (h : u.AncestorsRun t l) : l.length ≤ u.size + 1 := by
  have hinside : ∀ s ∈ l.dropLast, s < u.size := by
    induction h with
    | root hroot => exact fun s hs => absurd hs List.not_mem_nil
    | @next t above rest habove hrest ih =>
        have hne : rest ≠ [] := by
          rintro rfl
          cases hrest
        rw [List.dropLast_cons_of_ne_nil hne]
        intro s hs
        rcases List.mem_cons.1 hs with rfl | hs
        · exact lt_size_of_inherits (Extends.inherits habove)
        · exact ih s hs
  have hsub : l.dropLast ⊆ List.range u.size := fun s hs => List.mem_range.2 (hinside s hs)
  have hnodup := h.nodup.sublist (List.dropLast_sublist l)
  have hle := (List.subperm_of_subset hnodup hsub).length_le
  rw [List.length_dropLast, List.length_range] at hle
  omega

/-- The bounded chain is the run, if there is one. -/
theorem AncestorsRun.ancestors_eq (h : u.AncestorsRun t l) : u.ancestors t = l := by
  have hchain : ∀ bound, l.length ≤ bound → u.chain bound t = l := by
    induction h with
    | root hroot =>
        intro bound hbound
        cases bound with
        | zero => exact absurd hbound (Nat.not_succ_le_zero _)
        | succ bound => rw [chain, hroot]
    | next habove hrest ih =>
        intro bound hbound
        cases bound with
        | zero => exact absurd hbound (Nat.not_succ_le_zero _)
        | succ bound =>
            rw [chain_succ, habove, Option.toList_some, List.flatMap_singleton,
              ih bound (Nat.le_of_succ_le_succ hbound)]
  exact hchain _ h.length_le

theorem AncestorsRun.unique {l' : List TypeId} (h : u.AncestorsRun t l)
    (h' : u.AncestorsRun t l') : l = l' :=
  h.ancestors_eq.symm.trans h'.ancestors_eq

theorem ancestorsRun_chain {rank : TypeId → Nat}
    (hrank : ∀ t s, u.Inherits t s → rank s < rank t) (bound : Nat) (hlt : rank t < bound) :
    u.AncestorsRun t (u.chain bound t) := by
  induction bound generalizing t with
  | zero => exact absurd hlt (Nat.not_lt_zero _)
  | succ bound ih =>
      rw [chain_succ]
      cases h : (u.get t).superclass with
      | none => exact AncestorsRun.root h
      | some above =>
          have hdrop := hrank t above (Extends.inherits h)
          rw [Option.toList_some, List.flatMap_singleton]
          exact AncestorsRun.next h (ih (by omega))

theorem ancestorsRun_ancestors (hu : u.Acyclic) (t : TypeId) :
    u.AncestorsRun t (u.ancestors t) := by
  obtain ⟨rank, hle, hdrop⟩ := hu.exists_rank
  exact ancestorsRun_chain hdrop _ (Nat.lt_succ_of_le (hle t))

end Universe

/-! ## Queues -/

section

variable {α : Type} {steps : α → List α → Prop} {a : α}

/-- A queue is worked off in one way, if the steps out of an element are given. -/
theorem QueueRun.unique (hsteps : ∀ a l l', steps a l → steps a l' → l = l')
    {seen queue met met' : List α} (h : QueueRun steps seen queue met)
    (h' : QueueRun steps seen queue met') : met = met' := by
  induction h generalizing met' with
  | done seen =>
      cases h'
      rfl
  | drop ha hrest ih =>
      cases h' with
      | drop _ hrest' => exact ih hrest'
      | meet hnot => exact absurd ha hnot
  | meet hnot hnext hrest ih =>
      cases h' with
      | drop ha => exact absurd ha hnot
      | meet _ hnext' hrest' =>
          obtain rfl := hsteps _ _ _ hnext hnext'
          rw [ih hrest']

/-- What was met before may stand anywhere in a queue. -/
theorem QueueRun.insert {seen queue met : List α} (h : QueueRun steps seen queue met)
    (ha : a ∈ seen) {front back : List α} (hqueue : queue = front ++ back) :
    QueueRun steps seen (front ++ a :: back) met := by
  induction h generalizing front back with
  | done seen =>
      obtain ⟨rfl, rfl⟩ := List.append_eq_nil_iff.1 hqueue.symm
      exact .drop ha (.done seen)
  | @drop seen rest met b hb hrest ih =>
      cases front with
      | nil =>
          obtain rfl : b :: rest = back := hqueue
          exact .drop ha (.drop hb hrest)
      | cons c front =>
          obtain ⟨rfl, hrest'⟩ := List.cons.inj hqueue
          exact .drop hb (ih ha hrest')
  | @meet seen rest next met b hb hnext hrest ih =>
      cases front with
      | nil =>
          obtain rfl : b :: rest = back := hqueue
          exact .drop ha (.meet hb hnext hrest)
      | cons c front =>
          obtain ⟨rfl, hrest'⟩ : b = c ∧ rest = front ++ back := List.cons.inj hqueue
          have hsplit : rest ++ next = front ++ (back ++ next) := by
            rw [hrest', List.append_assoc]
          have hrun := ih (List.mem_cons_of_mem b ha) hsplit
          rw [← List.cons_append, ← List.append_assoc] at hrun
          exact .meet hb hnext hrun

/-- The bounded walk is a run of the queue if outside its bound nothing leads on. -/
theorem queueRun_breadthFirst [DecidableEq α] {known : List α} {next : α → List α}
    (hsteps : ∀ a, steps a (next a)) (hknown : ∀ a ∉ known, next a = [] ∨ next a = [a])
    (seen queue : List α) : QueueRun steps seen queue (breadthFirst known next seen queue) := by
  fun_induction breadthFirst known next seen queue with
  | case1 seen => exact .done seen
  | case2 seen a rest ha ih => exact .drop ha ih
  | case3 seen a rest ha hmem ih => exact .meet ha (hsteps a) ih
  | case4 seen a rest ha hmem ih =>
      -- the queue may be longer by the element itself, which is seen by now
      refine .meet ha (hsteps a) ?_
      rcases hknown a hmem with h | h
      · rwa [h, List.append_nil]
      · rw [h]
        exact ih.insert List.mem_cons_self (List.append_nil rest).symm

end

namespace Universe

variable {u : Universe} {t : TypeId}

/-- The supertypes are found wherever the superclass chain ends. -/
theorem AncestorsRun.supertypesRun {classes : List TypeId} (h : u.AncestorsRun t classes) :
    u.SupertypesRun t (u.supertypes t) := by
  rw [supertypes, h.ancestors_eq]
  refine ⟨_, _, h, ?_, rfl⟩
  refine queueRun_breadthFirst ?_ ?_ _ _
  · exact fun s => rfl
  · exact fun s hs => Or.inl (interfaces_of_not_mem_ids hs)

theorem supertypesRun_supertypes (hu : u.Acyclic) (t : TypeId) :
    u.SupertypesRun t (u.supertypes t) :=
  (ancestorsRun_ancestors hu t).supertypesRun

theorem SupertypesRun.unique {result result' : List TypeId} (h : u.SupertypesRun t result)
    (h' : u.SupertypesRun t result') : result = result' := by
  obtain ⟨classes, interfaces, hclasses, hinterfaces, rfl⟩ := h
  obtain ⟨classes', interfaces', hclasses', hinterfaces', rfl⟩ := h'
  obtain rfl := hclasses.unique hclasses'
  have hsame : interfaces = interfaces' :=
    hinterfaces.unique (fun _ _ _ hl hl' => hl.trans hl'.symm) hinterfaces'
  rw [hsame]

theorem RelatedRun.unique {result result' : List TypeId} (h : u.RelatedRun t result)
    (h' : u.RelatedRun t result') : result = result' := by
  obtain ⟨supertypes, hsupertypes, rfl⟩ := h
  obtain ⟨supertypes', hsupertypes', rfl⟩ := h'
  rw [hsupertypes.unique hsupertypes']

theorem SourceRootsRun.unique {roots roots' : List String} (h : u.SourceRootsRun t roots)
    (h' : u.SourceRootsRun t roots') : roots = roots' := by
  obtain ⟨met, hmet, rfl⟩ := h
  obtain ⟨met', hmet', rfl⟩ := h'
  have hsteps : ∀ s l l', u.RelatedRun s l → u.RelatedRun s l' → l = l' :=
    fun _ _ _ => RelatedRun.unique
  rw [hmet.unique hsteps hmet']

theorem related_of_not_mem_ids (h : t ∉ u.ids) : u.related t = [t] := by
  rw [ids, List.mem_range, Nat.not_lt] at h
  rw [related, supertypes_of_size_le h, get_of_size_le h]
  rfl

/-- In an acyclic universe every walk ends. -/
theorem Acyclic.walksEnd (hu : u.Acyclic) (t : TypeId) : u.WalksEnd t where
  ancestors := ancestorsRun_ancestors hu t
  supertypes := supertypesRun_supertypes hu t
  publicMethods := ⟨_, supertypesRun_supertypes hu t, rfl⟩
  abstractMethods := by
    refine ⟨_, _, _, supertypesRun_supertypes hu t, ⟨_, supertypesRun_supertypes hu t, rfl⟩,
      ancestorsRun_ancestors hu t, ?_⟩
    rw [Universe.abstractMethods, checkMembersKnown, checkOpenChain]
    cases (u.supertypes t).find? fun s => (u.get s).membersUnknown with
    | some s => rfl
    | none =>
        cases (u.ancestors t).find? fun level => (u.get level).isPrivate with
        | some level => rfl
        | none => rfl
  sourceRoots := by
    refine ⟨_, queueRun_breadthFirst (fun s => ⟨_, supertypesRun_supertypes hu s, rfl⟩) ?_ _ _, rfl⟩
    exact fun s hs => Or.inr (related_of_not_mem_ids hs)

end Universe

end Skeletal
