import Mathlib.Data.Fintype.Card
import Mathlib.Data.Set.Finite.Basic
import Skeletal.Load.Registry
import Skeletal.Proofs.Load.Targets

/-!
# Erasure of type variables

A type parameter is erased to what its first bound is erased to. This bound may be another parameter
of the same list, before or after it. As long as the bounds do not go round in a circle, every
parameter has exactly one erasure (`Erases`), whatever the order of the list.

A scope adds the parameters one by one and looks each bound up where it is added. A bound that names
a later parameter is looked up in the surroundings instead, which may give a type of that name or
one that does not exist. So the scope has the erasures exactly if all such bounds are erased alike
in the surroundings (`erasesByBounds_iff`). The method of an interface shows that this may fail
(`meter_not_erasesByBounds`).
-/

set_option autoImplicit false

namespace Skeletal.Load.Scope

open Relation (TransGen)
open Source (TypeExpr TypeParameter)

/-! ## Erasures -/

/-- The first bound of `p` is the variable `q`, or a dotted name that starts with it. -/
def BoundBy (p : TypeParameter) (bound : TypeExpr) (q : TypeParameter) : Prop :=
  p.bounds.head? = some bound ∧ bound.names.head? = some q.name

/-- The erasure of a type parameter of the list depends on that of another. -/
def Needs (ps : List TypeParameter) (p q : TypeParameter) : Prop :=
  p ∈ ps ∧ q ∈ ps ∧ ∃ bound, BoundBy p bound q

/-- Type parameters with names of their own, the first bounds of which do not go round in a
circle. -/
structure WellBounded (ps : List TypeParameter) : Prop where
  nodup : (ps.map TypeParameter.name).Nodup
  acyclic : ∀ p ∈ ps, ¬ TransGen (Needs ps) p p

/-- Target that further names lead to from a target. -/
def below (s : Scope) (base : Target) (names : List String) : Target :=
  names.foldl (fun target name => s.targetOf (target.canonical ++ "." ++ name)) base

/-- Erasure of a type parameter among others, in the surroundings of their declaration: the root for
want of a bound, the erasure of the parameter that its first bound is, or else what its first bound
refers to. -/
inductive Erases (s : Scope) (ps : List TypeParameter) : TypeParameter → Target → Prop where
  | unbounded {p : TypeParameter} : p.bounds.head? = none → Erases s ps p Reference.root.target
  | parameter {p q : TypeParameter} {bound : TypeExpr} {target : Target} : BoundBy p bound q →
      q ∈ ps → Erases s ps q target → Erases s ps p (s.below target bound.names.tail)
  | named {p : TypeParameter} {bound : TypeExpr} : p.bounds.head? = some bound →
      (∀ q ∈ ps, ¬ BoundBy p bound q) → Erases s ps p (s.reference bound).target

/-- Erasure that the scope of a declaration has for a type variable. -/
def erasure? (s : Scope) (ps : List TypeParameter) (name : String) : Option Target :=
  (s.withVariables ps).typeVariables.lookup name

/-- The scope of a declaration has the erasures of its type parameters. -/
def ErasesByBounds (s : Scope) (ps : List TypeParameter) : Prop :=
  ∀ p ∈ ps, ∀ target, s.Erases ps p target → s.erasure? ps p.name = some target

/-- The scope of a declaration has the same erasures in whatever order the type parameters stand. -/
def ErasesInAnyOrder (s : Scope) (ps : List TypeParameter) : Prop :=
  ∀ ps', ps'.Perm ps → ∀ p ∈ ps, s.erasure? ps' p.name = s.erasure? ps p.name

variable {s : Scope} {ps ps' before after : List TypeParameter} {p q : TypeParameter}
  {bound : TypeExpr} {target target' base : Target} {name : String}
  {typeVariables : List (String × Target)}

/-! ## Existence and uniqueness -/

/-- Without a circle of bounds every type parameter has an erasure. -/
theorem WellBounded.exists_erases (hps : WellBounded ps) (hp : p ∈ ps) :
    ∃ target, s.Erases ps p target := by
  have : Finite { q // q ∈ ps } := List.finite_toSet ps
  let needed (a b : { q // q ∈ ps }) : Prop := TransGen (Needs ps) b.1 a.1
  have : IsTrans _ needed := ⟨fun _ _ _ hab hbc => hbc.trans hab⟩
  have : Std.Irrefl needed := ⟨fun a => hps.acyclic a.1 a.2⟩
  have hwf := Finite.wellFounded_of_trans_of_irrefl needed
  suffices h : ∀ a : { q // q ∈ ps }, ∃ target, s.Erases ps a.1 target from h ⟨p, hp⟩
  intro a
  induction a using hwf.induction with
  | _ a ih =>
      cases hbound : a.1.bounds.head? with
      | none => exact ⟨_, .unbounded hbound⟩
      | some bound =>
          by_cases hvariable : ∃ q ∈ ps, BoundBy a.1 bound q
          · obtain ⟨q, hq, hbound⟩ := hvariable
            obtain ⟨target, htarget⟩ := ih ⟨q, hq⟩ (TransGen.single ⟨a.2, hq, bound, hbound⟩)
            exact ⟨_, .parameter hbound hq htarget⟩
          · exact ⟨_, .named hbound fun q hq h => hvariable ⟨q, hq, h⟩⟩

theorem BoundBy.unique {bound' : TypeExpr} {q' : TypeParameter}
    (hnodup : (ps.map TypeParameter.name).Nodup) (h : BoundBy p bound q) (hq : q ∈ ps)
    (h' : BoundBy p bound' q') (hq' : q' ∈ ps) : bound = bound' ∧ q = q' := by
  obtain rfl := Option.some.inj (h.1.symm.trans h'.1)
  have hname : q.name = q'.name := Option.some.inj (h.2.symm.trans h'.2)
  exact ⟨rfl, List.inj_on_of_nodup_map hnodup hq hq' hname⟩

/-- A bound that names a later parameter names no earlier one. -/
theorem BoundBy.not_earlier (hnodup : ((before ++ after).map TypeParameter.name).Nodup)
    (h : BoundBy p bound q) (hq : q ∈ after) : ∀ q' ∈ before, ¬ BoundBy p bound q' := by
  intro q' hq' h'
  have hname : q.name = q'.name := Option.some.inj (h.2.symm.trans h'.2)
  rw [List.map_append] at hnodup
  exact hnodup.disjoint (hname ▸ List.mem_map_of_mem hq') (List.mem_map_of_mem hq)

theorem Erases.unique (hnodup : (ps.map TypeParameter.name).Nodup) (h : s.Erases ps p target)
    (h' : s.Erases ps p target') : target = target' := by
  induction h generalizing target' with
  | unbounded hnone =>
      cases h' with
      | unbounded _ => rfl
      | parameter hbound _ _ => exact absurd (hnone.symm.trans hbound.1) nofun
      | named hbound _ => exact absurd (hnone.symm.trans hbound) nofun
  | parameter hbound hq _ ih =>
      cases h' with
      | unbounded hnone => exact absurd (hnone.symm.trans hbound.1) nofun
      | parameter hbound' hq' htarget' =>
          obtain ⟨rfl, rfl⟩ := hbound.unique hnodup hq hbound' hq'
          rw [ih htarget']
      | named hbound' hnot =>
          obtain rfl := Option.some.inj (hbound.1.symm.trans hbound')
          exact absurd hbound (hnot _ hq)
  | named hbound hnot =>
      cases h' with
      | unbounded hnone => exact absurd (hnone.symm.trans hbound) nofun
      | parameter hbound' hq' _ =>
          obtain rfl := Option.some.inj (hbound.symm.trans hbound'.1)
          exact absurd hbound' (hnot _ hq')
      | named hbound' _ =>
          obtain rfl := Option.some.inj (hbound.symm.trans hbound')
          rfl

theorem Erases.perm (hperm : ps'.Perm ps) (h : s.Erases ps p target) : s.Erases ps' p target := by
  induction h with
  | unbounded hnone => exact .unbounded hnone
  | parameter hbound hq _ ih => exact .parameter hbound (hperm.mem_iff.2 hq) ih
  | named hbound hnot => exact .named hbound fun q hq => hnot q (hperm.mem_iff.1 hq)

theorem WellBounded.perm (hps : WellBounded ps) (hperm : ps'.Perm ps) : WellBounded ps' := by
  have hneeds : Needs ps' = Needs ps := by
    funext p q
    rw [Needs, Needs, hperm.mem_iff, hperm.mem_iff]
  refine ⟨(hperm.map TypeParameter.name).nodup_iff.2 hps.nodup, fun p hp => ?_⟩
  rw [hneeds]
  exact hps.acyclic p (hperm.mem_iff.1 hp)

/-! ## References where variables are added -/

/-- Erasure of a type parameter where it is added. -/
def addedErasure (s : Scope) (p : TypeParameter) : Target :=
  p.bounds.head?.elim Reference.root.target fun bound => (s.reference bound).target

theorem typeVariables_withVariable (s : Scope) (p : TypeParameter) :
    (s.withVariable p).typeVariables = (p.name, s.addedErasure p) :: s.typeVariables := by
  rw [withVariable, addedErasure]
  cases p.bounds with
  | nil => rfl
  | cons bound more => rfl

theorem withVariables_append (s : Scope) (before after : List TypeParameter) :
    s.withVariables (before ++ after) = (s.withVariables before).withVariables after :=
  List.foldl_append

/-- Nothing but the variables is changed. -/
theorem withVariables_eq (s : Scope) (ps : List TypeParameter) :
    s.withVariables ps = { s with typeVariables := (s.withVariables ps).typeVariables } := by
  induction ps generalizing s with
  | nil => rfl
  | cons p rest ih => exact ih (s.withVariable p)

theorem below_withVariables (s : Scope) (ps : List TypeParameter) :
    (s.withVariables ps).below = s.below := by
  rw [withVariables_eq]
  rfl

theorem lookup_withVariables (hname : name ∉ ps.map TypeParameter.name) :
    (s.withVariables ps).typeVariables.lookup name = s.typeVariables.lookup name := by
  induction ps generalizing s with
  | nil => rfl
  | cons p rest ih =>
      rw [List.map_cons, List.mem_cons, not_or] at hname
      have hcons : s.withVariables (p :: rest) = (s.withVariable p).withVariables rest := rfl
      rw [hcons, ih hname.2, typeVariables_withVariable, List.lookup_cons,
        beq_false_of_ne hname.1]

theorem simple?_congr (h : typeVariables.lookup name = s.typeVariables.lookup name) :
    ({ s with typeVariables } : Scope).simple? name = s.simple? name := by
  rw [simple?, h]
  rfl

theorem named_congr {names : List String} (h : ∀ first ∈ names.head?,
    typeVariables.lookup first = s.typeVariables.lookup first) :
    ({ s with typeVariables } : Scope).named names = s.named names := by
  rcases names with _ | ⟨first, _ | ⟨second, rest⟩⟩
  · rfl
  · rw [named, named, simple?_congr (h first rfl)]
    rfl
  · rw [named, named, simple?_congr (h first rfl)]
    · rfl
    · simp
    · simp

/-- A reference does not change with variables that it does not start with. -/
theorem reference_withVariables (hnot : ∀ q ∈ ps, bound.names.head? ≠ some q.name) :
    (s.withVariables ps).reference bound = s.reference bound := by
  rw [withVariables_eq]
  cases bound with
  | basic word dims => rfl
  | named segments dims =>
      rw [reference, reference, named_congr]
      intro first hfirst
      refine lookup_withVariables fun hmem => ?_
      obtain ⟨q, hq, rfl⟩ := List.mem_map.1 hmem
      exact hnot q hq hfirst

theorem target_reference_of_head (hhead : bound.names.head? = some name) :
    (s.reference bound).target = s.named bound.names := by
  cases bound with
  | basic word dims => exact absurd hhead nofun
  | named segments dims => rfl

/-- A reference that starts with a variable leads on from its erasure. -/
theorem target_reference_of_lookup (hhead : bound.names.head? = some name)
    (hlookup : s.typeVariables.lookup name = some base) :
    (s.reference bound).target = s.below base bound.names.tail := by
  have hsimple : s.simple? name = some base := by
    rw [simple?, hlookup]
    rfl
  rw [target_reference_of_head hhead]
  rcases hnames : bound.names with _ | ⟨first, _ | ⟨second, rest⟩⟩
  · rw [hnames] at hhead
    cases hhead
  · rw [hnames] at hhead
    obtain rfl : first = name := Option.some.inj hhead
    rw [named, hsimple]
    rfl
  · rw [hnames] at hhead
    obtain rfl : first = name := Option.some.inj hhead
    rw [named, hsimple]
    · rfl
    · simp

/-! ## Erasures in a scope -/

/-- Later parameters do not change the erasure of an earlier one. -/
theorem erasure?_append (hname : name ∉ after.map TypeParameter.name) :
    s.erasure? (before ++ after) name = s.erasure? before name := by
  rw [erasure?, withVariables_append, lookup_withVariables hname, erasure?]

theorem erasure?_middle (hnodup : ((before ++ p :: after).map TypeParameter.name).Nodup) :
    s.erasure? (before ++ p :: after) p.name =
      some ((s.withVariables before).addedErasure p) := by
  have hafter : p.name ∉ after.map TypeParameter.name := by
    rw [List.map_append, List.map_cons] at hnodup
    exact (List.nodup_cons.1 hnodup.of_append_right).1
  rw [List.append_cons, erasure?_append hafter, erasure?, withVariables_append]
  have hlast : ((s.withVariables before).withVariables [p]).typeVariables =
      (p.name, (s.withVariables before).addedErasure p) ::
        (s.withVariables before).typeVariables :=
    typeVariables_withVariable _ p
  rw [hlast, List.lookup_cons_self]

/-- A bound that names no earlier parameter is looked up in the surroundings. -/
theorem erasure?_of_not_earlier
    (hnodup : ((before ++ p :: after).map TypeParameter.name).Nodup)
    (hhead : p.bounds.head? = some bound) (hnot : ∀ q ∈ before, ¬ BoundBy p bound q) :
    s.erasure? (before ++ p :: after) p.name = some (s.reference bound).target := by
  have hreference : (s.withVariables before).reference bound = s.reference bound :=
    reference_withVariables fun q hq hname => hnot q hq ⟨hhead, hname⟩
  rw [erasure?_middle hnodup, addedErasure, hhead, Option.elim_some, hreference]

/-- A bound that names an earlier parameter leads on from its erasure. -/
theorem erasure?_of_earlier (hnodup : ((before ++ p :: after).map TypeParameter.name).Nodup)
    (hbound : BoundBy p bound q) (hq : q ∈ before)
    (hbase : s.erasure? (before ++ p :: after) q.name = some base) :
    s.erasure? (before ++ p :: after) p.name = some (s.below base bound.names.tail) := by
  have hlater : q.name ∉ (p :: after).map TypeParameter.name := by
    rw [List.map_append] at hnodup
    exact fun hmem => hnodup.disjoint (List.mem_map_of_mem hq) hmem
  have hlookup : (s.withVariables before).typeVariables.lookup q.name = some base :=
    (erasure?_append hlater).symm.trans hbase
  rw [erasure?_middle hnodup, addedErasure, hbound.1, Option.elim_some,
    target_reference_of_lookup hbound.2 hlookup, below_withVariables]

/-- Bounds that name later parameters are erased alike in the surroundings. -/
def ForwardErasedOutside (s : Scope) (ps : List TypeParameter) : Prop :=
  ∀ before p after, ps = before ++ p :: after → ∀ q ∈ after, ∀ bound, BoundBy p bound q →
    s.Erases ps p (s.reference bound).target

/-- Bounds that name parameters of the list are erased alike in the surroundings. -/
def ErasedOutside (s : Scope) (ps : List TypeParameter) : Prop :=
  ∀ p ∈ ps, ∀ q ∈ ps, ∀ bound, BoundBy p bound q → s.Erases ps p (s.reference bound).target

theorem ErasesByBounds.forwardErasedOutside (h : s.ErasesByBounds ps) (hps : WellBounded ps) :
    s.ForwardErasedOutside ps := by
  rintro before p after rfl q hq bound hbound
  have hp : p ∈ before ++ p :: after := List.mem_append_right before List.mem_cons_self
  have hnot := hbound.not_earlier hps.nodup (List.mem_cons_of_mem p hq)
  obtain ⟨target, htarget⟩ := hps.exists_erases hp
  have hsame := (h p hp target htarget).symm.trans
    (erasure?_of_not_earlier hps.nodup hbound.1 hnot)
  rwa [Option.some.inj hsame] at htarget

theorem ForwardErasedOutside.erasesByBounds (h : s.ForwardErasedOutside ps)
    (hps : WellBounded ps) : s.ErasesByBounds ps := by
  intro p hp target htarget
  -- along the erasure, over the place that each parameter has in the list
  induction htarget with
  | @unbounded p hnone =>
      obtain ⟨before, after, rfl⟩ := List.append_of_mem hp
      rw [erasure?_middle hps.nodup, addedErasure, hnone, Option.elim_none]
  | @parameter p q bound target hbound hq htarget ih =>
      obtain ⟨before, after, rfl⟩ := List.append_of_mem hp
      rcases List.mem_append.1 hq with hbefore | hmem
      · exact erasure?_of_earlier hps.nodup hbound hbefore (ih hq)
      · rcases List.mem_cons.1 hmem with rfl | hafter
        · exact absurd (TransGen.single ⟨hq, hq, bound, hbound⟩) (hps.acyclic q hq)
        · have hnot := hbound.not_earlier hps.nodup hmem
          have houtside := h before p after rfl q hafter bound hbound
          rw [erasure?_of_not_earlier hps.nodup hbound.1 hnot,
            houtside.unique hps.nodup (.parameter hbound hq htarget)]
  | @named p bound hbound hnot =>
      obtain ⟨before, after, rfl⟩ := List.append_of_mem hp
      exact erasure?_of_not_earlier hps.nodup hbound fun q hq =>
        hnot q (List.mem_append_left _ hq)

/-! ## Orders of the list -/

theorem ErasedOutside.perm (h : s.ErasedOutside ps) (hperm : ps'.Perm ps) :
    s.ErasedOutside ps' := by
  intro p hp q hq bound hbound
  exact (h p (hperm.mem_iff.1 hp) q (hperm.mem_iff.1 hq) bound hbound).perm hperm

theorem ErasedOutside.erasesByBounds (h : s.ErasedOutside ps) (hps : WellBounded ps) :
    s.ErasesByBounds ps := by
  refine ForwardErasedOutside.erasesByBounds ?_ hps
  rintro before p after rfl q hq bound hbound
  exact h p (List.mem_append_right before List.mem_cons_self) q
    (List.mem_append_right before (List.mem_cons_of_mem p hq)) bound hbound

theorem ErasedOutside.erasesInAnyOrder (h : s.ErasedOutside ps) (hps : WellBounded ps) :
    s.ErasesInAnyOrder ps := by
  intro ps' hperm p hp
  obtain ⟨target, htarget⟩ : ∃ target, s.Erases ps p target := hps.exists_erases hp
  have hsame := (h.perm hperm).erasesByBounds (hps.perm hperm) p (hperm.mem_iff.2 hp) target
    (htarget.perm hperm)
  rw [h.erasesByBounds hps p hp target htarget, hsame]

/-- In front of the list a parameter is erased as outside. -/
theorem ErasesInAnyOrder.erasedOutside (h : s.ErasesInAnyOrder ps) (hbounds : s.ErasesByBounds ps)
    (hps : WellBounded ps) : s.ErasedOutside ps := by
  intro p hp q _ bound hbound
  obtain ⟨target, htarget⟩ : ∃ target, s.Erases ps p target := hps.exists_erases hp
  obtain ⟨before, after, rfl⟩ := List.append_of_mem hp
  have hfront : ([] ++ p :: (before ++ after)).Perm (before ++ p :: after) :=
    List.perm_middle.symm
  have houtside : s.erasure? ([] ++ p :: (before ++ after)) p.name =
      some (s.reference bound).target :=
    erasure?_of_not_earlier (hps.perm hfront).nodup hbound.1 fun _ h => absurd h List.not_mem_nil
  have hsame : some target = some (s.reference bound).target := by
    rw [← hbounds p hp target htarget, ← h _ hfront p hp, houtside]
  rwa [Option.some.inj hsame] at htarget

/-- What the scope of a declaration makes of type parameters whose bounds do not go round. Each of
them has one erasure. The scope has these erasures if and only if a bound that names a later
parameter is erased alike outside the declaration, and has them in every order of the list if and
only if this holds of each bound that names a parameter. -/
theorem erasesByBounds_iff (hps : WellBounded ps) :
    (∀ p ∈ ps, ∃! target, s.Erases ps p target) ∧
      (s.ErasesByBounds ps ↔ s.ForwardErasedOutside ps) ∧
      (s.ErasesByBounds ps ∧ s.ErasesInAnyOrder ps ↔ s.ErasedOutside ps) := by
  refine ⟨fun p hp => ?_, ⟨fun h => h.forwardErasedOutside hps, fun h => h.erasesByBounds hps⟩,
    fun h => h.2.erasedOutside h.1 hps, fun h => ⟨h.erasesByBounds hps, h.erasesInAnyOrder hps⟩⟩
  obtain ⟨target, htarget⟩ := hps.exists_erases hp
  exact ⟨target, htarget, fun target' h' => h'.unique hps.nodup htarget⟩

/-! ## A variable bound by a variable -/

/-- `A extends B` and `B extends Number`. -/
structure Chained (p q : TypeParameter) : Prop where
  first : p.name = "A" ∧ p.bounds.head?.map TypeExpr.names = some ["B"]
  second : q.name = "B" ∧ q.bounds.head?.map TypeExpr.names = some ["Number"]

/-- Only the one parameter needs the other. -/
theorem Chained.name_of_needs (h : Chained p q) (hps : ps.Perm [p, q]) {a b : TypeParameter}
    (hab : Needs ps a b) : a.name = "A" ∧ b.name = "B" := by
  obtain ⟨ha, hb, bound, hhead, hname⟩ := hab
  rw [hps.mem_iff, List.mem_pair] at ha hb
  have hfirst := h.first
  have hsecond := h.second
  rcases ha with rfl | rfl
  · rw [hhead, Option.map_some, Option.some_inj] at hfirst
    rw [hfirst.2, List.head?_cons, Option.some_inj] at hname
    exact ⟨hfirst.1, hname.symm⟩
  · rw [hhead, Option.map_some, Option.some_inj] at hsecond
    rw [hsecond.2, List.head?_cons, Option.some_inj] at hname
    rcases hb with rfl | rfl
    · exact absurd (hname.trans hfirst.1) (by decide)
    · exact absurd (hname.trans hsecond.1) (by decide)

theorem Chained.wellBounded (h : Chained p q) (hps : ps.Perm [p, q]) : WellBounded ps := by
  constructor
  · rw [(hps.map TypeParameter.name).nodup_iff]
    simp [h.first.1, h.second.1]
  · intro a _ hcycle
    obtain ⟨b, hfirst, -⟩ := TransGen.head'_iff.1 hcycle
    obtain ⟨c, -, hlast⟩ := TransGen.tail'_iff.1 hcycle
    have hname := (h.name_of_needs hps hfirst).1.symm.trans (h.name_of_needs hps hlast).2
    exact absurd hname (by decide)

theorem Chained.boundBy (h : Chained p q) : ∃ bound, BoundBy p bound q ∧ bound.names = ["B"] := by
  obtain ⟨bound, hhead, hnames⟩ := Option.map_eq_some_iff.1 h.first.2
  refine ⟨bound, ⟨hhead, ?_⟩, hnames⟩
  rw [hnames, h.second.1, List.head?_cons]

/-- The first parameter is erased to what `Number` means. -/
theorem Chained.erases (h : Chained p q) (hps : ps.Perm [p, q]) :
    s.Erases ps p (s.named ["Number"]) := by
  obtain ⟨bound, hbound, hnames⟩ := h.boundBy
  obtain ⟨number, hhead, hnumber⟩ := Option.map_eq_some_iff.1 h.second.2
  have hp : p ∈ ps := hps.mem_iff.2 (by simp)
  have hq : q ∈ ps := hps.mem_iff.2 (by simp)
  have hsecond : s.Erases ps q (s.reference number).target := by
    refine .named hhead fun r hr hnumber => ?_
    have hneeds := h.name_of_needs hps ⟨hq, hr, number, hnumber⟩
    exact absurd (h.second.1.symm.trans hneeds.1) (by decide)
  have hfirst := Erases.parameter hbound hq hsecond
  rwa [hnames, target_reference_of_head (by rw [hnumber]; rfl), hnumber] at hfirst

/-- Surroundings in which nothing is declared. -/
def bare : Scope :=
  { isLoaded := fun _ => false
    file := ⟨"", ⟨[], rfl⟩, [], []⟩
    around := []
    typeVariables := [] }

/-- `A extends B`. -/
def boundByVariable : TypeParameter := ⟨"A", [.named [.mk "B" []] 0]⟩

/-- `B extends Number`. -/
def boundByClass : TypeParameter := ⟨"B", [.named [.mk "Number" []] 0]⟩

/-- `B extends Number, A extends B`. -/
def backward : List TypeParameter := [boundByClass, boundByVariable]

theorem chained_boundByVariable : Chained boundByVariable boundByClass :=
  ⟨⟨rfl, rfl⟩, ⟨rfl, rfl⟩⟩

theorem perm_backward : backward.Perm [boundByVariable, boundByClass] := List.Perm.swap _ _ []

theorem forwardErasedOutside_backward : s.ForwardErasedOutside backward := by
  rintro before p after hsplit q hq bound hbound
  have hp : p ∈ backward := hsplit ▸ List.mem_append_right before List.mem_cons_self
  have hqmem : q ∈ backward :=
    hsplit ▸ List.mem_append_right before (List.mem_cons_of_mem p hq)
  have hname := chained_boundByVariable.name_of_needs perm_backward ⟨hp, hqmem, bound, hbound⟩
  -- the parameter that has a variable for its bound stands last
  match before, hsplit with
  | [], hsplit =>
      obtain ⟨rfl, -⟩ := List.cons.inj hsplit
      exact absurd hname.1 (by decide)
  | [_], hsplit =>
      obtain ⟨-, rfl⟩ := List.cons.inj (List.cons.inj hsplit).2
      exact absurd hq List.not_mem_nil
  | _ :: _ :: _, hsplit => simp [backward] at hsplit

/-- A bound that names the parameter before it is erased as it should be, but the order counts. -/
theorem erasesByBounds_iff_backward : WellBounded backward ∧ bare.ErasesByBounds backward ∧
    ¬ bare.ErasesInAnyOrder backward := by
  have hps := chained_boundByVariable.wellBounded perm_backward
  obtain ⟨-, hbounds, horder⟩ := erasesByBounds_iff (s := bare) hps
  have herased := hbounds.2 forwardErasedOutside_backward
  refine ⟨hps, herased, fun h => ?_⟩
  -- otherwise the bound would mean `Number` outside as well
  obtain ⟨bound, hbound, hnames⟩ := chained_boundByVariable.boundBy
  have houtside := horder.1 ⟨herased, h⟩ boundByVariable (by simp [backward]) boundByClass
    (by simp [backward]) bound hbound
  rw [target_reference_of_head hbound.2, hnames] at houtside
  have hsame := houtside.unique hps.nodup (chained_boundByVariable.erases perm_backward)
  exact absurd hsame (by decide +kernel)

/-- An interface with a method whose first type parameter is bound by its second. -/
def meterUnits : List SourceUnit :=
  [{ code :=
      "package p; public interface Meter \x7b <A extends B, B extends Number> A read(A a); \x7d" }]

/-- Names of type parameters and of their first bounds. -/
def firstBounds (ps : List TypeParameter) : List (String × Option (List String)) :=
  ps.map fun p => (p.name, p.bounds.head?.map TypeExpr.names)

/-- The parameters of the method are chained, and in its scope `A` is taken for a type `p.B`. -/
theorem meter_read : ∃ known skipped d c, readUnits true meterUnits = .ok (known, skipped) ∧
    d ∈ known ∧ c ∈ d.header.methods ∧
      firstBounds c.typeParameters = [("A", some ["B"]), ("B", some ["Number"])] ∧
      (scopeOf (isTaken known) d.file d.levels).erasure? c.typeParameters "A" =
        some (.outside "p.B") ∧
      ((scopeOf (isTaken known) d.file d.levels).named ["Number"]).canonical =
        "java.lang.Number" := by
  have hread : ((readUnits true meterUnits).toOption.any fun result =>
      result.1.any fun d => d.header.methods.any fun c => decide
        (firstBounds c.typeParameters = [("A", some ["B"]), ("B", some ["Number"])] ∧
          (scopeOf (isTaken result.1) d.file d.levels).erasure? c.typeParameters "A" =
            some (.outside "p.B") ∧
          ((scopeOf (isTaken result.1) d.file d.levels).named ["Number"]).canonical =
            "java.lang.Number")) = true := by
    decide +kernel
  cases hunits : readUnits true meterUnits with
  | error e =>
      rw [hunits] at hread
      exact absurd hread nofun
  | ok result =>
      simp only [hunits, Except.toOption, Option.any_some, List.any_eq_true,
        decide_eq_true_eq] at hread
      obtain ⟨d, hd, c, hc, hfacts⟩ := hread
      exact ⟨result.1, result.2, d, c, rfl, hd, hc, hfacts⟩

theorem exists_chained (h : firstBounds ps = [("A", some ["B"]), ("B", some ["Number"])]) :
    ∃ p q, ps = [p, q] ∧ Chained p q := by
  obtain ⟨p, rest, rfl, hp, hrest⟩ := List.map_eq_cons_iff.1 h
  obtain ⟨q, rest, rfl, hq, hrest⟩ := List.map_eq_cons_iff.1 hrest
  obtain rfl := List.map_eq_nil_iff.1 hrest
  exact ⟨p, q, rfl, Prod.mk.inj hp, Prod.mk.inj hq⟩

/-- Though the bounds do not go round, a variable is not erased by its bound. -/
theorem meter_not_erasesByBounds : ∃ known skipped d c,
    readUnits true meterUnits = .ok (known, skipped) ∧ d ∈ known ∧ c ∈ d.header.methods ∧
      WellBounded c.typeParameters ∧
      ¬ (scopeOf (isTaken known) d.file d.levels).ErasesByBounds c.typeParameters := by
  obtain ⟨known, skipped, d, c, hread, hd, hc, hparameters, houtside, hnumber⟩ := meter_read
  obtain ⟨p, q, hps, hchained⟩ := exists_chained hparameters
  have hperm : c.typeParameters.Perm [p, q] := hps ▸ List.Perm.refl _
  refine ⟨known, skipped, d, c, hread, hd, hc, hchained.wellBounded hperm, fun h => ?_⟩
  have herased := h p (hperm.mem_iff.2 (by simp)) _ (hchained.erases hperm)
  rw [hchained.first.1, houtside, Option.some_inj] at herased
  rw [← herased] at hnumber
  exact absurd hnumber (by decide)

end Skeletal.Load.Scope
