import Skeletal.Proofs.Synthesis.Obligation
import Skeletal.Proofs.Universe.Growth
import Skeletal.Universe.Standard

/-!
# Implementations

The type that the source generated for a type declares, added to the universe: a subclass of a
class, and a subclass of the root class that implements an interface. Its lineage puts itself, and
for an interface the root class, in front of the supertypes that are there already
(`supertypes_implement_of_class`, `supertypes_implement_of_interface`). Of the public methods it
has the first say (`mem_publicObligations_implement_iff`), and it settles what it implements for
the search along the chain (`openHidden?_implement`).
-/

set_option autoImplicit false

namespace Skeletal

/-- A method as a class of its own implements it: the words that no override carries are gone. -/
def Member.implementedBy (place : TypeId) (m : Member) : Member :=
  { m with
    modifiers := m.modifiers.filter (· ∉ stubExcludedModifiers)
    declaring := some place }

/-- Type that the source generated for `t` declares, with the given methods implemented. It is a
subclass of a class and a subclass of the root class that implements an interface. -/
def Universe.implementation (u : Universe) (settings : Settings) (t : TypeId)
    (members : List Member) : Descriptor :=
  let d := u.get t
  let name := settings.className d
  { name
    canonical := if d.package = "" then name else d.package ++ "." ++ name
    package := d.package
    modifiers := modifierOrder.filter fun w => w ∈ d.modifiers ∧ w ∉ classExcludedModifiers
    superclass := some (if d.isInterface then Standard.object else t)
    interfaces := if d.isInterface then [t] else []
    methods := members.map (Member.implementedBy u.size) }

/-- Universe with the type that the source generated for `t` declares at its end. -/
def Universe.implement (u : Universe) (settings : Settings) (t : TypeId)
    (members : List Member) : Universe :=
  u.push (u.implementation settings t members)

namespace Universe

variable {settings : Settings} {u : Universe} {t s : TypeId} {members : List Member}
  {m o : Member} {sig : Signature}

/-! ## The added class -/

theorem not_isAbstract_implementedBy (place : TypeId) (m : Member) :
    (m.implementedBy place).isAbstract = false := by
  simp [Member.isAbstract, Member.implementedBy, stubExcludedModifiers]

theorem isPublic_implementedBy (place : TypeId) (m : Member) :
    (m.implementedBy place).isPublic = m.isPublic := by
  simp [Member.isPublic, Member.implementedBy, stubExcludedModifiers, List.contains_eq_mem]

theorem get_implement_size : (u.implement settings t members).get u.size =
    u.implementation settings t members :=
  get_push_size u _

theorem get_implement_of_lt (h : s < u.size) : (u.implement settings t members).get s = u.get s :=
  get_push_of_lt u _ h

/-- The methods of a closed universe, added ones included, keep their signatures. -/
theorem signature_implement (hc : u.Closed) (hm : m ∈ (u.get s).methods) :
    (u.implement settings t members).signature m = u.signature m :=
  signature_push_of_mem hc hm

theorem signature_implementedBy (hc : u.Closed) {place : TypeId} (hm : m ∈ (u.get s).methods) :
    (u.implement settings t members).signature (m.implementedBy place) = u.signature m :=
  signature_push (m := m.implementedBy place) (hc.parameter s m hm)

/-! ## Lineage of the added class -/

/-- The chain of the added class is that of the class it extends below itself. -/
theorem ancestors_implement (hc : u.Closed) {above : TypeId} (habove : above < u.size)
    (h : (u.implementation settings t members).superclass = some above) :
    (u.implement settings t members).ancestors u.size = u.size :: u.ancestors above := by
  rw [ancestors, implement, size_push, chain_succ, get_push_size, h]
  simp only [Option.toList_some, List.flatMap_singleton]
  rw [chain_push hc _ _ habove, ancestors]

/-- The class generated for a class puts itself in front of the supertypes. -/
theorem supertypes_implement_of_class (hc : u.Closed) (ht : t < u.size)
    (hi : (u.get t).isInterface = false) :
    (u.implement settings t members).supertypes u.size = u.size :: u.supertypes t := by
  have hancestors : (u.implement settings t members).ancestors u.size = u.size :: u.ancestors t :=
    ancestors_implement hc ht (by simp [implementation, hi])
  have hinterfaces : ((u.implement settings t members).get u.size).interfaces = [] := by
    rw [get_implement_size]
    simp [implementation, hi]
  have hbelow : ∀ l ∈ u.ancestors t, l < u.size := by
    intro l hl
    exact lt_size_of_mem_ancestors hc ht hl
  have hqueue : (u.ancestors t).flatMap
        (fun l => ((u.implement settings t members).get l).interfaces) =
      (u.ancestors t).flatMap fun l => (u.get l).interfaces := by
    apply List.flatMap_congr
    intro l hl
    rw [get_implement_of_lt (hbelow l hl)]
  have hseen : ∀ a < u.size, a ∈ u.size :: u.ancestors t ↔ a ∈ u.ancestors t := by
    intro a ha
    simp [Nat.ne_of_lt ha]
  rw [supertypes, hancestors, List.flatMap_cons, hinterfaces, List.nil_append, hqueue]
  rw [implement, breadthFirst_push hc hseen fun a ha => ?_, List.cons_append, supertypes]
  obtain ⟨l, -, hl⟩ := List.mem_flatMap.1 ha
  exact hc.supertype l a (inherits_of_mem_interfaces hl)

theorem object_lt_size (hobject : u.get Standard.object = Standard.rootClass) :
    Standard.object < u.size := by
  by_contra hle
  rw [get_of_size_le (Nat.le_of_not_lt hle)] at hobject
  exact absurd (congrArg Descriptor.name hobject) (by decide)

theorem ancestors_object (hobject : u.get Standard.object = Standard.rootClass) :
    u.ancestors Standard.object = [Standard.object] := by
  rw [ancestors, chain_succ, hobject]
  rfl

theorem ancestors_of_superclass_eq_none (h : (u.get t).superclass = none) :
    u.ancestors t = [t] := by
  rw [ancestors, chain_succ, h]
  rfl

/-- The class generated for an interface puts itself and the root class in front of the interface.
The root class leads to no interface, so the rest is met in the same order. -/
theorem supertypes_implement_of_interface (hc : u.Closed) (ht : t < u.size)
    (hobject : u.get Standard.object = Standard.rootClass)
    (hi : (u.get t).isInterface = true) (hsuper : (u.get t).superclass = none) :
    (u.implement settings t members).supertypes u.size =
      u.size :: Standard.object :: (u.supertypes t).filter (· ≠ Standard.object) := by
  have hroot := object_lt_size hobject
  have hne : t ≠ Standard.object := by
    rintro rfl
    rw [hobject] at hi
    exact absurd hi (by decide)
  have hancestors : (u.implement settings t members).ancestors u.size =
      [u.size, Standard.object] := by
    rw [ancestors_implement hc hroot (by simp [implementation, hi]), ancestors_object hobject]
  have hqueue : [u.size, Standard.object].flatMap
      (fun l => ((u.implement settings t members).get l).interfaces) = [t] := by
    simp only [List.flatMap_cons, List.flatMap_nil, get_implement_size, get_implement_of_lt hroot,
      hobject]
    simp [implementation, hi, Standard.rootClass, Standard.packaged]
  -- the walk starts at `t` as it does for `t` itself, but with the root class seen
  have hmarked : ∀ a, a ∈ [t, Standard.object] ↔ a ∈ [Standard.object, t] := by
    intro a
    simp [or_comm]
  have hwalk : breadthFirst u.ids (fun a => (u.get a).interfaces) [Standard.object] [t] =
      t :: (breadthFirst u.ids (fun a => (u.get a).interfaces) [t] (u.get t).interfaces).filter
        (· ≠ Standard.object) := by
    rw [breadthFirst, if_neg (by simpa using hne), if_pos (by simpa [ids] using ht),
      List.nil_append, breadthFirst_seen_congr _ hmarked,
      breadthFirst_cons_seen (by rw [hobject]; rfl)]
  have hsupertypes : u.supertypes t =
      t :: breadthFirst u.ids (fun a => (u.get a).interfaces) [t] (u.get t).interfaces := by
    rw [supertypes, ancestors_of_superclass_eq_none hsuper]
    simp
  have hseen : ∀ a < u.size, a ∈ [u.size, Standard.object] ↔ a ∈ [Standard.object] := by
    intro a ha
    simp [Nat.ne_of_lt ha]
  rw [supertypes, hancestors, hqueue, implement, breadthFirst_push hc hseen (by simpa using ht),
    hwalk, hsupertypes, List.filter_cons_of_pos (by simpa using hne)]
  rfl

theorem mem_ancestors_implement (hc : u.Closed) (ht : t < u.size)
    (hobject : u.get Standard.object = Standard.rootClass) {l : TypeId}
    (h : l ∈ (u.implement settings t members).ancestors u.size) :
    l = u.size ∨ l = Standard.object ∨ l ∈ u.ancestors t := by
  cases hi : (u.get t).isInterface with
  | false =>
      rw [ancestors_implement hc ht (by simp [implementation, hi])] at h
      exact (List.mem_cons.1 h).imp_right Or.inr
  | true =>
      rw [ancestors_implement hc (object_lt_size hobject) (by simp [implementation, hi]),
        ancestors_object hobject] at h
      exact (List.mem_cons.1 h).imp_right fun hl => Or.inl (List.mem_singleton.1 hl)

/-- Besides itself and the root class, the added class has no new supertypes. -/
theorem mem_supertypes_implement (hc : u.Closed) (ht : t < u.size)
    (hobject : u.get Standard.object = Standard.rootClass)
    (hsuper : (u.get t).isInterface = true → (u.get t).superclass = none)
    (h : s ∈ (u.implement settings t members).supertypes u.size) :
    s = u.size ∨ s = Standard.object ∨ s ∈ u.supertypes t := by
  cases hi : (u.get t).isInterface with
  | false =>
      rw [supertypes_implement_of_class hc ht hi] at h
      exact (List.mem_cons.1 h).imp_right Or.inr
  | true =>
      rw [supertypes_implement_of_interface hc ht hobject hi (hsuper hi)] at h
      exact (List.mem_cons.1 h).imp_right fun hs =>
        (List.mem_cons.1 hs).imp_right List.mem_of_mem_filter

/-! ## Winners of the added class -/

/-- The added class declares the public signatures among those it implements. -/
theorem declares_implement_iff (hc : u.Closed) (hsub : ∀ o ∈ members, o ∈ u.obligations t) :
    (u.implement settings t members).Declares u.size u.size sig ↔
      ∃ o ∈ members, o.isPublic = true ∧ u.signature o = sig := by
  have hsig : ∀ o ∈ members, (u.implement settings t members).signature
      (o.implementedBy u.size) = u.signature o := by
    intro o ho
    obtain ⟨s, hs⟩ := exists_mem_methods_of_mem_obligations (hsub o ho)
    exact signature_implementedBy hc hs
  simp only [Declares, get_implement_size, implementation, ne_eq, not_true_eq_false, and_false,
    not_false_eq_true, and_true]
  constructor
  · rintro ⟨m, hm, hpub, h⟩
    obtain ⟨o, ho, rfl⟩ := List.mem_map.1 hm
    exact ⟨o, ho, (isPublic_implementedBy _ o).symm.trans hpub, (hsig o ho).symm.trans h⟩
  · rintro ⟨o, ho, hpub, h⟩
    exact ⟨_, List.mem_map_of_mem ho, (isPublic_implementedBy _ o).trans hpub,
      (hsig o ho).trans h⟩

/-- An abstract public method of the added class wins among its supertypes, past the class
itself. -/
theorem mem_publicObligations_implement_iff {rest : List TypeId} (hc : u.Closed)
    (hsub : ∀ o ∈ members, o ∈ u.obligations t)
    (hrest : (u.implement settings t members).supertypes u.size = u.size :: rest) :
    m ∈ (u.implement settings t members).publicObligations u.size ↔
      m.isAbstract = true ∧
      (∀ o ∈ members, o.isPublic = true →
        u.signature o ≠ (u.implement settings t members).signature m) ∧
      rest.findSome? ((u.implement settings t members).contribution? u.size
        ((u.implement settings t members).signature m)) = some m := by
  rw [mem_publicObligations_iff, mem_publicMethods_iff, hrest, List.findSome?_cons]
  cases hself : (u.implement settings t members).contribution? u.size
      ((u.implement settings t members).signature m) u.size with
  | none =>
      have hnone := mt (declares_implement_iff hc hsub).2 (contribution?_eq_none_iff.1 hself)
      simp only [not_exists, not_and] at hnone
      constructor
      · intro h
        exact ⟨h.2, hnone, h.1⟩
      · intro h
        exact ⟨h.2.2, h.1⟩
  | some o =>
      -- the added class declares the signature itself, and nothing that it declares is abstract
      obtain ⟨hfrom, hsig⟩ := signature_of_contribution? hself
      have hdecl := declares_iff.2 ⟨o, hfrom, hsig⟩
      obtain ⟨o', ho', hpub, hsig'⟩ := (declares_implement_iff hc hsub).1 hdecl
      refine iff_of_false ?_ fun h => h.2.1 o' ho' hpub hsig'
      rintro ⟨hm, habs⟩
      obtain rfl := Option.some.inj hm
      have hmem := (mem_publicMethodsFrom_iff.1 hfrom).1
      rw [get_implement_size] at hmem
      obtain ⟨p, -, rfl⟩ := List.mem_map.1 hmem
      exact Bool.false_ne_true ((not_isAbstract_implementedBy _ p).symm.trans habs)

/-! ## The chain of the added class -/

theorem hiddenIn?_implement_size :
    (u.implement settings t members).hiddenIn? sig u.size = none := by
  rw [hiddenIn?_eq_none_iff]
  intro m hm hhidden
  rw [get_implement_size] at hm
  obtain ⟨o, -, rfl⟩ := List.mem_map.1 hm
  have habs := (Member.isHidden_iff.1 hhidden).1
  exact absurd ((not_isAbstract_implementedBy _ o).symm.trans habs) Bool.false_ne_true

/-- The added class implements all that it declares. -/
theorem implementedAt_implement_size (hc : u.Closed) (hsub : ∀ o ∈ members, o ∈ u.obligations t) :
    (u.implement settings t members).implementedAt u.size = members.map u.signature := by
  have hall : (members.map (Member.implementedBy u.size)).filter (fun m => !m.isAbstract) =
      members.map (Member.implementedBy u.size) := by
    rw [List.filter_eq_self]
    intro m hm
    obtain ⟨o, -, rfl⟩ := List.mem_map.1 hm
    rw [not_isAbstract_implementedBy, Bool.not_false]
  rw [implementedAt, get_implement_size, implementation, hall, List.map_map]
  apply List.map_congr_left
  intro o ho
  obtain ⟨s, hs⟩ := exists_mem_methods_of_mem_obligations (hsub o ho)
  exact signature_implementedBy hc hs

/-- A type at the end of the universe changes nothing about what a chain leaves open. -/
theorem openHidden?_push (hc : u.Closed) (d : Descriptor) {levels : List TypeId}
    (hlevels : ∀ l ∈ levels, l < u.size) :
    (u.push d).openHidden? sig levels = u.openHidden? sig levels := by
  induction levels with
  | nil => rfl
  | cons l rest ih =>
      have hl : (u.push d).get l = u.get l := get_push_of_lt u d (hlevels l List.mem_cons_self)
      have hhidden : (u.push d).hiddenIn? sig l = u.hiddenIn? sig l := by
        rw [hiddenIn?, hiddenIn?, hl]
        apply List.find?_congr
        intro m hm
        rw [signature_push_of_mem hc hm]
      have himplemented : (u.push d).implementedAt l = u.implementedAt l := by
        rw [implementedAt, implementedAt, hl]
        apply List.map_congr_left
        intro m hm
        exact signature_push_of_mem hc (List.mem_of_mem_filter hm)
      rw [openHidden?, openHidden?, hhidden, himplemented,
        ih fun k hk => hlevels k (List.mem_cons_of_mem l hk)]

/-- What the classes above leave open, the added class leaves open as far as it does not implement
it. -/
theorem openHidden?_implement (hc : u.Closed) (hsub : ∀ o ∈ members, o ∈ u.obligations t)
    {levels : List TypeId} (hlevels : ∀ l ∈ levels, l < u.size) :
    (u.implement settings t members).openHidden? sig (u.size :: levels) =
      if sig ∈ members.map u.signature then none else u.openHidden? sig levels := by
  rw [openHidden?, hiddenIn?_implement_size, Option.none_or,
    implementedAt_implement_size hc hsub, implement, openHidden?_push hc _ hlevels]

end Universe

end Skeletal
