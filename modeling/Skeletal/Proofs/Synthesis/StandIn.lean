import Skeletal.Proofs.Reach.Merged
import Skeletal.Proofs.Synthesis.Obligation
import Skeletal.Proofs.Universe.Correspondence

/-!
# Types that stand in for one another

Two places of one universe may hold types that say the same to a type that inherits from them. Where
some lists of interfaces name the one and others the other, the walk along the supertypes may meet
both. Read as one place, it meets the same places in the same order whichever of the two is named
(`Exchanges.firstMet_map_supertypes`), and what it meets again adds no signature and hides none. So
any type but the two has abstract methods of the same signatures (`Exchanges.abstractSignatures`),
whichever of them it or its supertypes name.
-/

set_option autoImplicit false

namespace Skeletal.Universe

/-- Signatures of the abstract methods of a type. -/
def abstractSignatures (u : Universe) (t : TypeId) : Except SynthesisError (List Signature) :=
  (u.abstractMethods t).map (List.map u.signature)

/-- The members have one signature and the same modifiers. -/
structure SameHeader (u : Universe) (m n : Member) : Prop where
  signature : u.signature m = u.signature n
  modifiers : m.modifiers = n.modifiers

/-- The types at the two places say the same to a type that inherits from them. -/
structure StandsIn (u : Universe) (view raw : TypeId) : Prop where
  canonical : u.canonical view = u.canonical raw
  isInterface : (u.get view).isInterface = (u.get raw).isInterface
  membersUnknown : (u.get view).membersUnknown = (u.get raw).membersUnknown
  interfaces : (u.get view).interfaces = (u.get raw).interfaces
  methods : List.Forall₂ u.SameHeader (u.get view).methods (u.get raw).methods

/-- The place at which a type is read, if `view` is read as `raw`. -/
def readAs (view raw s : TypeId) : TypeId := if s = view then raw else s

/-- The universes differ in no more than that lists of interfaces name the one of two places instead
of the other. -/
structure Exchanges (u v : Universe) (view raw : TypeId) : Prop where
  size : v.size = u.size
  others : ∀ s, v.get s = { u.get s with interfaces := (v.get s).interfaces }
  interfaces : ∀ s, (v.get s).interfaces.map (readAs view raw) =
    (u.get s).interfaces.map (readAs view raw)

variable {u v : Universe} {view raw s t : TypeId} {sig : Signature}

/-! ## Signatures of public obligations -/

/-- One member of each signature is kept, in the order in which the signatures are met. -/
theorem map_signature_firstOfSignature (u : Universe) (members : List Member) :
    (u.firstOfSignature members).map u.signature = firstMet [] (members.map u.signature) := by
  induction members with
  | nil => rfl
  | cons m rest ih =>
      rw [firstOfSignature, List.map_cons, List.map_cons, firstMet_cons_of_not_mem List.not_mem_nil,
        firstMet_cons_seen, ← ih, List.filter_map]
      rfl

/-- The signatures of the public obligations are those that are met along the supertypes and of
which the winning declaration is abstract. -/
theorem map_signature_publicObligations (u : Universe) (t : TypeId) :
    (u.publicObligations t).map u.signature =
      (firstMet [] ((u.supertypes t).flatMap fun s =>
        (u.publicMethodsFrom t s).map u.signature)).filter fun sig =>
          (u.supertypes t).findSome? (fun s => (u.contribution? t sig s).map Member.isAbstract) ==
            some true := by
  have hsignatures : (u.publicMethods t).map u.signature =
      firstMet [] ((u.supertypes t).flatMap fun s => (u.publicMethodsFrom t s).map u.signature) := by
    rw [publicMethods, map_signature_firstOfSignature, List.map_flatMap]
  rw [← hsignatures, List.filter_map, publicObligations]
  congr 1
  apply List.filter_congr
  intro m hm
  -- a public method is the winning declaration of its signature
  have hwinner : (u.supertypes t).findSome?
      (fun s => (u.contribution? t (u.signature m) s).map Member.isAbstract) =
        some m.isAbstract := by
    calc _ = ((u.supertypes t).findSome? (u.contribution? t (u.signature m))).map
          Member.isAbstract := List.map_findSome?.symm
      _ = some m.isAbstract := by rw [mem_publicMethods_iff.1 hm, Option.map_some]
  rw [Function.comp_apply, hwinner]
  simp

/-- Name of a type whose members are unknown. -/
def unknownName? (u : Universe) (s : TypeId) : Option String :=
  if (u.get s).membersUnknown then some (u.canonical s) else none

/-- The first supertype whose members are unknown is named in the refusal. -/
theorem checkMembersKnown_eq (u : Universe) (t : TypeId) : u.checkMembersKnown t =
    match (u.supertypes t).findSome? u.unknownName? with
    | some name => .error (.unknownMembers (u.canonical t) name)
    | none => .ok () := by
  rw [checkMembersKnown]
  induction u.supertypes t with
  | nil => rfl
  | cons s rest ih =>
      rw [List.find?_cons, List.findSome?_cons, unknownName?]
      cases (u.get s).membersUnknown with
      | true => rfl
      | false => exact ih

/-! ## Types that say the same -/

namespace StandsIn

variable (h : u.StandsIn view raw)

include h

/-- To a type that is neither of the two they contribute declarations of the same headers. -/
theorem forall₂_publicMethodsFrom (hview : t ≠ view) (hraw : t ≠ raw) :
    List.Forall₂ u.SameHeader (u.publicMethodsFrom t view) (u.publicMethodsFrom t raw) := by
  refine forall₂_filter h.methods fun m n hmn => ?_
  have hne : (view != t) = (raw != t) := by
    rw [bne_iff_ne.2 hview.symm, bne_iff_ne.2 hraw.symm]
  rw [Member.isPublic, Member.isPublic, Member.isStatic, Member.isStatic, hmn.modifiers,
    h.isInterface, hne]

theorem signatures_publicMethodsFrom (hview : t ≠ view) (hraw : t ≠ raw) :
    (u.publicMethodsFrom t view).map u.signature = (u.publicMethodsFrom t raw).map u.signature :=
  map_eq_of_forall₂ (h.forall₂_publicMethodsFrom hview hraw) fun _ _ hmn => hmn.signature

theorem isAbstract_contribution? (hview : t ≠ view) (hraw : t ≠ raw) (sig : Signature) :
    (u.contribution? t sig view).map Member.isAbstract =
      (u.contribution? t sig raw).map Member.isAbstract := by
  refine map_eq_of_rel (rel_find? (h.forall₂_publicMethodsFrom hview hraw) ?_) ?_
  · intro m n hmn
    rw [hmn.signature]
  · intro m n hmn
    rw [Member.isAbstract, Member.isAbstract, hmn.modifiers]

end StandsIn

/-! ## Walks -/

/-- What is the same at both places is the same at a place and where it is read. -/
theorem eq_readAs {α : Type} {f : TypeId → α} (hf : f view = f raw) (s : TypeId) :
    f (readAs view raw s) = f s := by
  rw [readAs]
  split_ifs with hs
  · rw [hs, hf]
  · rfl

/-- The supertypes read as one place come from a walk along what their types list so read, whatever
place they list. -/
theorem firstMet_map_supertypes {next : TypeId → List TypeId} (hknown : ∀ s ∉ u.ids, next s = [])
    (hnext : ∀ s, (u.get s).interfaces.map (readAs view raw) = next (readAs view raw s))
    (t : TypeId) :
    firstMet [] ((u.supertypes t).map (readAs view raw)) =
      firstMet [] ((u.ancestors t).map (readAs view raw)) ++
        breadthFirst u.ids next ((u.ancestors t).map (readAs view raw))
          (((u.ancestors t).map (readAs view raw)).flatMap next) := by
  have hqueue : ((u.ancestors t).flatMap fun s => (u.get s).interfaces).map (readAs view raw) =
      ((u.ancestors t).map (readAs view raw)).flatMap next := by
    simp only [List.map_flatMap, List.flatMap_map, hnext]
  rw [supertypes, List.map_append, firstMet_append, List.append_nil]
  congr 1
  rw [← hqueue]
  refine firstMet_map_breadthFirst (fun s => interfaces_of_not_mem_ids) hknown hnext
    (fun s hs => List.mem_map_of_mem hs) ?_
  rw [hqueue]
  exact fun s hs i hi => Or.inr (List.mem_flatMap.2 ⟨s, hs, hi⟩)

namespace Exchanges

variable (h : u.Exchanges v view raw)

include h

/-- What does not speak of interfaces is the same. -/
theorem same {α : Type} (f : Descriptor → α)
    (hf : ∀ d interfaces, f { d with interfaces } = f d) (s : TypeId) :
    f (v.get s) = f (u.get s) := by
  rw [h.others, hf]

theorem canonical : v.canonical = u.canonical :=
  funext (h.same Descriptor.canonical fun _ _ => rfl)

theorem signature : v.signature = u.signature := signature_congr h.canonical

theorem ancestors : v.ancestors = u.ancestors := by
  funext t
  rw [Universe.ancestors, Universe.ancestors, h.size,
    chain_congr (h.same Descriptor.superclass fun _ _ => rfl)]

theorem publicMethodsFrom : v.publicMethodsFrom = u.publicMethodsFrom := by
  funext t s
  rw [Universe.publicMethodsFrom, Universe.publicMethodsFrom,
    h.same Descriptor.methods fun _ _ => rfl, h.same Descriptor.isInterface fun _ _ => rfl]

theorem contribution? : v.contribution? = u.contribution? := by
  funext t sig s
  rw [Universe.contribution?, Universe.contribution?, h.publicMethodsFrom, h.signature]

variable (hstands : u.StandsIn view raw)

include hstands

/-- Both walks meet the same types in the same order, if the one place is read as the other. -/
theorem firstMet_map_supertypes (t : TypeId) :
    firstMet [] ((v.supertypes t).map (readAs view raw)) =
      firstMet [] ((u.supertypes t).map (readAs view raw)) := by
  have hknown : ∀ s ∉ u.ids, (u.get s).interfaces.map (readAs view raw) = [] := by
    intro s hs
    rw [interfaces_of_not_mem_ids hs, List.map_nil]
  have hids : v.ids = u.ids := by rw [ids, ids, h.size]
  have hnext : ∀ s, (u.get s).interfaces.map (readAs view raw) =
      (u.get (readAs view raw s)).interfaces.map (readAs view raw) :=
    fun s => (eq_readAs (f := fun s => (u.get s).interfaces.map (readAs view raw))
      (congrArg _ hstands.interfaces) s).symm
  have hknown' : ∀ s ∉ v.ids, (u.get s).interfaces.map (readAs view raw) = [] := by
    rwa [hids]
  rw [Universe.firstMet_map_supertypes hknown hnext, Universe.firstMet_map_supertypes hknown'
    (fun s => (h.interfaces s).trans (hnext s)), h.ancestors, hids]

/-- What is searched for along the supertypes is found alike, if it is the same at both places. -/
theorem findSome?_supertypes {α : Type} {f : TypeId → Option α} (hf : f view = f raw) (t : TypeId) :
    (v.supertypes t).findSome? f = (u.supertypes t).findSome? f := by
  have hread : ∀ l : List TypeId,
      l.findSome? f = (firstMet [] (l.map (readAs view raw))).findSome? f := by
    intro l
    rw [findSome?_firstMet fun _ ha => absurd ha List.not_mem_nil, List.findSome?_map]
    exact findSome?_congr fun s _ => (eq_readAs hf s).symm
  rw [hread, h.firstMet_map_supertypes hstands, ← hread]

/-- What is gathered along the supertypes is met in the same order. -/
theorem firstMet_flatMap_supertypes {α : Type} [DecidableEq α] {f : TypeId → List α}
    (hf : f view = f raw) (t : TypeId) :
    firstMet [] ((v.supertypes t).flatMap f) = firstMet [] ((u.supertypes t).flatMap f) := by
  have hread : ∀ l : List TypeId, firstMet [] (l.flatMap f) =
      firstMet [] ((firstMet [] (l.map (readAs view raw))).flatMap f) := by
    intro l
    rw [firstMet_flatMap_firstMet _ fun _ ha => absurd ha List.not_mem_nil, List.flatMap_map]
    simp only [eq_readAs hf]
  rw [hread, h.firstMet_map_supertypes hstands, ← hread]

/-! ## Obligations -/

variable (hview : t ≠ view) (hraw : t ≠ raw)

include hview hraw

theorem map_signature_publicObligations :
    (v.publicObligations t).map v.signature = (u.publicObligations t).map u.signature := by
  have hfound : ∀ sig, (v.supertypes t).findSome?
        (fun s => (u.contribution? t sig s).map Member.isAbstract) =
      (u.supertypes t).findSome? fun s => (u.contribution? t sig s).map Member.isAbstract :=
    fun sig => h.findSome?_supertypes hstands (hstands.isAbstract_contribution? hview hraw sig) t
  rw [Universe.map_signature_publicObligations, Universe.map_signature_publicObligations,
    h.publicMethodsFrom, h.signature, h.contribution?, h.firstMet_flatMap_supertypes hstands
      (hstands.signatures_publicMethodsFrom hview hraw)]
  simp only [hfound]

theorem map_signature_obligations :
    (v.obligations t).map v.signature = (u.obligations t).map u.signature := by
  have hexposed := h.map_signature_publicObligations hstands hview hraw
  rw [obligations, obligations, List.map_append, List.map_append, hexposed, h.ancestors,
    hiddenObligations_of_sameMethods h.canonical (h.same Descriptor.methods fun _ _ => rfl),
    h.signature]

omit hview hraw in
theorem checkMembersKnown (t : TypeId) : v.checkMembersKnown t = u.checkMembersKnown t := by
  have hnamed : u.unknownName? view = u.unknownName? raw := by
    rw [unknownName?, unknownName?, hstands.membersUnknown, hstands.canonical]
  have hsame : v.unknownName? = u.unknownName? := by
    funext s
    rw [unknownName?, unknownName?, h.same Descriptor.membersUnknown fun _ _ => rfl, h.canonical]
  rw [checkMembersKnown_eq, checkMembersKnown_eq, hsame, h.canonical,
    h.findSome?_supertypes hstands hnamed]

omit hstands hview hraw in
theorem checkOpenChain (t : TypeId) : v.checkOpenChain t = u.checkOpenChain t := by
  rw [Universe.checkOpenChain, Universe.checkOpenChain, h.ancestors, h.canonical]
  simp only [h.same Descriptor.isPrivate fun _ _ => rfl]

/-- A type that is neither of the two has abstract methods of the same signatures, in the same
order, whichever of the two are named. -/
theorem abstractSignatures : v.abstractSignatures t = u.abstractSignatures t := by
  rw [Universe.abstractSignatures, Universe.abstractSignatures, abstractMethods, abstractMethods,
    h.checkMembersKnown hstands, h.checkOpenChain]
  cases u.checkMembersKnown t with
  | error e => rfl
  | ok _ =>
      cases u.checkOpenChain t with
      | error e => rfl
      | ok _ => exact congrArg Except.ok (h.map_signature_obligations hstands hview hraw)

end Exchanges

end Skeletal.Universe
