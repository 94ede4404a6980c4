import Skeletal.Proofs.Synthesis.Implementation
import Skeletal.Proofs.Universe.Hierarchy

/-!
# The generated class is complete

The class generated for an accepted type, seen as a type of its own, has no abstract method left,
and the class generated for a class has no stub to spare (`implementation_completes`). For an
interface this takes static methods that are apart from the abstract ones, since the generated
class does not inherit them (`sharedStatic_not_completed`).
-/

set_option autoImplicit false

namespace Skeletal

namespace Universe

/-- No static method of `t` has the signature of an abstract method of `t` or of one of its
supertypes. Static methods of interfaces are left aside, since a subtype inherits none of them. -/
def StaticsApart (u : Universe) (t : TypeId) : Prop :=
  ∀ m ∈ (u.get t).methods, m.isStatic = true → ∀ s ∈ u.supertypes t, ∀ o ∈ (u.get s).methods,
    o.isAbstract = true → ¬ (o.isStatic = true ∧ (u.get s).isInterface = true) →
      u.signature o ≠ u.signature m

instance (u : Universe) (t : TypeId) : Decidable (u.StaticsApart t) :=
  inferInstanceAs (Decidable (∀ m ∈ (u.get t).methods, _ → ∀ s ∈ u.supertypes t, _))

variable {settings : Settings} {u : Universe} {t : TypeId} {members : List Member} {m : Member}
  {sig : Signature} {text : String}

/-! ## Classes -/

section Class

variable (hc : u.Closed) (ht : t < u.size) (hi : (u.get t).isInterface = false)
  (hsub : ∀ o ∈ members, o ∈ u.obligations t)

include hc ht hi hsub

/-- The public methods of the added class are abstract where those of the class it extends are and
are not implemented. -/
theorem mem_publicObligations_implement_class :
    m ∈ (u.implement settings t members).publicObligations u.size ↔
      m ∈ u.publicObligations t ∧ u.signature m ∉ members.map u.signature := by
  have hsame : ∀ sig, (u.supertypes t).findSome?
        ((u.implement settings t members).contribution? u.size sig) =
      (u.supertypes t).findSome? (u.contribution? t sig) := by
    intro sig
    apply findSome?_congr
    intro s hs
    apply contribution?_push hc (lt_size_of_mem_supertypes hc ht hs)
    intro hint heq
    rw [heq, hi] at hint
    exact Bool.false_ne_true hint
  rw [mem_publicObligations_implement_iff hc hsub (supertypes_implement_of_class hc ht hi), hsame]
  constructor
  · rintro ⟨habs, hnew, hwin⟩
    obtain ⟨-, d, -, -, hd, -⟩ := List.findSome?_eq_some_iff.1 hwin
    have hsig := (signature_of_contribution? hd).2
    rw [← hsig] at hwin hnew
    have hmem : m ∈ u.publicObligations t :=
      mem_publicObligations_iff.2 ⟨mem_publicMethods_iff.2 hwin, habs⟩
    -- the obligation of this signature is `m` itself, so `m` would be implemented
    refine ⟨hmem, ?_⟩
    intro hin
    obtain ⟨o, ho, hom⟩ := List.mem_map.1 hin
    obtain rfl := eq_of_mem_obligations (hsub o ho) (List.mem_append_left _ hmem) hom
    exact hnew o ho (mem_publicMethodsFrom_iff.1 (signature_of_contribution? hd).1).2.1 rfl
  · rintro ⟨hmem, hnew⟩
    obtain ⟨hpub, habs⟩ := mem_publicObligations_iff.1 hmem
    obtain ⟨s, hs⟩ := exists_mem_methods_of_mem_obligations (List.mem_append_left _ hmem)
    rw [signature_implement hc hs]
    refine ⟨habs, ?_, mem_publicMethods_iff.1 hpub⟩
    intro o ho _ hom
    exact hnew (List.mem_map.2 ⟨o, ho, hom⟩)

/-- The obligations left over by the added class are those it does not implement. -/
theorem mem_obligations_implement_class :
    m ∈ (u.implement settings t members).obligations u.size ↔
      m ∈ u.obligations t ∧ u.signature m ∉ members.map u.signature := by
  have hancestors : (u.implement settings t members).ancestors u.size = u.size :: u.ancestors t :=
    ancestors_implement hc ht (by simp [implementation, hi])
  have hpublic : ∀ {o : Member}, o ∈ (u.implement settings t members).publicObligations u.size ↔
      o ∈ u.publicObligations t ∧ u.signature o ∉ members.map u.signature :=
    mem_publicObligations_implement_class hc ht hi hsub
  have hsig : ∀ o ∈ u.publicObligations t,
      (u.implement settings t members).signature o = u.signature o := by
    intro o ho
    obtain ⟨s, hs⟩ := exists_mem_methods_of_mem_obligations (List.mem_append_left _ ho)
    exact signature_implement hc hs
  rw [mem_obligations_iff, hancestors, openHidden?_implement hc hsub fun l hl =>
    lt_size_of_mem_ancestors hc ht hl, hpublic, mem_obligations_iff]
  constructor
  · rintro (⟨hm, hnew⟩ | ⟨hhid, hopen⟩)
    · exact ⟨Or.inl hm, hnew⟩
    · split at hopen
      · cases hopen
      · rename_i hnew
        obtain ⟨-, l, -, -, hl, -⟩ := openHidden?_eq_some_iff.1 hopen
        -- what the added class exposes of the signature, the class exposes as well
        rw [← (hiddenIn?_eq_some hl).2.2] at hhid hopen hnew
        refine ⟨Or.inr ⟨fun hin => hhid ?_, hopen⟩, hnew⟩
        obtain ⟨o, ho, hom⟩ := List.mem_map.1 hin
        exact List.mem_map.2 ⟨o, hpublic.2 ⟨ho, hom ▸ hnew⟩, (hsig o ho).trans hom⟩
  · rintro ⟨hm | ⟨hhid, hopen⟩, hnew⟩
    · exact Or.inl ⟨hm, hnew⟩
    · obtain ⟨-, l, -, -, hl, -⟩ := openHidden?_eq_some_iff.1 hopen
      rw [signature_implement hc (hiddenIn?_eq_some hl).1, if_neg hnew]
      refine Or.inr ⟨fun hin => hhid ?_, hopen⟩
      obtain ⟨o, ho, hom⟩ := List.mem_map.1 hin
      have hobl := (hpublic.1 ho).1
      exact List.mem_map.2 ⟨o, hobl, (hsig o hobl).symm.trans hom⟩

omit hsub in
/-- The class generated for a class leaves no obligation. -/
theorem obligations_implement_class :
    (u.implement settings t (u.obligations t)).obligations u.size = [] := by
  rw [List.eq_nil_iff_forall_not_mem]
  intro m hm
  obtain ⟨hmem, hnew⟩ := (mem_obligations_implement_class hc ht hi fun _ ho => ho).1 hm
  exact hnew (List.mem_map_of_mem hmem)

omit hsub in
/-- Without the stub of one method, the class generated for a class leaves that method alone. -/
theorem obligations_implement_class_without {before after : List Member}
    (hsplit : u.obligations t = before ++ m :: after) :
    (u.implement settings t (before ++ after)).obligations u.size = [m] := by
  have hothers : ∀ o ∈ before ++ after, o ∈ u.obligations t := by
    intro o ho
    rw [hsplit, List.mem_append, List.mem_cons]
    exact (List.mem_append.1 ho).imp_right Or.inr
  have hnodup := nodup_signature_obligations u t
  rw [hsplit, List.map_append, List.map_cons, List.nodup_middle, List.nodup_cons,
    ← List.map_append] at hnodup
  -- left is what the other stubs do not implement, and that is `m`
  have honly : ∀ o, o ∈ (u.implement settings t (before ++ after)).obligations u.size ↔
      o ∈ [m] := by
    intro o
    rw [mem_obligations_implement_class hc ht hi hothers, List.mem_singleton]
    constructor
    · rintro ⟨ho, hnew⟩
      rw [hsplit, List.mem_append, List.mem_cons, or_left_comm, ← List.mem_append] at ho
      exact ho.resolve_right fun h => hnew (List.mem_map_of_mem h)
    · rintro rfl
      exact ⟨hsplit ▸ by simp, hnodup.1⟩
  have hleft := List.Nodup.of_map _ (nodup_signature_obligations
    (u.implement settings t (before ++ after)) u.size)
  exact List.perm_singleton.1 ((List.perm_ext_iff_of_nodup hleft (List.nodup_singleton m)).2 honly)

end Class

/-! ## Interfaces -/

/-- The root class leaves nothing open. -/
theorem not_isAbstract_of_mem_object (hobject : u.get Standard.object = Standard.rootClass)
    (hm : m ∈ (u.get Standard.object).methods) : ¬ m.isAbstract = true := by
  have hbodies : ∀ o ∈ Standard.rootClass.methods, ¬ o.isAbstract = true := by decide
  rw [hobject] at hm
  exact hbodies m hm

theorem not_isAbstract_of_contribution?_object
    (hobject : u.get Standard.object = Standard.rootClass)
    (h : u.contribution? t sig Standard.object = some m) : ¬ m.isAbstract = true := by
  obtain ⟨hfrom, -⟩ := signature_of_contribution? h
  exact not_isAbstract_of_mem_object hobject (mem_publicMethodsFrom_iff.1 hfrom).1

/-- Where no static method of `t` has the signature, `t` contributes the same to itself and to
others. -/
theorem contribution?_self (h : ∀ o ∈ (u.get t).methods, o.isStatic = true → u.signature o ≠ sig)
    (i : TypeId) : u.contribution? i sig t = u.contribution? t sig t := by
  rw [contribution?, publicMethodsFrom, List.find?_filter, contribution?, publicMethodsFrom,
    List.find?_filter]
  apply List.find?_congr
  intro o ho
  by_cases hsig : u.signature o = sig
  · have hstatic : o.isStatic = false := Bool.eq_false_iff.2 fun hs => h o ho hs hsig
    simp [hstatic]
  · simp [hsig]

section Interface

variable (hc : u.Closed) (ht : t < u.size)
  (hobject : u.get Standard.object = Standard.rootClass)
  (hi : (u.get t).isInterface = true) (hsuper : (u.get t).superclass = none)
  (hstatic : u.StaticsApart t)

include hc ht

/-- Seen from the added class, `t` loses its static methods. Where none of them has the signature,
all supertypes contribute what they contribute to `t`. -/
theorem contribution?_implement_interface
    (hfree : ∀ o ∈ (u.get t).methods, o.isStatic = true → u.signature o ≠ sig) :
    ∀ s ∈ u.supertypes t,
      (u.implement settings t members).contribution? u.size sig s = u.contribution? t sig s := by
  intro s hs
  by_cases hst : s = t
  · subst hst
    rw [← contribution?_self hfree u.size]
    exact contribution?_push hc ht fun _ => Nat.ne_of_lt ht
  · exact contribution?_push hc (lt_size_of_mem_supertypes hc ht hs) fun _ => hst

include hobject hstatic

/-- An abstract public method of the class generated for an interface is one of the interface. -/
theorem mem_publicMethods_of_implement_interface (habs : m.isAbstract = true)
    (hwin : (Standard.object :: (u.supertypes t).filter (· ≠ Standard.object)).findSome?
      ((u.implement settings t members).contribution? u.size sig) = some m) :
    m ∈ u.publicMethods t ∧ u.signature m = sig := by
  have hclass : (u.get Standard.object).isInterface = false := by
    rw [hobject]
    rfl
  have hsame : (u.implement settings t members).contribution? u.size sig Standard.object =
      u.contribution? t sig Standard.object :=
    contribution?_push hc (object_lt_size hobject) (by simp [hclass])
  rw [List.findSome?_cons, hsame] at hwin
  -- the root class has no abstract method, so the winner comes from further on
  have hskip : u.contribution? t sig Standard.object = none := by
    cases h : u.contribution? t sig Standard.object with
    | none => rfl
    | some o =>
        rw [h] at hwin
        obtain rfl := Option.some.inj hwin
        exact absurd habs (not_isAbstract_of_contribution?_object hobject h)
  rw [hskip] at hwin
  obtain ⟨d, hd, hm⟩ := List.exists_of_findSome?_eq_some hwin
  have hdt := List.mem_of_mem_filter hd
  have hlt := lt_size_of_mem_supertypes hc ht hdt
  obtain ⟨hfrom, hsig⟩ := signature_of_contribution? hm
  obtain ⟨hmem, -, hcounts⟩ := mem_publicMethodsFrom_iff.1 hfrom
  rw [get_implement_of_lt hlt] at hmem hcounts
  rw [signature_implement hc hmem] at hsig
  -- the winner is inherited, so the static methods of `t` have other signatures
  have hinherited : ¬ (m.isStatic = true ∧ (u.get d).isInterface = true) := by
    rintro ⟨hs, hinterface⟩
    exact hcounts ⟨hs, hinterface, Nat.ne_of_lt hlt⟩
  have hfree : ∀ o ∈ (u.get t).methods, o.isStatic = true → u.signature o ≠ sig := by
    intro o ho hs heq
    exact hstatic o ho hs d hdt m hmem habs hinherited (hsig.trans heq.symm)
  -- so the search for the winner is the one among the supertypes of `t`
  have hall : ∀ s ∈ u.supertypes t,
      (u.implement settings t members).contribution? u.size sig s = u.contribution? t sig s :=
    contribution?_implement_interface hc ht hfree
  have hrest : ((u.supertypes t).filter (· ≠ Standard.object)).findSome? (u.contribution? t sig) =
      (u.supertypes t).findSome? (u.contribution? t sig) := by
    apply findSome?_filter
    intro s _ hs
    rw [of_decide_eq_false hs |> not_not.1, hskip]
  have hwinner : (u.supertypes t).findSome? (u.contribution? t sig) = some m := by
    rw [← hrest, ← findSome?_congr fun s hs => hall s (List.mem_of_mem_filter hs)]
    exact hwin
  exact ⟨mem_publicMethods_iff.2 (hsig ▸ hwinner), hsig⟩

include hi hsuper

/-- The class generated for an interface leaves no obligation. -/
theorem obligations_implement_interface :
    (u.implement settings t (u.obligations t)).obligations u.size = [] := by
  rw [List.eq_nil_iff_forall_not_mem]
  intro m hm
  have hroot := object_lt_size hobject
  rcases mem_obligations_iff.1 hm with hm | ⟨-, hopen⟩
  · obtain ⟨habs, hnew, hwin⟩ := (mem_publicObligations_implement_iff hc (fun _ ho => ho)
      (supertypes_implement_of_interface hc ht hobject hi hsuper)).1 hm
    obtain ⟨hpub, hsig⟩ :=
      mem_publicMethods_of_implement_interface hc ht hobject hstatic habs hwin
    have hmem : m ∈ u.obligations t :=
      List.mem_append_left _ (mem_publicObligations_iff.2 ⟨hpub, habs⟩)
    obtain ⟨-, d, -, -, hd, -⟩ := exists_split_of_mem_publicMethods hpub
    exact hnew m hmem (mem_publicMethodsFrom_iff.1 hd).2.1 hsig
  · have hancestors : (u.implement settings t (u.obligations t)).ancestors u.size =
        [u.size, Standard.object] := by
      rw [ancestors_implement hc hroot (by simp [implementation, hi]), ancestors_object hobject]
    rw [hancestors, openHidden?_implement hc (fun _ ho => ho) (by simpa using hroot)] at hopen
    split at hopen
    · cases hopen
    · obtain ⟨before, l, after, hsplit, hl, -⟩ := openHidden?_eq_some_iff.1 hopen
      have hl' : l ∈ [Standard.object] := hsplit ▸ by simp
      obtain ⟨hmem, hhidden, -⟩ := hiddenIn?_eq_some hl
      rw [List.mem_singleton.1 hl'] at hmem
      exact not_isAbstract_of_mem_object hobject hmem (Member.isHidden_iff.1 hhidden).1

end Interface

/-! ## The generated class -/

/-- The checks of an accepted type let the added class through as well. -/
theorem abstractMethods_implement (hc : u.Closed) (ht : t < u.size)
    (hobject : u.get Standard.object = Standard.rootClass)
    (hsuper : (u.get t).isInterface = true → (u.get t).superclass = none)
    (hknown : ∀ s ∈ u.supertypes t, (u.get s).membersUnknown = false)
    (hopen : ∀ l ∈ u.ancestors t, (u.get l).isPrivate = false) (members : List Member) :
    (u.implement settings t members).abstractMethods u.size =
      .ok ((u.implement settings t members).obligations u.size) := by
  have hroot := object_lt_size hobject
  -- the modifiers of the added class are among those of `t`, which is not private
  have hprivate : (u.implementation settings t members).isPrivate = false := by
    have ht := hopen t (self_mem_ancestors u t)
    simp only [Descriptor.isPrivate, List.contains_eq_mem, decide_eq_false_iff_not] at ht ⊢
    intro h
    exact ht (of_decide_eq_true (List.mem_filter.1 h).2).1
  refine abstractMethods_eq_ok_iff.2 ⟨?_, ?_, rfl⟩
  · intro s hs
    rcases mem_supertypes_implement hc ht hobject hsuper hs with rfl | rfl | hs
    · rw [get_implement_size]
      rfl
    · rw [get_implement_of_lt hroot, hobject]
      rfl
    · rw [get_implement_of_lt (lt_size_of_mem_supertypes hc ht hs)]
      exact hknown s hs
  · intro l hl
    rcases mem_ancestors_implement hc ht hobject hl with rfl | rfl | hl
    · rw [get_implement_size]
      exact hprivate
    · rw [get_implement_of_lt hroot, hobject]
      rfl
    · rw [get_implement_of_lt (lt_size_of_mem_ancestors hc ht hl)]
      exact hopen l hl

/-- The class generated for an accepted type leaves no abstract method. If the type is a class, no
stub is superfluous: without one of them its method alone is left. -/
theorem implementation_completes (hc : u.Closed)
    (hobject : u.get Standard.object = Standard.rootClass)
    (haccepted : settings.synthesize u t = .ok text)
    (hsuper : (u.get t).isInterface = true → (u.get t).superclass = none)
    (hstatic : (u.get t).isInterface = true → u.StaticsApart t) :
    ∃ members, u.abstractMethods t = .ok members ∧
      (u.implement settings t members).abstractMethods u.size = .ok [] ∧
      ((u.get t).isInterface = false → ∀ before m after, members = before ++ m :: after →
        (u.implement settings t (before ++ after)).abstractMethods u.size = .ok [m]) := by
  have ht := lt_size_of_synthesize haccepted
  have hmembers := abstractMethods_of_synthesize haccepted
  obtain ⟨hknown, hopen, -⟩ := abstractMethods_eq_ok_iff.1 hmembers
  refine ⟨u.obligations t, hmembers, ?_, ?_⟩
  · rw [abstractMethods_implement hc ht hobject hsuper hknown hopen]
    cases hi : (u.get t).isInterface with
    | false => rw [obligations_implement_class hc ht hi]
    | true => rw [obligations_implement_interface hc ht hobject hi (hsuper hi) (hstatic hi)]
  · intro hi before m after hsplit
    rw [abstractMethods_implement hc ht hobject hsuper hknown hopen,
      obligations_implement_class_without hc ht hi hsplit]

/-- An interface with a static and an abstract method of one signature. -/
def sharedStatic : Universe :=
  standard.push
    { name := "T", canonical := "T", kind := .interfaceType
      methods :=
        [{ name := "f", modifiers := ["public", "static"], result := some Standard.void,
           declaring := some standard.size },
         { name := "f", modifiers := ["public", "abstract"], result := some Standard.void,
           declaring := some standard.size }] }

/-- That static methods are apart from the methods of the superinterfaces alone is not enough: in
`sharedStatic` the static method hides the abstract one from the interface that declares both, so
that no stub is made, but not from the class that implements the interface. -/
theorem sharedStatic_not_completed :
    sharedStatic.Acyclic ∧ sharedStatic.Closed ∧
      sharedStatic.get Standard.object = Standard.rootClass ∧
      (∀ s < sharedStatic.size, (sharedStatic.get s).isInterface = true →
        (sharedStatic.get s).superclass = none) ∧
      (∀ s < sharedStatic.size, ∀ m ∈ (sharedStatic.get s).methods, m.result ≠ none) ∧
      (∀ m ∈ (sharedStatic.get standard.size).methods, m.isStatic = true →
        ∀ s ∈ sharedStatic.supertypes standard.size, s ≠ standard.size →
          ∀ o ∈ (sharedStatic.get s).methods, o.isStatic = false →
            sharedStatic.signature o ≠ sharedStatic.signature m) ∧
      (∃ text, Settings.synthesize {} sharedStatic standard.size = .ok text) ∧
      ∃ members, sharedStatic.abstractMethods standard.size = .ok members ∧
        (sharedStatic.implement {} standard.size members).abstractMethods sharedStatic.size ≠
          .ok [] := by
  have hsupertypes : sharedStatic.supertypes standard.size = [standard.size] := by cbv
  have hleft : (sharedStatic.implement {} standard.size []).abstractMethods sharedStatic.size =
      .ok [{ name := "f", modifiers := ["public", "abstract"], result := some Standard.void,
             declaring := some standard.size }] := by cbv
  refine ⟨acyclic_of_lt (by decide +kernel), closed_standard.push (by decide) (by decide), rfl,
    by decide +kernel, by decide +kernel, ?_, ?_, [], by cbv, ?_⟩
  · intro m _ _ s hs hne
    rw [hsupertypes] at hs
    exact absurd (List.mem_singleton.1 hs) hne
  · exact ⟨"class TImpl implements T \x7b\n\n\x7d", by cbv⟩
  · rw [hleft]
    intro h
    cases h

/-- An interface with a static and an abstract method, and an abstract class that implements it and
adds a hidden abstract method. -/
def figures : Universe :=
  (standard.push
    { name := "Shape", canonical := "Shape", kind := .interfaceType
      methods :=
        [{ name := "unit", modifiers := ["public", "static"], result := some Standard.double,
           declaring := some standard.size },
         { name := "area", modifiers := ["public", "abstract"], result := some Standard.double,
           declaring := some standard.size }] }).push
    { name := "Figure", canonical := "Figure", modifiers := ["abstract"]
      superclass := some Standard.object, interfaces := [standard.size]
      constructors := [{ name := "Figure", kind := .constructor }]
      methods :=
        [{ name := "name", modifiers := ["protected", "abstract"], result := some Standard.string,
           declaring := some (standard.size + 1) }] }

theorem closed_figures : figures.Closed :=
  (closed_standard.push (by decide) (by decide)).push (by decide) (by decide)

theorem synthesize_interface_figures : Settings.synthesize {} figures standard.size =
    .ok ("class ShapeImpl implements Shape \x7b\n\n" ++
      "public double area() \x7b return 0; \x7d\n\n\x7d") := by
  cbv

theorem synthesize_class_figures : Settings.synthesize {} figures (standard.size + 1) =
    .ok ("class FigureImpl extends Figure \x7b\n\nFigureImpl() \x7b super(); \x7d\n\n" ++
      "public double area() \x7b return 0; \x7d\n\n" ++
      "protected java.lang.String name() \x7b return null; \x7d\n\n\x7d") := by
  cbv

theorem staticsApart_figures : figures.StaticsApart standard.size := by
  have hsupertypes : figures.supertypes standard.size = [standard.size] := by cbv
  rw [StaticsApart, hsupertypes]
  decide +kernel

/-- The interface and the class of `figures` meet the conditions and are both implemented
completely. -/
theorem figures_completed :
    figures.Closed ∧ figures.get Standard.object = Standard.rootClass ∧
      ((∃ text, Settings.synthesize {} figures standard.size = .ok text) ∧
        (figures.get standard.size).superclass = none ∧ figures.StaticsApart standard.size ∧
        ∃ members, figures.abstractMethods standard.size = .ok members ∧
          (figures.implement {} standard.size members).abstractMethods figures.size = .ok [] ∧
          ((figures.get standard.size).isInterface = false →
            ∀ before m after, members = before ++ m :: after →
              (figures.implement {} standard.size (before ++ after)).abstractMethods
                figures.size = .ok [m])) ∧
      (∃ text, Settings.synthesize {} figures (standard.size + 1) = .ok text) ∧
        ¬ (figures.get (standard.size + 1)).isInterface = true ∧
        ∃ members, figures.abstractMethods (standard.size + 1) = .ok members ∧
          (figures.implement {} (standard.size + 1) members).abstractMethods figures.size =
            .ok [] ∧
          ((figures.get (standard.size + 1)).isInterface = false →
            ∀ before m after, members = before ++ m :: after →
              (figures.implement {} (standard.size + 1) (before ++ after)).abstractMethods
                figures.size = .ok [m]) := by
  have hclass : ¬ (figures.get (standard.size + 1)).isInterface = true := by decide +kernel
  refine ⟨closed_figures, rfl, ⟨⟨_, synthesize_interface_figures⟩, rfl, staticsApart_figures, ?_⟩,
    ⟨_, synthesize_class_figures⟩, hclass, ?_⟩
  · apply implementation_completes closed_figures rfl synthesize_interface_figures
    · intro _
      rfl
    · intro _
      exact staticsApart_figures
  · apply implementation_completes closed_figures rfl synthesize_class_figures
    · intro hinterface
      exact absurd hinterface hclass
    · intro hinterface
      exact absurd hinterface hclass

end Universe

end Skeletal
