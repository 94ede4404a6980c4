import Skeletal.Modifier

/-!
# Universes of types

A universe is a finite collection of type descriptors. A type is known by its place in the
collection and not by its name: two types may share a canonical name, and a reference names a
place. A place outside the collection holds a class without name, supertypes and members.
-/

set_option autoImplicit false

namespace Skeletal

/-- Place of a type in a universe. -/
abbrev TypeId := Nat

/-- Kinds of types. -/
inductive TypeKind where
  | classType
  | interfaceType
  | enumType
  | annotationType
  | primitive
  | array
  | variable
  deriving DecidableEq, Repr

/-- Word for a kind. -/
def TypeKind.word : TypeKind → String
  | .classType => "class"
  | .interfaceType => "interface"
  | .enumType => "enum"
  | .annotationType => "annotation"
  | .primitive => "primitive"
  | .array => "array"
  | .variable => "typevar"

/-- Kinds of members. -/
inductive MemberKind where
  | method
  | constructor
  deriving DecidableEq, Repr

/-- Word for a member kind. -/
def MemberKind.word : MemberKind → String
  | .method => "method"
  | .constructor => "constructor"

/-- A declared method or constructor. A constructor has no result type. -/
structure Member where
  name : String
  kind : MemberKind := .method
  modifiers : List String := []
  parameters : List TypeId := []
  exceptions : List TypeId := []
  result : Option TypeId := none
  declaring : Option TypeId := none
  deriving DecidableEq, Repr

namespace Member

/-- Members without a body of their own. -/
def isAbstract (m : Member) : Bool := m.modifiers.contains "abstract"

/-- Members open to everyone. -/
def isPublic (m : Member) : Bool := m.modifiers.contains "public"

/-- Members closed to all but their own type. -/
def isPrivate (m : Member) : Bool := m.modifiers.contains "private"

/-- Members of the type rather than of its instances. -/
def isStatic (m : Member) : Bool := m.modifiers.contains "static"

/-- Types that a member mentions: parameters, exceptions, result. -/
def mentions (m : Member) : List TypeId :=
  m.parameters ++ m.exceptions ++ m.result.toList

end Member

/-- What is known of a type. `typeParameters` are kept for generic standard types only, and
`membersUnknown` marks a type that is known by name alone. -/
structure Descriptor where
  name : String
  canonical : String
  kind : TypeKind := .classType
  package : String := ""
  modifiers : List String := []
  binary : Option String := none
  superclass : Option TypeId := none
  interfaces : List TypeId := []
  constructors : List Member := []
  methods : List Member := []
  component : Option TypeId := none
  enclosing : Option TypeId := none
  origin : Option String := none
  typeParameters : List String := []
  membersUnknown : Bool := false
  deriving DecidableEq, Repr

namespace Descriptor

/-- Interfaces and annotations. -/
def isInterface (d : Descriptor) : Bool :=
  d.kind == .interfaceType || d.kind == .annotationType

/-- Primitive types and the type of no value. -/
def isPrimitive (d : Descriptor) : Bool := d.kind == .primitive

/-- Array types. -/
def isArray (d : Descriptor) : Bool := d.kind == .array

/-- Types that nothing may extend. -/
def isFinal (d : Descriptor) : Bool := d.modifiers.contains "final"

/-- Types closed to all but their surroundings. -/
def isPrivate (d : Descriptor) : Bool := d.modifiers.contains "private"

/-- Types that cannot be instantiated. -/
def isAbstract (d : Descriptor) : Bool := d.modifiers.contains "abstract"

/-- Member classes that need an enclosing instance. -/
def isInner (d : Descriptor) : Bool :=
  d.enclosing.isSome && d.kind == .classType && !d.modifiers.contains "static"

/-- Direct supertypes: the superclass, then the interfaces in order. -/
def directSupertypes (d : Descriptor) : List TypeId :=
  d.superclass.toList ++ d.interfaces

/-- Declared members, constructors first. -/
def members (d : Descriptor) : List Member :=
  d.constructors ++ d.methods

end Descriptor

/-- A nameless class without supertypes and members. -/
def Descriptor.blank : Descriptor := { name := "", canonical := "" }

instance : Inhabited Descriptor := ⟨Descriptor.blank⟩

/-- A finite collection of types. -/
structure Universe where
  types : Array Descriptor
  deriving Repr

namespace Universe

/-- Number of types. -/
def size (u : Universe) : Nat := u.types.size

/-- Descriptor at a place. -/
def get (u : Universe) (t : TypeId) : Descriptor := u.types.getD t Descriptor.blank

/-- All places. -/
def ids (u : Universe) : List TypeId := List.range u.size

/-- Canonical name of the type at a place. -/
def canonical (u : Universe) (t : TypeId) : String := (u.get t).canonical

/-- Universe with one more type at its end. -/
def push (u : Universe) (d : Descriptor) : Universe := ⟨u.types.push d⟩

/-- Universe with another descriptor at a place. -/
def set (u : Universe) (t : TypeId) (d : Descriptor) : Universe := ⟨u.types.setIfInBounds t d⟩

@[simp] theorem size_push (u : Universe) (d : Descriptor) : (u.push d).size = u.size + 1 := by
  simp [push, size]

@[simp] theorem get_push_size (u : Universe) (d : Descriptor) : (u.push d).get u.size = d := by
  simp [push, size, get]

theorem get_push_of_lt (u : Universe) (d : Descriptor) {t : TypeId} (h : t < u.size) :
    (u.push d).get t = u.get t := by
  simp only [push, size, get, Array.getD_eq_getD_getElem?] at *
  rw [Array.getElem?_push]
  simp [Nat.ne_of_lt h]

@[simp] theorem size_set (u : Universe) (t : TypeId) (d : Descriptor) :
    (u.set t d).size = u.size := by
  simp [set, size]

theorem get_set (u : Universe) {place : TypeId} (d : Descriptor) (h : place < u.size) (t : TypeId) :
    (u.set place d).get t = if t = place then d else u.get t := by
  simp only [get, set, Array.getD_eq_getD_getElem?, size] at h ⊢
  rw [Array.getElem?_setIfInBounds]
  by_cases ht : t = place
  · rw [if_pos ht.symm, if_pos h, if_pos ht, Option.getD_some]
  · rw [if_neg (Ne.symm ht), if_neg ht]

end Universe

/-- Computations that add types to a universe. -/
abbrev Growing := StateM Universe

/-- Addition of one type, answered by its place. -/
def addType (d : Descriptor) : Growing TypeId := fun u => (u.size, u.push d)

/-- What two overriding declarations share: the name and the canonical parameter types. -/
structure Signature where
  name : String
  parameters : List String
  deriving DecidableEq, Repr

/-- Signature of a member. -/
def Universe.signature (u : Universe) (m : Member) : Signature :=
  ⟨m.name, m.parameters.map u.canonical⟩

end Skeletal
