import Skeletal.Naming
import Skeletal.Synthesis.Failure
import Skeletal.Text.Basic
import Skeletal.Universe.Basic

/-!
# Stubs

Texts of generated members. A method stub returns the default value of its result type, and a
constructor stub hands its parameters on to the superclass. Clauses are separated by single
blanks, and a clause that has nothing to say is left out.
-/

set_option autoImplicit false

namespace Skeletal

/-- Text of a generated member and the names of its parameters. -/
structure Stub where
  text : String
  parameterNames : List String
  deriving DecidableEq, Repr

/-- Words that no concrete override carries. -/
def stubExcludedModifiers : List String := ["native", "transient", "abstract", "default"]

/-- Modifiers of the stub for a member. -/
def Member.stubModifiers (m : Member) : String :=
  renderModifiers m.modifiers stubExcludedModifiers

/-- Value that a stub returns; empty where there is none to return. -/
def Descriptor.defaultValue (d : Descriptor) : String :=
  if d.isPrimitive then
    if d.name = "void" then "" else if d.name = "boolean" then "false" else "0"
  else "null"

/-- Parenthesised parameter list with the given names. -/
def parameterClause (types names : List String) : String :=
  let typed := (types.zip names).map fun p => Text.spaced [p.1, p.2]
  "(" ++ ", ".intercalate typed ++ ")"

/-- Clause of the declared exceptions; empty where there are none. -/
def throwsClause (exceptions : List String) : String :=
  Text.labelled "throws" (", ".intercalate exceptions)

/-- Stub that overrides a method with the given result type. -/
def Universe.methodStub (u : Universe) (m : Member) (result : TypeId) : Stub :=
  let names := parameterNames m.parameters.length
  let value := (u.get result).defaultValue
  { text := Text.spaced
      [m.stubModifiers, u.canonical result,
        m.name ++ parameterClause (m.parameters.map u.canonical) names,
        throwsClause (m.exceptions.map u.canonical),
        "\x7b", if value = "" then "return;" else s!"return {value};", "\x7d"]
    parameterNames := names }

/-- Stub of a method; a method without a result type has none. -/
def Universe.methodStub? (u : Universe) (m : Member) : Except SynthesisError Stub :=
  match m.result with
  | some result => .ok (u.methodStub m result)
  | none => .error (.noResultType m.name)

/-- Constructor of the class `className` that hands its parameters on. -/
def Universe.constructorStub (u : Universe) (className : String) (m : Member) : Stub :=
  let names := parameterNames m.parameters.length
  let arguments := ", ".intercalate names
  { text := Text.spaced
      [m.stubModifiers,
        className ++ parameterClause (m.parameters.map u.canonical) names,
        throwsClause (m.exceptions.map u.canonical),
        "\x7b", s!"super({arguments});", "\x7d"]
    parameterNames := names }

/-- One constructor stub for each constructor that is not private; none for an interface. A
class without such a constructor cannot be extended. -/
def Universe.constructorStubs (u : Universe) (className : String) (t : TypeId) :
    Except SynthesisError (List Stub) :=
  let d := u.get t
  if d.isInterface then .ok []
  else
    match d.constructors.filter fun m => !m.isPrivate with
    | [] => .error (.noAccessibleConstructor d.canonical)
    | accessible => .ok (accessible.map (u.constructorStub className))

end Skeletal
