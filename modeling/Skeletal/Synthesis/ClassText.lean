import Skeletal.Settings
import Skeletal.Synthesis.Obligation
import Skeletal.Synthesis.Stub
import Skeletal.Text.Escape

/-!
# Class texts

The source text of a generated class: package declaration, header, constructors, methods and the
closing brace, with an empty line between neighbours.
-/

set_option autoImplicit false

namespace Skeletal

/-- Words that a generated class never carries. -/
def classExcludedModifiers : List String := ["interface", "abstract", "static", "protected"]

/-- Simple name of the class generated for a type. -/
def Settings.className (s : Settings) (d : Descriptor) : String := d.name ++ s.classSuffix

/-- Declaration of the package; empty for the unnamed one. -/
def Descriptor.packageDeclaration (d : Descriptor) : String :=
  if d.package = "" then "" else s!"package {d.package};"

/-- Header of the generated class up to its opening brace. -/
def Settings.classHeader (s : Settings) (d : Descriptor) : String :=
  Text.spaced
    [renderModifiers d.modifiers classExcludedModifiers, "class", s.className d,
      if d.isInterface then "implements" else "extends", d.canonical, "\x7b"]

/-- Class text with the given constructor and method texts. -/
def Settings.assemble (s : Settings) (d : Descriptor) (constructors methods : List String) :
    String :=
  s.blocks
    [d.packageDeclaration,
      s.blocks [s.classHeader d, s.blocks constructors, s.blocks methods, "\x7d"]]

/-- Source text of the class generated for a type. -/
def Settings.synthesize (s : Settings) (u : Universe) (t : TypeId) :
    Except SynthesisError String := do
  u.checkImplementable t
  u.checkAncestors t
  let methods ← (← u.abstractMethods t).mapM u.methodStub?
  let constructors ← u.constructorStubs (s.className (u.get t)) t
  return s.assemble (u.get t) (constructors.map Stub.text) (methods.map Stub.text)

/-- Source text in plain ASCII. -/
def Settings.generateSource (s : Settings) (u : Universe) (t : TypeId) :
    Except SynthesisError String :=
  (s.synthesize u t).map Text.escape

end Skeletal
