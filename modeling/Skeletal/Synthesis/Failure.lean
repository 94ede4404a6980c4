/-!
# Synthesis failures

Reasons why no implementation of a type can be generated.
-/

set_option autoImplicit false

namespace Skeletal

/-- Types that can never be implemented, by what they are. -/
inductive UnsupportedReason where
  | primitive
  | array
  | enumRoot
  | enumType
  | annotationType
  | finalType
  | privateType
  | innerClass
  deriving DecidableEq, Repr

/-- Reason in words. -/
def UnsupportedReason.text : UnsupportedReason → String
  | .primitive => "primitive types cannot be implemented"
  | .array => "array types cannot be implemented"
  | .enumRoot => "java.lang.Enum cannot be extended directly"
  | .enumType => "enum types cannot be extended"
  | .annotationType => "annotation types are not supported"
  | .finalType => "final classes cannot be extended"
  | .privateType => "private types cannot be extended"
  | .innerClass => "inner classes need an enclosing instance"

/-- Failures of synthesis. Types are named by their canonical names; `noResultType` is a method
descriptor without a result type, which no loaded type has. -/
inductive SynthesisError where
  | unsupported (token : String) (reason : UnsupportedReason)
  | unknownMembers (token ancestor : String)
  | privateAncestor (token ancestor : String)
  | noAccessibleConstructor (token : String)
  | noResultType (method : String)
  deriving DecidableEq, Repr

/-- Failure in words. -/
def SynthesisError.message : SynthesisError → String
  | .unsupported token reason => s!"Unsupported class token {token}: {reason.text}"
  | .unknownMembers token ancestor =>
    s!"Cannot implement {token}: members of {ancestor} are unknown, load its source to " ++
      "implement it"
  | .privateAncestor token ancestor =>
    s!"Cannot extend {token}: ancestor {ancestor} is private"
  | .noAccessibleConstructor token =>
    s!"{token} has no constructor accessible to a subclass"
  | .noResultType method => s!"method {method} has no result type"

/-- Name of the kind of a failure. -/
def SynthesisError.label : SynthesisError → String
  | .unsupported _ _ => "UnsupportedToken"
  | .unknownMembers _ _ => "OpaqueAncestor"
  | .privateAncestor _ _ => "InaccessibleAncestor"
  | .noAccessibleConstructor _ => "NoAccessibleConstructor"
  | .noResultType _ => "NoResultType"

end Skeletal
