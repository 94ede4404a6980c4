import Skeletal.Text.Backslash
import Skeletal.Text.Basic

/-!
# Settings

What a user may choose: the suffix of a generated class, the ending of its source, the line
separator and how long a compilation may take. The separator is written with backslash escapes or
literally and has to be one of three.
-/

set_option autoImplicit false

namespace Skeletal

/-- Admitted line separators. -/
inductive LineSeparator where
  | lf
  | crlf
  | cr
  deriving DecidableEq, Repr

namespace LineSeparator

/-- Characters of a separator. -/
def text : LineSeparator → String
  | .lf => "\n"
  | .crlf => "\r\n"
  | .cr => "\r"

/-- Reasons to refuse a configured separator. -/
inductive Refusal where
  | unreadable (raw : String)
  | notAdmitted (raw : String)
  deriving DecidableEq, Repr

/-- Refusal in words. -/
def Refusal.message : Refusal → String
  | .unreadable raw =>
    "IMPL_LINE_SEPARATOR must be ASCII, e.g. \\n or \\r\\n; got " ++ Text.quoted raw
  | .notAdmitted raw =>
    "IMPL_LINE_SEPARATOR must be one of \\n, \\r\\n, \\r; got " ++ Text.quoted raw

/-- Separator with the given code points. -/
def ofPoints? (points : List Nat) : Option LineSeparator :=
  [lf, crlf, cr].find? fun s => s.text.toList.map Char.toNat == points

/-- Separator written in configuration text. -/
def read (raw : String) : Except Refusal LineSeparator :=
  let cs := raw.toList
  if cs.all (fun c => decide (c.toNat < 128)) then
    match Text.backslashPoints cs with
    | none => .error (.unreadable raw)
    | some points =>
      match ofPoints? points with
      | some separator => .ok separator
      | none => .error (.notAdmitted raw)
  else .error (.unreadable raw)

end LineSeparator

/-- Choices about generated classes. The limit of a compilation is in seconds. -/
structure Settings where
  classSuffix : String := "Impl"
  generatedExtension : String := ".java"
  lineSeparator : LineSeparator := .lf
  compileTimeout : Int := 60
  deriving DecidableEq, Repr

/-- The non-empty blocks with one empty line between neighbours. -/
def Settings.blocks (s : Settings) (parts : List String) : String :=
  Text.joinNonempty (s.lineSeparator.text ++ s.lineSeparator.text) parts

end Skeletal
