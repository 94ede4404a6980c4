import Skeletal.Text.Basic

/-!
# Bytes of text

Strict reading of bytes as text. The first faulty sequence is reported with the bytes that it
spans: a byte that can start no character, a start followed by a byte that cannot continue it,
or a sequence cut off by the end.
-/

set_option autoImplicit false

namespace Skeletal.Text

/-- Ways in which a byte sequence fails to be text. -/
inductive Utf8Fault where
  | invalidStart
  | invalidContinuation
  | unexpectedEnd
  deriving DecidableEq, Repr

/-- The first faulty sequence: its offset, its bytes and what is wrong with them. -/
structure Utf8Error where
  position : Nat
  bytes : List Nat
  fault : Utf8Fault
  deriving DecidableEq, Repr

/-- Cause in words. -/
def Utf8Fault.reason : Utf8Fault → String
  | .invalidStart => "invalid start byte"
  | .invalidContinuation => "invalid continuation byte"
  | .unexpectedEnd => "unexpected end of data"

/-- Message that names a single byte by its value and several by their offsets. -/
def Utf8Error.message (e : Utf8Error) : String :=
  let place :=
    match e.bytes with
    | [byte] =>
      let digits := String.ofList (hexDigits lowerHexDigit 2 byte)
      s!"byte 0x{digits} in position {e.position}"
    | bytes => s!"bytes in position {e.position}-{e.position + bytes.length - 1}"
  s!"'utf-8' codec can't decode {place}: {e.fault.reason}"

/-- Shape of a character by its first byte: the value bits of that byte and the ranges of the
continuation bytes. The narrower second ranges exclude overlong forms, surrogates and values
above the last code point. -/
def sequenceShape? (byte : Nat) : Option (Nat × List (Nat × Nat)) :=
  let any := (0x80, 0xBF)
  if byte < 0x80 then some (byte, [])
  else if byte < 0xC2 then none
  else if byte < 0xE0 then some (byte - 0xC0, [any])
  else if byte = 0xE0 then some (0, [(0xA0, 0xBF), any])
  else if byte = 0xED then some (13, [(0x80, 0x9F), any])
  else if byte < 0xF0 then some (byte - 0xE0, [any, any])
  else if byte = 0xF0 then some (0, [(0x90, 0xBF), any, any])
  else if byte < 0xF4 then some (byte - 0xF0, [any, any, any])
  else if byte = 0xF4 then some (4, [(0x80, 0x8F), any, any])
  else none

/-- Value read by continuation bytes after the bits `value`, or the fault and the number of
bytes that were in order before it. -/
def continuation : List (Nat × Nat) → Nat → Nat → List Nat → Except (Utf8Fault × Nat) Nat
  | [], value, _, _ => .ok value
  | _ :: _, _, count, [] => .error (.unexpectedEnd, count)
  | range :: ranges, value, count, byte :: bytes =>
    if range.1 ≤ byte ∧ byte ≤ range.2 then
      continuation ranges (value * 64 + (byte - 0x80)) (count + 1) bytes
    else .error (.invalidContinuation, count)

/-- Characters of a byte sequence of which `position` bytes came before. -/
def decodeUtf8 (position : Nat) (bytes : List Nat) : Except Utf8Error (List Char) :=
  match bytes with
  | [] => .ok []
  | byte :: rest =>
    match sequenceShape? byte with
    | none => .error ⟨position, [byte], .invalidStart⟩
    | some (bits, ranges) =>
      match continuation ranges bits 0 rest with
      | .error (fault, count) => .error ⟨position, byte :: rest.take count, fault⟩
      | .ok value =>
        (decodeUtf8 (position + 1 + ranges.length) (rest.drop ranges.length)).map
          (Char.ofNat value :: ·)
termination_by bytes.length
decreasing_by simp only [List.length_drop, List.length_cons]; omega

/-- Lines ended by a carriage return, alone or before a line feed, end in a line feed instead. -/
def unifyLineEnds : List Char → List Char
  | '\r' :: '\n' :: rest => '\n' :: unifyLineEnds rest
  | '\r' :: rest => '\n' :: unifyLineEnds rest
  | c :: rest => c :: unifyLineEnds rest
  | [] => []

end Skeletal.Text
