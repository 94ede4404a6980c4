import Skeletal.FileTree.Basic
import Skeletal.Service.Payload
import Skeletal.Text.Utf8
import Skeletal.TypeGraph.Basic

/-!
# Responses

What the service answers: a status and a content. A request that fails for a reason of its own is
answered by that reason, and one that fails unforeseen by its status alone.
-/

set_option autoImplicit false

namespace Skeletal.Service

/-- A generated source with what its reader needs to place it. -/
structure GeneratedSource where
  className : String
  package : String
  path : String
  source : String
  deriving DecidableEq, Repr

/-- Content of a response. -/
inductive ResponseContent where
  | empty
  | alive
  | detail (text : String)
  | invalid (faults : List Fault)
  | graph (world : Universe) (graph : TypeGraph)
  | source (source : GeneratedSource)
  | archive (disposition : String) (entries : List (String × Content))

/-- A status and a content. -/
structure Response where
  status : Nat
  content : ResponseContent

namespace Response

/-- Success. -/
def success (content : ResponseContent) : Response := ⟨200, content⟩

/-- Refusal with a reason. -/
def refusal (status : Nat) (reason : String) : Response := ⟨status, .detail reason⟩

/-- Answer to a body that is not what is asked for. -/
def invalid (faults : List Fault) : Response := ⟨422, .invalid faults⟩

/-- Answer where something unforeseen failed. -/
def unforeseen : Response := ⟨500, .empty⟩

/-- The response without its content. -/
def withoutContent (r : Response) : Response := { r with content := .empty }

end Response

/-! ## Header values

A value is sent with one byte for each character, so it can hold the first 256 code points only. Its
reader takes the bytes for UTF-8 and, where they are not that, for one character each. -/

/-- Bytes of a header value; none for a value that cannot be sent. -/
def headerBytes? (value : String) : Option (List Nat) :=
  let bytes := value.toList.map Char.toNat
  if bytes.all (fun byte => decide (byte < 256)) then some bytes else none

/-- Text that the reader of a header takes its bytes for. -/
def headerText (bytes : List Nat) : String :=
  match Text.decodeUtf8 0 bytes with
  | .ok cs => String.ofList cs
  | .error _ => String.ofList (bytes.map Char.ofNat)

/-- Header value as its reader sees it; none for a value that cannot be sent. -/
def receivedHeader? (value : String) : Option String := (headerBytes? value).map headerText

/-- Header value that offers a file for saving. -/
def attachmentHeader (filename : String) : String := s!"attachment; filename=\"{filename}\""

end Skeletal.Service
