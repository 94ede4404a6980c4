/-!
# Payloads

Bodies of requests as far as requests look into them: texts, lists and objects. All other values
are alike to them.
-/

set_option autoImplicit false

namespace Skeletal.Service

/-- A value in the body of a request. -/
inductive Payload where
  | null
  | text (text : String)
  | list (items : List Payload)
  | object (fields : List (String × Payload))
  | other

instance : Inhabited Payload := ⟨.null⟩

/-- Step from a value to a part of it. -/
inductive Step where
  | field (name : String)
  | item (index : Nat)
  deriving DecidableEq, Repr

/-- Ways in which a value is not what is asked for. -/
inductive FaultKind where
  | missing
  | notText
  | emptyText
  | notList
  | emptyList
  | notObject
  deriving DecidableEq, Repr

/-- Word for a fault kind. -/
def FaultKind.word : FaultKind → String
  | .missing => "missing"
  | .notText => "string_type"
  | .emptyText => "string_too_short"
  | .notList => "list_type"
  | .emptyList => "too_short"
  | .notObject => "model_attributes_type"

/-- A fault and the steps that lead to it. -/
structure Fault where
  place : List Step
  kind : FaultKind
  deriving DecidableEq, Repr

/-- A value that was asked for, or all faults in the way of it, in the order of asking. -/
abbrev Checked (α : Type) := Except (List Fault) α

namespace Checked

/-- A single fault. -/
def fault {α : Type} (place : List Step) (kind : FaultKind) : Checked α :=
  .error [⟨place, kind⟩]

/-- Two values, or the faults of both. -/
def both {α β : Type} : Checked α → Checked β → Checked (α × β)
  | .ok a, .ok b => .ok (a, b)
  | .ok _, .error faults => .error faults
  | .error faults, .ok _ => .error faults
  | .error faults, .error more => .error (faults ++ more)

/-- All values of a list, or the faults of all. -/
def all {α : Type} : List (Checked α) → Checked (List α)
  | [] => .ok []
  | a :: rest => (both a (all rest)).map fun (a, rest) => a :: rest

end Checked

/-- Fields of an object. -/
abbrev Fields := List (String × Payload)

namespace Payload

/-- Fields of a value that has to be an object. -/
def asObject (place : List Step) : Payload → Checked Fields
  | .object fields => .ok fields
  | _ => Checked.fault place .notObject

/-- Text of a value that has to be one. -/
def asText (place : List Step) : Payload → Checked String
  | .text t => .ok t
  | _ => Checked.fault place .notText

/-- Text of a value that has to be one with at least one character. -/
def asNonemptyText (place : List Step) : Payload → Checked String
  | .text t => if t = "" then Checked.fault place .emptyText else .ok t
  | _ => Checked.fault place .notText

/-- Items of a value that has to be a list with at least one item. -/
def asNonemptyList (place : List Step) : Payload → Checked (List Payload)
  | .list [] => Checked.fault place .emptyList
  | .list items => .ok items
  | _ => Checked.fault place .notList

end Payload

/-- What `read` makes of the field of a name. -/
def Fields.required {α : Type} (fields : Fields) (place : List Step) (name : String)
    (read : List Step → Payload → Checked α) : Checked α :=
  let place := place ++ [.field name]
  match fields.lookup name with
  | some value => read place value
  | none => Checked.fault place .missing

end Skeletal.Service
