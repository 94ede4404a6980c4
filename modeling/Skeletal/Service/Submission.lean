import Skeletal.Service.Payload

/-!
# Submissions

What a request submits: source files with their names, and the name of the type that is asked
for. A body is read as a whole, and all that is wrong with it is told at once.
-/

set_option autoImplicit false

namespace Skeletal.Service

/-- A source file under the name that its sender gave it. -/
structure SourceFile where
  filename : String
  code : String
  deriving DecidableEq, Repr

/-- Source files with the name of the type to implement. -/
structure Submission where
  typeName : String
  files : List SourceFile
  deriving DecidableEq, Repr

/-- Place of the body in a request. -/
def bodyPlace : List Step := [.field "body"]

/-- Source file of a value. -/
def SourceFile.ofPayload (place : List Step) (value : Payload) : Checked SourceFile := do
  let fields ← value.asObject place
  let (filename, code) ← Checked.both (fields.required place "filename" Payload.asText)
    (fields.required place "code" Payload.asText)
  return { filename, code }

/-- Source files of a value that has to be a list of them. -/
def sourceFiles (place : List Step) (value : Payload) : Checked (List SourceFile) := do
  let items ← value.asNonemptyList place
  Checked.all (items.zipIdx.map fun (item, index) =>
    SourceFile.ofPayload (place ++ [.item index]) item)

/-- Fields of a body. A body without a value is none. -/
def bodyFields : Option Payload → Checked Fields
  | none | some .null => Checked.fault bodyPlace .missing
  | some value => value.asObject bodyPlace

/-- Source files of a body. -/
def submittedFiles (body : Option Payload) : Checked (List SourceFile) := do
  (← bodyFields body).required bodyPlace "files" sourceFiles

/-- Submission of a body. -/
def Submission.ofBody (body : Option Payload) : Checked Submission := do
  let fields ← bodyFields body
  let (typeName, files) ← Checked.both
    (fields.required bodyPlace "type_name" Payload.asNonemptyText)
    (fields.required bodyPlace "files" sourceFiles)
  return { typeName, files }

end Skeletal.Service
