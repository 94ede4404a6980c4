/-!
# Modifiers

Modifier words of declarations. A declaration keeps the words it was written with; only
rendering and comparison look at which of them are known and in what order they stand.
-/

set_option autoImplicit false

namespace Skeletal

/-- Words that are ever written, in their order of writing. -/
def modifierOrder : List String :=
  ["public", "protected", "private", "abstract", "static", "final", "transient", "volatile",
    "synchronized", "native", "strictfp", "interface"]

/-- The known words among `words` in their order of writing, without those in `excluded`. -/
def renderModifiers (words excluded : List String) : String :=
  " ".intercalate (modifierOrder.filter fun word => word ∈ words ∧ word ∉ excluded)

/-- A duplicate-free list of words: the known ones in their order of writing, then the others
in dictionary order. -/
def arrangeModifiers (words : List String) : List String :=
  modifierOrder.filter (· ∈ words) ++
    (words.filter (· ∉ modifierOrder)).eraseDups.mergeSort (· ≤ ·)

/-- Who may name a declaration. -/
inductive Visibility where
  | everyone
  | heirs
  | owner
  | package
  deriving DecidableEq, Repr

/-- Visibility by modifier words; of several access words the most and then the least generous
one decides. -/
def visibilityOf (words : List String) : Visibility :=
  if "public" ∈ words then .everyone
  else if "private" ∈ words then .owner
  else if "protected" ∈ words then .heirs
  else .package

/-- Access word of a visibility; the package's own access has none and is described. -/
def Visibility.word : Visibility → String
  | .everyone => "public"
  | .heirs => "protected"
  | .owner => "private"
  | .package => "package"

end Skeletal
