/-!
# Fresh names

Names made of a stem and a number that is never used twice. The parameters of one generated
member are named by one supply.
-/

set_option autoImplicit false

namespace Skeletal

/-- Supply of names: their stem and the number of the next one. -/
structure NameSupply where
  stem : String
  next : Nat
  deriving DecidableEq, Repr

namespace NameSupply

/-- Supply whose first name has the number zero. -/
def start (stem : String) : NameSupply := ⟨stem, 0⟩

/-- The name with a given number. -/
def nameAt (stem : String) (number : Nat) : String := stem ++ toString number

/-- The next name and the supply after it. -/
def draw (s : NameSupply) : String × NameSupply :=
  (nameAt s.stem s.next, { s with next := s.next + 1 })

/-- `count` names in a row and the supply after them. -/
def drawMany : Nat → NameSupply → List String × NameSupply
  | 0, s => ([], s)
  | count + 1, s =>
    let (name, s) := s.draw
    let (names, s) := drawMany count s
    (name :: names, s)

/-- Names for a requested count, none for a count that is not positive. -/
def take (s : NameSupply) (count : Int) : List String × NameSupply :=
  drawMany count.toNat s

end NameSupply

/-- Stem of parameter names. -/
def parameterStem : String := "_"

/-- Names of the parameters of one member. -/
def parameterNames (count : Nat) : List String :=
  ((NameSupply.start parameterStem).take count).1

end Skeletal
