import Mathlib.Algebra.Ring.Nat
import Mathlib.Data.List.Nodup
import Skeletal.Naming

/-!
# Distinct names

A supply hands out the names of successive numbers (`drawMany_eq`). Numbers are read back from their
digits, so whatever the stem is no name comes twice (`nameAt_injective`), neither in any history of
calls of one supply (`flatten_answers_start`) nor among the parameters of a member
(`nodup_parameterNames`).
-/

set_option autoImplicit false

namespace Skeletal

namespace NameSupply

theorem nameAt_injective (stem : String) : Function.Injective (nameAt stem) := by
  intro a b h
  have hdigits : Nat.toDigits 10 a = Nat.toDigits 10 b := by
    rw [nameAt, nameAt, String.append_right_inj, Nat.toString_eq_ofList_toDigits,
      Nat.toString_eq_ofList_toDigits] at h
    exact String.ofList_injective h
  calc a = Nat.ofDigitChars 10 (Nat.toDigits 10 a) 0 := Nat.ofDigitChars_ten_toDigits.symm
    _ = Nat.ofDigitChars 10 (Nat.toDigits 10 b) 0 := by rw [hdigits]
    _ = b := Nat.ofDigitChars_ten_toDigits

/-- A supply hands out the names of successive numbers and goes on behind them. -/
theorem drawMany_eq (count : Nat) (s : NameSupply) : drawMany count s =
    ((List.range' s.next count).map (nameAt s.stem), { s with next := s.next + count }) := by
  induction count generalizing s with
  | zero => rfl
  | succ count ih =>
      simp only [drawMany, draw, ih, List.range'_succ, List.map_cons, Nat.add_assoc,
        Nat.add_comm 1]

/-! ## Histories of calls -/

/-- Call of a supply: for the next name, or for a number of names. -/
inductive Call where
  | next
  | names (count : Int)
  deriving DecidableEq, Repr

/-- How many names a call is for; a number that is not positive asks for none. -/
def Call.count : Call → Nat
  | .next => 1
  | .names count => count.toNat

/-- Names that a call returns, and the supply after it. -/
def answer (s : NameSupply) : Call → List String × NameSupply
  | .next => ([s.draw.1], s.draw.2)
  | .names count => s.take count

/-- Names that each call of a history returns, and the supply after it. -/
def answers (s : NameSupply) : List Call → List (List String) × NameSupply
  | [] => ([], s)
  | call :: calls =>
    let (names, s) := s.answer call
    let (later, s) := s.answers calls
    (names :: later, s)

/-- Either kind of call takes the next numbers and moves the supply behind them. -/
theorem answer_eq (s : NameSupply) (call : Call) : s.answer call =
    ((List.range' s.next call.count).map (nameAt s.stem), { s with next := s.next + call.count }) := by
  cases call with
  | next => rfl
  | names count => exact drawMany_eq count.toNat s

/-- A history takes the numbers that its calls take, one call after the other. -/
theorem flatten_answers (s : NameSupply) (calls : List Call) :
    (s.answers calls).1.flatten =
      (List.range' s.next (calls.map Call.count).sum).map (nameAt s.stem) := by
  induction calls generalizing s with
  | nil => rfl
  | cons call calls ih =>
      simp only [answers, answer_eq, List.flatten_cons, ih, List.map_cons, List.sum_cons]
      rw [← List.map_append, List.range'_append_1]

theorem length_answers (s : NameSupply) (calls : List Call) :
    (s.answers calls).1.map List.length = calls.map Call.count := by
  induction calls generalizing s with
  | nil => rfl
  | cons call calls ih => simp [answers, answer_eq, ih]

/-- Whatever is called in whatever order, a fresh supply returns as many names as each call is for,
and all of them together are the stem with the numbers from zero on, in order. None comes twice. -/
theorem flatten_answers_start (stem : String) (calls : List Call) :
    ((start stem).answers calls).1.map List.length = calls.map Call.count ∧
      ((start stem).answers calls).1.flatten =
        (List.range (calls.map Call.count).sum).map (fun number => stem ++ toString number) ∧
      ((start stem).answers calls).1.flatten.Nodup := by
  have hnames : ((start stem).answers calls).1.flatten =
      (List.range (calls.map Call.count).sum).map (nameAt stem) := by
    rw [flatten_answers, List.range_eq_range']
    rfl
  refine ⟨length_answers (start stem) calls, hnames, ?_⟩
  rw [hnames]
  exact List.nodup_range.map (nameAt_injective stem)

/-- A stem that ends in a digit, and counts that are not positive. -/
example : ((start "a1").answers [.names 2, .names (-3), .next, .names 0, .next]).1 =
    [["a10", "a11"], [], ["a12"], [], ["a13"]] := by
  decide

end NameSupply

open NameSupply

variable {name : String} {count : Nat}

theorem parameterNames_eq (count : Nat) :
    parameterNames count = (List.range count).map (nameAt parameterStem) := by
  rw [parameterNames, take, drawMany_eq, List.range_eq_range']
  rfl

@[simp] theorem length_parameterNames (count : Nat) : (parameterNames count).length = count := by
  rw [parameterNames_eq, List.length_map, List.length_range]

theorem nodup_parameterNames (count : Nat) : (parameterNames count).Nodup := by
  rw [parameterNames_eq]
  exact List.nodup_range.map (nameAt_injective parameterStem)

theorem exists_of_mem_parameterNames (h : name ∈ parameterNames count) :
    ∃ number, name = nameAt parameterStem number := by
  rw [parameterNames_eq] at h
  obtain ⟨number, -, rfl⟩ := List.mem_map.1 h
  exact ⟨number, rfl⟩

end Skeletal
