import Mathlib.Tactic.NormNum
import Mathlib.Data.Int.Init
import Mathlib.Data.Int.ModEq
import Mathlib.Algebra.BigOperators.Group.List.Basic

namespace Go

/-- The value an exact integer leaves in a 64-bit word. -/
def int64 (x : Int) : Int := x.bmod (2 ^ 64)

theorem int64_eq_self {x : Int} (low : -(2 ^ 63) ≤ x) (high : x < 2 ^ 63) : int64 x = x :=
  Int.bmod_eq_of_le (by norm_num; omega) (by norm_num; omega)

theorem int64_lt (x : Int) : int64 x < 2 ^ 63 := Int.bmod_lt (by norm_num)

theorem int64_modEq (x : Int) : int64 x ≡ x [ZMOD 2 ^ 64] := Int.bmod_emod

theorem int64_congr {x y : Int} (same : x ≡ y [ZMOD 2 ^ 64]) : int64 x = int64 y := by
  unfold int64 Int.bmod
  rw [show x % ((2 ^ 64 : Nat) : Int) = y % ((2 ^ 64 : Nat) : Int) from same]

theorem int64_int64 (x : Int) : int64 (int64 x) = int64 x := int64_congr (int64_modEq x)

/-- A running total whose summands and length keep it inside the word. -/
theorem foldl_int64_add {α : Type*} (f : α → Int) (bound : Int) (l : List α)
    (small : ∀ a ∈ l, 0 ≤ f a ∧ f a ≤ bound) (start : Int) (nonneg : 0 ≤ start)
    (room : start + l.length * bound < 2 ^ 63) :
    l.foldl (fun sum a => int64 (sum + f a)) start = start + (l.map f).sum := by
  induction l generalizing start with
  | nil => simp
  | cons a l ih =>
    obtain ⟨low, high⟩ := small a List.mem_cons_self
    have rest : 0 ≤ (l.length : Int) * bound := Int.mul_nonneg (by omega) (by omega)
    have split : ((a :: l).length : Int) * bound = l.length * bound + bound := by
      simp only [List.length_cons, Nat.cast_add, Nat.cast_one, Int.add_mul, Int.one_mul]
    rw [split] at room
    rw [List.foldl_cons, int64_eq_self (by omega) (by omega),
      ih (fun b inside => small b (List.mem_cons_of_mem a inside)) _ (by omega) (by omega), List.map_cons, List.sum_cons]
    omega

/-- `rand.Intn`, which panics without a positive bound. Every value below the
bound is that of some `draw`. -/
def intn (bound : Int) (draw : Nat) : Option Nat :=
  if bound ≤ 0 then none else some (draw % bound.toNat)

theorem intn_lt {bound : Int} {draw value : Nat} (drawn : intn bound draw = some value) : (value : Int) < bound := by
  unfold intn at drawn
  split at drawn
  · exact absurd drawn (by simp)
  · obtain rfl := Option.some.inj drawn
    have below := Nat.mod_lt draw (show 0 < bound.toNat by omega)
    omega

theorem intn_of_lt {bound : Int} {draw : Nat} (below : (draw : Int) < bound) : intn bound draw = some draw := by
  rw [intn, if_neg (by omega), Nat.mod_eq_of_lt (by omega)]

theorem intn_of_pos {bound : Int} (positive : 0 < bound) (draw : Nat) : ∃ value, intn bound draw = some value := by
  refine ⟨draw % bound.toNat, ?_⟩
  rw [intn, if_neg (by omega)]

end Go
