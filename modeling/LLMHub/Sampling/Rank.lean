import Mathlib.Algebra.Order.Floor.Div
import Mathlib.Data.List.Sort

namespace Sampling

section Columns

variable {α β : Type*} [DecidableEq β] (column : α → β)

theorem countP_cons_columns {index : β} {columns : List β} (fresh : index ∉ columns) (values : List α) :
    (values.countP fun value => column value = index) + (values.countP fun value => column value ∈ columns) =
      values.countP fun value => column value ∈ index :: columns := by
  induction values with
  | nil => rfl
  | cons value values ih =>
    rw [List.countP_cons, List.countP_cons, List.countP_cons, ← ih]
    by_cases here : column value = index
    · simp only [here, fresh, List.mem_cons_self, decide_true, decide_false, if_true, Bool.false_eq_true, if_false]
      omega
    · simp only [here, List.mem_cons, false_or, decide_false, Bool.false_eq_true, if_false]
      omega

/-- Columns together count the values that fall into one of them. -/
theorem sum_countP (values : List α) {columns : List β} (distinct : columns.Nodup) :
    (columns.map fun index => values.countP fun value => column value = index).sum =
      values.countP fun value => column value ∈ columns := by
  induction columns with
  | nil => simp
  | cons index rest ih =>
    obtain ⟨fresh, distinct⟩ := List.nodup_cons.mp distinct
    rw [List.map_cons, List.sum_cons, ih distinct, countP_cons_columns column fresh]

end Columns

variable {α : Type*} [LinearOrder α]

/-- In a sorted list the entries below a bound come first. -/
theorem getElem_iff_lt_countP {l : List α} (sorted : l.Pairwise (· ≤ ·)) {p : α → Bool}
    (down : ∀ a b, a ≤ b → p b = true → p a = true) {k : Nat} (inside : k < l.length) :
    p l[k] = true ↔ k < l.countP p := by
  induction l generalizing k with
  | nil => exact absurd inside (Nat.not_lt_zero k)
  | cons a l ih =>
    obtain ⟨first, rest⟩ := List.pairwise_cons.mp sorted
    by_cases low : p a = true
    · rw [List.countP_cons_of_pos low]
      cases k with
      | zero => simp [low]
      | succ k => rw [List.getElem_cons_succ, ih rest]; omega
    · have none : l.countP p = 0 := List.countP_eq_zero.mpr fun b member high => low (down a b (first b member) high)
      rw [List.countP_cons_of_neg low, none]
      cases k with
      | zero => simp [low]
      | succ k =>
        rw [List.getElem_cons_succ]
        exact iff_of_false (fun high => low (down a _ (first _ (List.getElem_mem _)) high)) (Nat.not_lt_zero _)

/-- The value of a rank among values, counted from one. -/
def atRank (values : List α) (rank : Nat) (none : α) : α := (values.insertionSort (· ≤ ·)).getD (rank - 1) none

theorem atRank_eq {values : List α} {rank : Nat} (positive : 0 < rank) (within : rank ≤ values.length) (none : α) :
    ∃ inside : rank - 1 < (values.insertionSort (· ≤ ·)).length,
      atRank values rank none = (values.insertionSort (· ≤ ·))[rank - 1] := by
  have inside : rank - 1 < (values.insertionSort (· ≤ ·)).length := by
    rw [List.length_insertionSort]
    omega
  refine ⟨inside, ?_⟩
  rw [atRank, List.getD_eq_getElem?_getD, List.getElem?_eq_getElem inside, Option.getD_some]

theorem atRank_mem {values : List α} {rank : Nat} (positive : 0 < rank) (within : rank ≤ values.length) (none : α) :
    atRank values rank none ∈ values := by
  obtain ⟨inside, same⟩ := atRank_eq positive within none
  rw [same]
  exact (List.perm_insertionSort _ values).subset (List.getElem_mem inside)

/-- The value of a rank is below a bound iff that many values are. -/
theorem atRank_iff {values : List α} {rank : Nat} (positive : 0 < rank) (within : rank ≤ values.length) {p : α → Bool}
    (down : ∀ a b, a ≤ b → p b = true → p a = true) (none : α) :
    p (atRank values rank none) = true ↔ rank ≤ values.countP p := by
  obtain ⟨inside, same⟩ := atRank_eq positive within none
  rw [same, getElem_iff_lt_countP (List.pairwise_insertionSort _ values) down inside,
    (List.perm_insertionSort (· ≤ ·) values).countP_eq]
  omega

theorem atRank_mono {values : List α} {first second : Nat} (positive : 0 < first) (order : first ≤ second)
    (within : second ≤ values.length) (none : α) : atRank values first none ≤ atRank values second none := by
  obtain ⟨low, one⟩ := atRank_eq positive (order.trans within) none
  obtain ⟨high, two⟩ := atRank_eq (positive.trans_le order) within none
  rw [one, two]
  rcases Nat.eq_or_lt_of_le (Nat.sub_le_sub_right order 1) with same | less
  · simp only [same, le_refl]
  · exact List.pairwise_iff_getElem.mp (List.pairwise_insertionSort _ values) _ _ low high less

/-- A rank among two groups together lies between the ranks it is made of. -/
theorem atRank_append {first second : List α} {r r' : Nat} (rank : Nat) (low : 0 < r ∧ r ≤ first.length)
    (high : 0 < r' ∧ r' ≤ second.length) (above : rank ≤ r + r') (below : r + r' ≤ rank + 1) (none : α) :
    min (atRank first r none) (atRank second r' none) ≤ atRank (first ++ second) rank none ∧
      atRank (first ++ second) rank none ≤ max (atRank first r none) (atRank second r' none) := by
  have within : rank ≤ (first ++ second).length := by rw [List.length_append]; omega
  have down : ∀ bound a b : α, a ≤ b → decide (b ≤ bound) = true → decide (a ≤ bound) = true := by
    simpa using fun bound a b order small => order.trans small
  have strict : ∀ bound a b : α, a ≤ b → decide (b < bound) = true → decide (a < bound) = true := by
    simpa using fun bound a b order small => order.trans_lt small
  constructor
  · by_contra less
    have many := (atRank_iff (by omega) within (strict _) none).mp (decide_eq_true (not_le.mp less))
    have few := mt (atRank_iff low.1 low.2 (strict (min (atRank first r none) (atRank second r' none))) none).mpr (by simp)
    have few' := mt (atRank_iff high.1 high.2 (strict (min (atRank first r none) (atRank second r' none))) none).mpr
      (by simp)
    rw [List.countP_append] at many
    omega
  · refine of_decide_eq_true ((atRank_iff (by omega) within (down _) none).mpr ?_)
    have many := (atRank_iff low.1 low.2 (down _) none).mp (decide_eq_true (le_max_left _ (atRank second r' none)))
    have many' := (atRank_iff high.1 high.2 (down _) none).mp (decide_eq_true (le_max_right (atRank first r none) _))
    rw [List.countP_append]
    omega

/-- The nearest rank of a percentile among a number of values. -/
def percentileRank (percentile count : Nat) : Nat := (percentile * count) ⌈/⌉ 100

theorem percentileRank_eq (percentile count : Nat) : percentileRank percentile count = (percentile * count + 99) / 100 :=
  Nat.ceilDiv_eq_add_pred_div _ _

theorem percentileRank_mono {first second : Nat} (order : first ≤ second) (count : Nat) :
    percentileRank first count ≤ percentileRank second count := by
  rw [percentileRank_eq, percentileRank_eq]
  exact Nat.div_le_div_right (Nat.add_le_add_right (Nat.mul_le_mul_right count order) 99)

theorem percentileRank_pos {percentile count : Nat} (some : 0 < percentile) (filled : 0 < count) :
    0 < percentileRank percentile count := by
  have product : 0 < percentile * count := Nat.mul_pos some filled
  rw [percentileRank_eq]
  omega

theorem percentileRank_le {percentile : Nat} (most : percentile ≤ 100) (count : Nat) :
    percentileRank percentile count ≤ count := by
  have product := Nat.mul_le_mul_right count most
  rw [percentileRank_eq]
  omega

end Sampling
