import Mathlib.Algebra.BigOperators.Intervals

namespace Sampling

variable {α : Type*} (share : α → Nat)

/-- Takes the shares of a list off a value until one of them covers it; `last`
answers for a value that no share covers. -/
def pick (last : α) : Nat → List α → α
  | _, [] => last
  | value, a :: rest => if value < share a then a else pick last (value - share a) rest

theorem pick_covered (last : α) {a : α} (rest : List α) {value : Nat} (covered : value < share a) :
    pick share last value (a :: rest) = a := if_pos covered

theorem pick_shift (last a : α) (rest : List α) (value : Nat) :
    pick share last (share a + value) (a :: rest) = pick share last value rest := by
  rw [pick, if_neg (by omega), Nat.add_sub_cancel_left]

/-- Below the sum of the shares what is picked has a share, and `last` is not
asked. -/
theorem pick_below {l : List α} {value : Nat} (below : value < (l.map share).sum) (last : α) :
    pick share last value l ∈ l ∧ 0 < share (pick share last value l) ∧
      ∀ other, pick share other value l = pick share last value l := by
  induction l generalizing value with
  | nil => simp at below
  | cons a rest ih =>
    rw [List.map_cons, List.sum_cons] at below
    by_cases covered : value < share a
    · rw [pick_covered share last rest covered]
      exact ⟨List.mem_cons_self, by omega, fun other => pick_covered share other rest covered⟩
    · obtain ⟨value, rfl⟩ := Nat.exists_eq_add_of_le (not_lt.mp covered)
      have left : value < (rest.map share).sum := by omega
      obtain ⟨member, positive, same⟩ := ih left
      rw [pick_shift]
      exact ⟨List.mem_cons_of_mem a member, positive, fun other => (pick_shift share other a rest value).trans (same other)⟩

/-- The values that pick an element with a property number the shares of the
elements that have it. -/
theorem card_pick (last : α) (l : List α) (p : α → Bool) :
    ((Finset.range (l.map share).sum).filter fun value => p (pick share last value l) = true).card =
      ((l.filter p).map share).sum := by
  induction l with
  | nil => simp
  | cons a rest ih =>
    rw [List.map_cons, List.sum_cons, Finset.card_filter, Finset.sum_range_add]
    have own : ∑ value ∈ Finset.range (share a), (if p (pick share last value (a :: rest)) = true then 1 else 0) =
        if p a = true then share a else 0 := by
      rw [Finset.sum_congr rfl fun value within => by
        rw [pick_covered share last rest (Finset.mem_range.mp within)]]
      split
      · rw [← Finset.card_eq_sum_ones, Finset.card_range]
      · rw [Finset.sum_const_zero]
    rw [own]
    simp only [pick_shift]
    rw [← Finset.card_filter, ih]
    by_cases has : p a = true <;> simp [has]

end Sampling
