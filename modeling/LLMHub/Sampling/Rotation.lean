import LLMHub.Sampling.Rank
import Mathlib.Data.List.Rotate

namespace Sampling

variable (allowed : Nat → Bool)

def allowedBelow (n : Nat) : List Nat := (List.range n).filter allowed

variable {allowed}

theorem mem_allowedBelow {n i : Nat} : i ∈ allowedBelow allowed n ↔ i < n ∧ allowed i = true := by
  rw [allowedBelow, List.mem_filter, List.mem_range]

theorem allowedBelow_increasing (n : Nat) : (allowedBelow allowed n).Pairwise (· < ·) :=
  List.pairwise_lt_range.filter allowed

theorem allowedBelow_split {p n : Nat} (order : p ≤ n) :
    allowedBelow allowed n = allowedBelow allowed p ++ ((List.range n).drop p).filter allowed := by
  have first : (List.range n).take p = List.range p := by rw [List.take_range, min_eq_left order]
  rw [allowedBelow, allowedBelow, ← first, ← List.filter_append, List.take_append_drop]

/-- One turn around the positions, from a start on. -/
theorem turn_eq_rotate {n : Nat} (p : Nat) : ((List.range n).map fun i => (p + i) % n) = (List.range n).rotate p := by
  refine List.ext_getElem (by simp) fun i first second => ?_
  rw [List.getElem_map, List.getElem_range, List.getElem_rotate, List.getElem_range, List.length_range, Nat.add_comm]

/-- Such a turn meets the allowed positions in their order, from the first allowed one
at or after the start on. -/
theorem filter_turn {p n : Nat} (order : p ≤ n) :
    ((List.range n).map fun i => (p + i) % n).filter allowed = (allowedBelow allowed n).rotate (allowedBelow allowed p).length := by
  have first : (List.range n).take p = List.range p := by rw [List.take_range, min_eq_left order]
  rw [turn_eq_rotate, List.rotate_eq_drop_append_take (by rwa [List.length_range]), List.filter_append, first,
    allowedBelow_split order, List.rotate_append_length_eq]
  rfl

theorem find?_turn {p n : Nat} (order : p ≤ n) (some : allowedBelow allowed n ≠ []) :
    ((List.range n).map fun i => (p + i) % n).find? allowed =
      (allowedBelow allowed n)[(allowedBelow allowed p).length % (allowedBelow allowed n).length]? := by
  have positive : 0 < (allowedBelow allowed n).length := List.length_pos_of_ne_nil some
  rw [← List.head?_filter, filter_turn order, List.head?_eq_getElem?, List.getElem?_rotate positive, Nat.zero_add]

theorem countP_allowedBelow {p n : Nat} (order : p ≤ n) :
    (allowedBelow allowed n).countP (· < p) = (allowedBelow allowed p).length := by
  have front : (allowedBelow allowed p).countP (· < p) = (allowedBelow allowed p).length := by
    rw [List.countP_eq_length]
    exact fun i member => decide_eq_true (mem_allowedBelow.mp member).1
  have back : (((List.range n).drop p).filter allowed).countP (· < p) = 0 := by
    rw [List.countP_eq_zero]
    intro i member
    obtain ⟨j, inside, same⟩ := List.getElem_of_mem (List.mem_of_mem_filter member)
    rw [List.getElem_drop, List.getElem_range] at same
    simp [← same]
  rw [allowedBelow_split order, List.countP_append, front, back, Nat.add_zero]

/-- Behind an allowed position there is one more allowed position below. -/
theorem length_allowedBelow_succ {n j : Nat} (inside : j < (allowedBelow allowed n).length) :
    (allowedBelow allowed ((allowedBelow allowed n)[j] + 1)).length = j + 1 := by
  have increasing : (allowedBelow allowed n).Pairwise (· < ·) := allowedBelow_increasing n
  have order : (allowedBelow allowed n)[j] + 1 ≤ n := (mem_allowedBelow.mp (List.getElem_mem inside)).1
  generalize bound : (allowedBelow allowed n)[j] + 1 = p at order
  have counted : ∀ {i : Nat} (within : i < (allowedBelow allowed n).length),
      (allowedBelow allowed n)[i] < p ↔ i < (allowedBelow allowed p).length := by
    intro i within
    have sorted := getElem_iff_lt_countP (increasing.imp le_of_lt) (p := (· < p))
      (fun a b less below => decide_eq_true (less.trans_lt (of_decide_eq_true below))) within
    rwa [decide_eq_true_iff, countP_allowedBelow order] at sorted
  have reached := (counted inside).mp (by omega)
  have fewer := List.countP_le_length (p := (· < p)) (l := allowedBelow allowed n)
  rw [countP_allowedBelow order] at fewer
  by_contra more
  have next : j + 1 < (allowedBelow allowed n).length := by omega
  have above := List.pairwise_iff_getElem.mp increasing j (j + 1) inside next (Nat.lt_succ_self j)
  have below := (counted next).mpr (by omega)
  omega

/-- The position behind an allowed one, taken around the end, starts a turn with
the next allowed one. -/
theorem rank_succ {n j : Nat} (inside : j < (allowedBelow allowed n).length) :
    (allowedBelow allowed (((allowedBelow allowed n)[j] + 1) % n)).length % (allowedBelow allowed n).length =
      (j + 1) % (allowedBelow allowed n).length := by
  have below := (mem_allowedBelow.mp (List.getElem_mem inside)).1
  rcases Nat.lt_or_ge ((allowedBelow allowed n)[j] + 1) n with within | last
  · rw [Nat.mod_eq_of_lt within, length_allowedBelow_succ inside]
  · have end_ : (allowedBelow allowed n)[j] + 1 = n := by omega
    have whole := length_allowedBelow_succ inside
    rw [end_] at whole ⊢
    rw [Nat.mod_self, whole, Nat.mod_self]
    rfl

end Sampling
