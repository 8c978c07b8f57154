import LLMHub.Store.Table
import Mathlib.Algebra.BigOperators.Group.Finset.Piecewise

namespace Store.Table

variable {α : Type} [Record α]

def column (t : Table α) (key : α → Int) : Finset Int := (t.rows.map key).toFinset

/-- Rows counted under each of their keys are counted once. -/
theorem sum_fiberwise (t : Table α) (key : α → Int) {ids : Finset Int}
    (covered : column t key ⊆ ids) {q : Int → α → Bool} {p : α → Bool}
    (parts : ∀ i x, q i x = (key x == i && p x)) (v : α → Int) : ∑ i ∈ ids, t.sum (q i) v = t.sum p v := by
  have split : ∀ i x, (if q i x then v x else 0) = if key x = i then (if p x then v x else 0) else 0 := by
    intro i x
    rw [parts]
    by_cases same : key x = i <;> simp [same]
  have inside : ∀ x ∈ t.rows, key x ∈ ids := fun x member =>
    covered (List.mem_toFinset.mpr (List.mem_map_of_mem member))
  simp only [sum, split]
  generalize t.rows = rows at inside
  induction rows with
  | nil => simp
  | cons x rest ih =>
    obtain ⟨first, others⟩ := List.forall_mem_cons.mp inside
    simp [Finset.sum_add_distrib, ih others, first]

end Store.Table
