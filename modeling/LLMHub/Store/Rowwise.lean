import LLMHub.Store.Within

namespace Store.Table

variable {α : Type} [Record α]

/-- The rows of one table developed into those of the other, each in its place. -/
def Rowwise (R : α → α → Prop) (t t' : Table α) : Prop := List.Forall₂ R t.rows t'.rows

variable {R : α → α → Prop} {t t' mid : Table α}

theorem Rowwise.refl (same : ∀ x, R x x) (t : Table α) : t.Rowwise R t := List.forall₂_same.mpr fun x _ => same x

theorem Rowwise.trans (chain : ∀ x y z, R x y → R y z → R x z) (first : t.Rowwise R mid) (second : mid.Rowwise R t') :
    t.Rowwise R t' := by
  unfold Rowwise at *
  generalize t.rows = a at first
  generalize mid.rows = b at first second
  generalize t'.rows = c at second
  induction first generalizing c with
  | nil =>
    cases second
    exact .nil
  | cons head _ ih =>
    cases second with
    | cons next rest => exact .cons (chain _ _ _ head next) (ih _ rest)

theorem Rowwise.update {p : α → Bool} {f : Assignment α} (same : ∀ x, R x x) (hit : ∀ x, p x = true → R x (f.set x)) :
    t.Rowwise R (t.update p f) := by
  unfold Rowwise Table.update
  rw [List.forall₂_map_right_iff]
  refine List.forall₂_same.mpr fun x _ => ?_
  cases selected : p x with
  | true =>
    rw [rewrite_pos selected]
    exact hit x selected
  | false =>
    rw [rewrite_neg selected]
    exact same x

theorem Rowwise.forward (rows : t.Rowwise R t') {x : α} (member : x ∈ t.rows) : ∃ y ∈ t'.rows, R x y := by
  unfold Rowwise at rows
  generalize t.rows = a at rows member
  generalize t'.rows = b at rows
  induction rows with
  | nil => cases member
  | cons head _ ih =>
    rcases List.mem_cons.mp member with rfl | inside
    · exact ⟨_, List.mem_cons_self, head⟩
    · obtain ⟨y, here, related⟩ := ih inside
      exact ⟨y, List.mem_cons_of_mem _ here, related⟩

theorem Rowwise.backward (rows : t.Rowwise R t') {y : α} (member : y ∈ t'.rows) : ∃ x ∈ t.rows, R x y := by
  have flipped : t'.Rowwise (flip R) t := rows.flip
  exact flipped.forward member

end Store.Table
