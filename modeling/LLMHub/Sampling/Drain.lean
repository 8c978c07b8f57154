import Mathlib.Data.Finset.Card
import Mathlib.Data.Finset.SDiff

namespace Sampling

variable {δ : Type*} (select : δ → Finset Nat → Option Nat)

/-- Selects again and again, each time without what was selected before; 0 says
that nothing was found, and `none` that a selection failed. -/
def drain : List δ → Finset Nat → Option (List Nat)
  | [], _ => some []
  | draw :: draws, excluded => do
    let id ← select draw excluded
    let later ← drain draws (if id ≤ 0 then excluded else insert id excluded)
    pure (id :: later)

/-- Every selection finds something of the pool that is not excluded, while
there is anything. -/
def Serves (pool : Finset Nat) : Prop :=
  ∀ draw excluded, ∃ id, select draw excluded = some id ∧ (id = 0 ∧ pool \ excluded = ∅ ∨ 0 < id ∧ id ∈ pool \ excluded)

variable {select} {pool : Finset Nat}

/-- Each selection takes one out of the pool, so its members come out once each
and then zeros follow. -/
theorem Serves.drain_returns (serves : Serves select pool) (draws : List δ) (excluded : Finset Nat) :
    ∃ returned, drain select draws excluded = some (returned ++ List.replicate (draws.length - returned.length) 0) ∧
      returned.Nodup ∧ (∀ id ∈ returned, id ∈ pool \ excluded) ∧
      returned.length = min draws.length (pool \ excluded).card := by
  induction draws generalizing excluded with
  | nil => exact ⟨[], rfl, List.nodup_nil, by simp, by simp⟩
  | cons draw draws ih =>
    obtain ⟨id, selected, served⟩ := serves draw excluded
    rcases served with ⟨rfl, none⟩ | ⟨nonzero, serving⟩
    · obtain ⟨returned, run, distinct, inside, length⟩ := ih excluded
      have empty : returned = [] := List.eq_nil_iff_forall_not_mem.mpr fun other member => by
        simpa [none] using inside other member
      subst empty
      refine ⟨[], ?_, List.nodup_nil, by simp, by simp [none]⟩
      simp only [drain, selected, le_refl, if_true, run, Option.bind_eq_bind, Option.bind_some, Option.pure_def]
      rfl
    · obtain ⟨returned, run, distinct, inside, length⟩ := ih (insert id excluded)
      rw [Finset.sdiff_insert] at inside length
      have smaller := Finset.card_erase_add_one serving
      have grown : (id :: returned).length = min (draw :: draws).length (pool \ excluded).card := by
        simp only [List.length_cons]
        omega
      refine ⟨id :: returned, ?_, List.nodup_cons.mpr ⟨?_, distinct⟩, ?_, grown⟩
      · have excludes : ¬id ≤ 0 := by omega
        simp only [drain, selected, excludes, if_false, run, Option.bind_eq_bind, Option.bind_some, Option.pure_def,
          List.length_cons, Nat.add_sub_add_right, List.cons_append]
      · exact fun again => (Finset.mem_erase.mp (inside id again)).1 rfl
      · intro other member
        rcases List.mem_cons.mp member with rfl | later
        · exact serving
        · exact Finset.mem_of_mem_erase (inside other later)

/-- With enough selections the whole pool comes out. -/
theorem toFinset_of_enough {draws : Nat} {excluded : Finset Nat} {returned : List Nat} (distinct : returned.Nodup)
    (inside : ∀ id ∈ returned, id ∈ pool \ excluded) (length : returned.length = min draws (pool \ excluded).card)
    (enough : returned.length < draws ∨ (pool \ excluded).card ≤ draws) : returned.toFinset = pool \ excluded := by
  refine Finset.eq_of_subset_of_card_le (fun id listed => inside id (List.mem_toFinset.mp listed)) ?_
  rw [List.toFinset_card_of_nodup distinct, length]
  omega

end Sampling
