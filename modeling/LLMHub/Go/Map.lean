import Mathlib.Data.List.InsertIdx
import Mathlib.Data.List.Perm.Basic

namespace Go

/-- The entries of a map in the order in which a `range` loop visits them,
which the language leaves open: every order is that of some list of draws. -/
def iterate {α : Type*} : List Nat → List α → List α
  | _, [] => []
  | [], entries => entries
  | draw :: draws, entry :: rest => (iterate draws rest).insertIdx (draw % (rest.length + 1)) entry

theorem iterate_perm {α : Type*} (draws : List Nat) (entries : List α) : (iterate draws entries).Perm entries := by
  induction entries generalizing draws with
  | nil => cases draws <;> exact List.Perm.refl _
  | cons entry rest ih =>
    cases draws with
    | nil => exact List.Perm.refl _
    | cons draw draws =>
      have below : draw % (rest.length + 1) ≤ (iterate draws rest).length := by
        rw [(ih draws).length_eq]
        exact Nat.lt_succ_iff.mp (Nat.mod_lt _ (Nat.succ_pos _))
      exact (List.perm_insertIdx entry _ below).trans ((ih draws).cons entry)

end Go
