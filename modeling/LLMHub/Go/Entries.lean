import Mathlib.Algebra.Order.BigOperators.Group.List
import Mathlib.Algebra.Order.Group.Nat
import Mathlib.Data.List.Nodup

namespace Go

variable {α : Type*}

section Entries

variable {κ β : Type*}

/-- Each key once. -/
def Keyed (entries : List (κ × β)) : Prop := (entries.map Prod.fst).Nodup

theorem keyed_nil : Keyed ([] : List (κ × β)) := List.nodup_nil

variable [DecidableEq κ]

/-- The entries of a map after `m[key] = value`. -/
def put (entries : List (κ × β)) (key : κ) (value : β) : List (κ × β) :=
  (key, value) :: entries.filter fun entry => entry.1 ≠ key

theorem lookup_filter_ne (entries : List (κ × β)) {key other : κ} (different : other ≠ key) :
    (entries.filter fun entry => entry.1 ≠ key).lookup other = entries.lookup other := by
  induction entries with
  | nil => rfl
  | cons entry rest ih =>
    obtain ⟨first, value⟩ := entry
    by_cases here : first = key
    · rw [List.filter_cons_of_neg (by simpa using here), ih, List.lookup_cons,
        beq_false_of_ne (fun same => different (same.trans here))]
    · rw [List.filter_cons_of_pos (by simpa using here), List.lookup_cons, List.lookup_cons, ih]

theorem lookup_put (entries : List (κ × β)) (key other : κ) (value : β) :
    (put entries key value).lookup other = if other = key then some value else entries.lookup other := by
  rw [put, List.lookup_cons]
  by_cases same : other = key
  · rw [if_pos same, same, beq_self_eq_true]
  · rw [if_neg same, beq_false_of_ne same]
    exact lookup_filter_ne entries same

variable {entries : List (κ × β)}

theorem Keyed.put (keyed : Keyed entries) (key : κ) (value : β) : Keyed (put entries key value) := by
  refine List.nodup_cons.mpr ⟨?_, ?_⟩
  · intro inside
    obtain ⟨entry, kept, same⟩ := List.mem_map.mp inside
    exact absurd same (by simpa using (List.mem_filter.mp kept).2)
  · exact List.Nodup.sublist (List.filter_sublist.map Prod.fst) keyed

theorem Keyed.mem_iff (keyed : Keyed entries) (key : κ) (value : β) :
    (key, value) ∈ entries ↔ entries.lookup key = some value := by
  induction entries with
  | nil => simp
  | cons entry rest ih =>
    obtain ⟨first, stored⟩ := entry
    obtain ⟨absent, keyed⟩ := List.nodup_cons.mp keyed
    rw [List.mem_cons, List.lookup_cons]
    by_cases same : key = first
    · have elsewhere : (key, value) ∉ rest := fun inside =>
        absent (List.mem_map.mpr ⟨(key, value), inside, same⟩)
      simp [same, same ▸ elsewhere, eq_comm]
    · rw [beq_false_of_ne same, ← ih keyed]
      simp [same]

/-- A loop that adds each item to the value under its key. -/
theorem lookup_foldl_put (key : α → κ) (join : Option β → α → β) (items : List α)
    (entries : List (κ × β)) (wanted : κ) :
    (items.foldl (fun entries item => put entries (key item) (join (entries.lookup (key item)) item)) entries).lookup
        wanted = (items.filter fun item => key item = wanted).foldl (fun found item => some (join found item))
        (entries.lookup wanted) := by
  induction items generalizing entries with
  | nil => rfl
  | cons item rest ih =>
    rw [List.foldl_cons, ih, lookup_put]
    by_cases here : key item = wanted
    · rw [if_pos here.symm, List.filter_cons_of_pos (by simpa using here), List.foldl_cons, here]
    · rw [if_neg (Ne.symm here), List.filter_cons_of_neg (by simpa using here)]

/-- A loop that sets the entry of each item's key to a value of that key. -/
theorem lookup_foldl_put_of_key (key : α → κ) (value : κ → β) (items : List α) (entries : List (κ × β)) (wanted : κ) :
    (items.foldl (fun entries item => put entries (key item) (value (key item))) entries).lookup wanted =
      if wanted ∈ items.map key then some (value wanted) else entries.lookup wanted := by
  induction items generalizing entries with
  | nil => rfl
  | cons item rest ih =>
    rw [List.foldl_cons, ih, lookup_put, List.map_cons]
    by_cases later : wanted ∈ rest.map key
    · rw [if_pos later, if_pos (List.mem_cons_of_mem _ later)]
    · rw [if_neg later]
      by_cases here : wanted = key item
      · rw [if_pos here, here, if_pos List.mem_cons_self]
      · rw [if_neg here, if_neg (by simp [here, later])]

theorem Keyed.foldl_put (key : α → κ) (value : List (κ × β) → α → β) (items : List α) (keyed : Keyed entries) :
    Keyed (items.foldl (fun entries item => Go.put entries (key item) (value entries item)) entries) := by
  induction items generalizing entries with
  | nil => exact keyed
  | cons item rest ih => exact ih (keyed.put _ _)

end Entries

/-- A value that starts with the first item. -/
theorem foldl_some {β : Type*} (add : β → α → β) (initial : β) (items : List α) :
    items.foldl (fun found item => some (add (found.getD initial) item)) none =
      if items = [] then none else some (items.foldl add initial) := by
  have started : ∀ (rest : List α) (value : β),
      rest.foldl (fun found item => some (add (found.getD initial) item)) (some value) =
        some (rest.foldl add value) := by
    intro rest
    induction rest with
    | nil => exact fun _ => rfl
    | cons item rest ih => exact fun value => ih (add value item)
  cases items with
  | nil => rfl
  | cons item rest => exact started rest _

theorem foldl_and (holds : α → Bool) (items : List α) (initial : Bool) :
    items.foldl (fun all item => all && holds item) initial = (initial && items.all holds) := by
  induction items generalizing initial with
  | nil => simp
  | cons item rest ih => rw [List.foldl_cons, ih, List.all_cons, Bool.and_assoc]

theorem modify_last {α : Type} (f : α → α) (items : List α) (last : α) :
    (items ++ [last]).modify items.length f = items ++ [f last] := by
  induction items with
  | nil => rfl
  | cons item rest ih => rw [List.cons_append, List.length_cons, List.modify_succ_cons, ih, List.cons_append]

end Go
