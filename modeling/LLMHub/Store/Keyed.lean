import Mathlib.Data.List.Nodup

namespace Store

/-- The rows of a table whose primary key is not a number. -/
structure Keyed {κ α : Type} (key : α → κ) where
  rows : List α
  keys : (rows.map key).Nodup

namespace Keyed

variable {κ α : Type} {key : α → κ} {t t' : Keyed key} {x y : α} {p : α → Bool}

def empty : Keyed key := ⟨[], .nil⟩

def first (t : Keyed key) (p : α → Bool) : Option α := t.rows.find? p

def all (t : Keyed key) (p : α → Bool) : List α := t.rows.filter p

theorem eq_of_key (hx : x ∈ t.rows) (hy : y ∈ t.rows) (same : key x = key y) : x = y :=
  List.inj_on_of_nodup_map t.keys hx hy same

section Insert
variable [DecidableEq κ]

/-- `none` if the key is taken. -/
def insert (t : Keyed key) (x : α) : Option (Keyed key) :=
  if taken : key x ∈ t.rows.map key then none
  else some ⟨t.rows ++ [x], by
    rw [List.map_append, List.nodup_append]
    refine ⟨t.keys, List.nodup_singleton _, fun a inside b alone => ?_⟩
    rw [List.map_singleton, List.mem_singleton] at alone
    rintro rfl
    exact taken (alone ▸ inside)⟩

theorem insert_cases (run : t.insert x = some t') : (∀ y ∈ t.rows, key y ≠ key x) ∧ t'.rows = t.rows ++ [x] := by
  unfold insert at run
  split at run
  · cases run
  · rename_i free
    obtain rfl := Option.some.inj run
    exact ⟨fun y member same => free (same ▸ List.mem_map_of_mem member), rfl⟩

end Insert

/-- `UPDATE … WHERE p`, which leaves the keys alone. -/
def update (t : Keyed key) (p : α → Bool) (f : α → α) (same : ∀ x, key (f x) = key x) : Keyed key where
  rows := t.rows.map fun x => if p x then f x else x
  keys := by
    have kept : (key ∘ fun x => if p x then f x else x) = key := by
      funext x
      simp only [Function.comp_apply]
      split
      · exact same x
      · rfl
    rw [List.map_map, kept]
    exact t.keys

theorem mem_update_cases {f : α → α} {same : ∀ x, key (f x) = key x} (member : y ∈ (t.update p f same).rows) :
    ∃ x ∈ t.rows, (p x = true ∧ y = f x) ∨ (p x = false ∧ y = x) := by
  obtain ⟨x, inside, rfl⟩ := List.mem_map.mp member
  refine ⟨x, inside, ?_⟩
  split
  · rename_i hit
    exact Or.inl ⟨hit, rfl⟩
  · rename_i miss
    exact Or.inr ⟨Bool.not_eq_true _ ▸ miss, rfl⟩

/-- `DELETE … WHERE p`. -/
def delete (t : Keyed key) (p : α → Bool) : Keyed key where
  rows := t.rows.filter fun x => !p x
  keys := t.keys.sublist (List.filter_sublist.map key)

theorem mem_delete : x ∈ (t.delete p).rows ↔ x ∈ t.rows ∧ p x = false := by
  simp [delete]

end Keyed
end Store
