import Mathlib.Data.List.Basic
import Mathlib.Data.List.Nodup
import Mathlib.Algebra.Order.BigOperators.Group.List
import Mathlib.Algebra.Order.Ring.Int

namespace Store

/-- The value of a uniquely indexed column. -/
inductive Key
  | text (value : String)
  | number (value : Int)
  deriving DecidableEq, Repr

/-- What a table needs of its rows: the primary key the engine assigns on
insertion, and at most one further column declared unique. -/
class Record (α : Type) where
  id : α → Int
  withId : Int → α → α
  unique : α → Option Key
  id_withId : ∀ n x, id (withId n x) = n
  unique_withId : ∀ n x, unique (withId n x) = unique x

/-- Rows in primary-key order together with the two constraints the engine
enforces, so that a table violating one of them cannot be written down. -/
structure Table (α : Type) [Record α] where
  rows : List α
  ids : (rows.map Record.id).Nodup
  keys : (rows.filterMap Record.unique).Nodup

namespace Table
variable {α : Type} [Record α]

def empty : Table α := ⟨[], .nil, .nil⟩

def single (x : α) : Table α :=
  ⟨[x], List.nodup_singleton _, by cases key : Record.unique x <;> simp [key]⟩

/-- `SELECT ... WHERE p ORDER BY id LIMIT 1`. -/
def first (t : Table α) (p : α → Bool) : Option α := t.rows.find? p

/-- `SELECT COUNT(*) WHERE p`. -/
def count (t : Table α) (p : α → Bool) : Nat := t.rows.countP p

/-- `SELECT COALESCE(SUM(v), 0) WHERE p`. -/
def sum (t : Table α) (p : α → Bool) (v : α → Int) : Int :=
  (t.rows.map fun x => if p x then v x else 0).sum

def nextId (t : Table α) : Int := (t.rows.map Record.id).foldr max 0 + 1

variable {x y : α} {t t' : Table α} {p q : α → Bool}

theorem id_lt_nextId (t : Table α) (member : x ∈ t.rows) : Record.id x < t.nextId := by
  have bound : ∀ (l : List Int) (n : Int), n ∈ l → n ≤ l.foldr max 0 := by
    intro l
    induction l with
    | nil => simp
    | cons head tail ih =>
      intro n inside
      rcases List.mem_cons.mp inside with rfl | inside
      · exact le_max_left ..
      · exact (ih n inside).trans (le_max_right ..)
  have largest := bound _ _ (List.mem_map_of_mem (f := Record.id) member)
  unfold nextId
  omega

theorem ids_append (t : Table α) (x : α) : ((t.rows ++ [Record.withId t.nextId x]).map Record.id).Nodup := by
  rw [List.map_append, List.map_singleton, Record.id_withId, ← List.concat_eq_append]
  refine t.ids.concat ?_
  intro taken
  obtain ⟨y, member, same⟩ := List.mem_map.mp taken
  have below := t.id_lt_nextId member
  omega

/-- The unique column of the new row is still free. -/
def Free (t : Table α) (x : α) : Prop :=
  ∀ k, Record.unique x = some k → k ∉ t.rows.filterMap Record.unique

instance (t : Table α) (x : α) : Decidable (t.Free x) :=
  match h : Record.unique x with
  | none => isTrue fun k same => by simp [h] at same
  | some k => decidable_of_iff (k ∉ t.rows.filterMap Record.unique) (by simp [Free, h])

theorem keys_append (free : t.Free x) : ((t.rows ++ [Record.withId t.nextId x]).filterMap Record.unique).Nodup := by
  rw [List.filterMap_append]
  cases key : Record.unique x with
  | none => simpa [Record.unique_withId, key] using t.keys
  | some k =>
    simp only [List.filterMap_cons, List.filterMap_nil, Record.unique_withId, key]
    rw [← List.concat_eq_append]
    exact t.keys.concat (free k key)

/-- `INSERT`: the engine assigns the next primary key and refuses a row whose
unique column is taken. The stored row is returned with the new table. -/
def insert (t : Table α) (x : α) : Option (α × Table α) :=
  if free : t.Free x then
    some (Record.withId t.nextId x,
      ⟨t.rows ++ [Record.withId t.nextId x], t.ids_append x, keys_append free⟩)
  else none

/-- An assignment list of an `UPDATE` that leaves the constrained columns alone. -/
structure Assignment (α : Type) [Record α] where
  set : α → α
  id : ∀ x, Record.id (set x) = Record.id x := by intro; rfl
  unique : ∀ x, Record.unique (set x) = Record.unique x := by intro; rfl

/-- The row an `UPDATE ... SET f WHERE p` leaves behind. -/
def rewrite (p : α → Bool) (f : Assignment α) (x : α) : α := if p x then f.set x else x

variable {f : Assignment α}

theorem rewrite_pos (hit : p x = true) : rewrite p f x = f.set x := by
  simp [rewrite, hit]

theorem rewrite_neg (miss : p x = false) : rewrite p f x = x := by
  simp [rewrite, miss]

theorem id_rewrite (p : α → Bool) (f : Assignment α) (x : α) : Record.id (rewrite p f x) = Record.id x := by
  unfold rewrite
  split
  · exact f.id x
  · rfl

theorem unique_rewrite (p : α → Bool) (f : Assignment α) (x : α) : Record.unique (rewrite p f x) = Record.unique x := by
  unfold rewrite
  split
  · exact f.unique x
  · rfl

def update (t : Table α) (p : α → Bool) (f : Assignment α) : Table α where
  rows := t.rows.map (rewrite p f)
  ids := by
    have same : Record.id ∘ rewrite p f = Record.id := funext (id_rewrite p f)
    rw [List.map_map, same]
    exact t.ids
  keys := by
    have same : Record.unique ∘ rewrite p f = Record.unique := funext (unique_rewrite p f)
    rw [List.filterMap_map, same]
    exact t.keys

theorem ext_rows (same : t.rows = t'.rows) : t = t' := by
  cases t
  cases t'
  cases same
  rfl

theorem update_congr (f : Assignment α) (same : ∀ x ∈ t.rows, p x = q x) : t.update p f = t.update q f := by
  refine ext_rows (List.map_congr_left fun x member => ?_)
  unfold rewrite
  rw [same x member]

def delete (t : Table α) (p : α → Bool) : Table α where
  rows := t.rows.filter fun x => !p x
  ids := t.ids.sublist (List.filter_sublist.map _)
  keys := t.keys.sublist (List.filter_sublist.filterMap _)

theorem delete_congr (same : ∀ x ∈ t.rows, p x = q x) : t.delete p = t.delete q :=
  ext_rows (List.filter_congr fun x member => by rw [same x member])

theorem mem_delete : x ∈ (t.delete p).rows ↔ x ∈ t.rows ∧ p x = false := by
  simp [delete, List.mem_filter]

theorem eq_of_id (hx : x ∈ t.rows) (hy : y ∈ t.rows) (same : Record.id x = Record.id y) : x = y :=
  List.inj_on_of_nodup_map t.ids hx hy same

theorem eq_of_unique {k : Key} (hx : x ∈ t.rows) (hy : y ∈ t.rows)
    (keyX : Record.unique x = some k) (keyY : Record.unique y = some k) : x = y := by
  have keys := t.keys
  generalize t.rows = rows at hx hy keys
  induction rows with
  | nil => simp at hx
  | cons head tail ih =>
    have later {z : α} (member : z ∈ tail) (key : Record.unique z = some k) :
        k ∈ tail.filterMap Record.unique := List.mem_filterMap.mpr ⟨z, member, key⟩
    rcases List.mem_cons.mp hx with rfl | inX <;> rcases List.mem_cons.mp hy with rfl | inY
    · rfl
    · rw [List.filterMap_cons_some keyX, List.nodup_cons] at keys
      exact absurd (later inY keyY) keys.1
    · rw [List.filterMap_cons_some keyY, List.nodup_cons] at keys
      exact absurd (later inX keyX) keys.1
    · cases atHead : Record.unique head with
      | none =>
        rw [List.filterMap_cons_none atHead] at keys
        exact ih inX inY keys
      | some other =>
        rw [List.filterMap_cons_some atHead, List.nodup_cons] at keys
        exact ih inX inY keys.2

theorem mem_of_first (found : t.first p = some x) : x ∈ t.rows :=
  List.mem_of_find?_eq_some found

theorem holds_of_first (found : t.first p = some x) : p x = true :=
  List.find?_some found

theorem first_eq_none : t.first p = none ↔ ∀ x ∈ t.rows, p x = false := by
  simp [first, List.find?_eq_none]

/-- A condition stronger than a name that only one row has is met by the row
found under that name. -/
theorem first_of_count {name : α → Bool} (hits : t.count p ≠ 0) (inside : ∀ x, p x = true → name x = true)
    (alone : ∀ x ∈ t.rows, ∀ y ∈ t.rows, name x = true → name y = true → x = y) :
    ∃ x, t.first name = some x ∧ p x = true := by
  obtain ⟨x, member, hit⟩ := List.countP_pos_iff.mp (Nat.pos_of_ne_zero hits)
  cases found : t.first name with
  | none =>
    have miss := first_eq_none.mp found x member
    rw [inside x hit] at miss
    cases miss
  | some y =>
    have same := alone x member y (mem_of_first found) (inside x hit) (holds_of_first found)
    exact ⟨y, rfl, same ▸ hit⟩

theorem mem_update : y ∈ (t.update p f).rows ↔ ∃ x ∈ t.rows, rewrite p f x = y :=
  List.mem_map

theorem mem_update_cases (member : y ∈ (t.update p f).rows) :
    ∃ x ∈ t.rows, (p x = true ∧ y = f.set x) ∨ (p x = false ∧ y = x) := by
  obtain ⟨x, inside, rfl⟩ := mem_update.mp member
  refine ⟨x, inside, ?_⟩
  cases hit : p x with
  | true => exact Or.inl ⟨rfl, rewrite_pos hit⟩
  | false => exact Or.inr ⟨rfl, rewrite_neg hit⟩

/-- A lookup by columns that the assignments leave alone finds the same row,
rewritten. -/
theorem first_update (keeps : ∀ x, q (f.set x) = q x) : (t.update p f).first q = (t.first q).map (rewrite p f) := by
  have same : q ∘ rewrite p f = q := by
    funext x
    unfold rewrite
    simp only [Function.comp_apply]
    split
    · exact keeps x
    · rfl
  simp only [first, update, List.find?_map, same]

theorem insert_cases (run : t.insert x = some (y, t')) :
    t.Free x ∧ y = Record.withId t.nextId x ∧ t'.rows = t.rows ++ [y] := by
  unfold insert at run
  split at run
  · rename_i free
    cases Option.some.inj run
    exact ⟨free, rfl, rfl⟩
  · simp at run

/-- A stored row is the first with its unique column. -/
theorem insert_unique {z : α} {k : Key} (run : t.insert x = some (y, t')) (member : z ∈ t.rows)
    (key : Record.unique z = some k) : Record.unique x ≠ some k := by
  intro same
  exact (insert_cases run).1 k same (List.mem_filterMap.mpr ⟨z, member, key⟩)

theorem insert_eq_none {z : α} {k : Key} (member : z ∈ t.rows) (key : Record.unique z = some k)
    (same : Record.unique x = some k) : t.insert x = none := by
  refine dif_neg fun free => free k same ?_
  exact List.mem_filterMap.mpr ⟨z, member, key⟩

theorem sum_insert (run : t.insert x = some (y, t')) (q : α → Bool) (v : α → Int) :
    t'.sum q v = t.sum q v + if q y then v y else 0 := by
  simp [sum, (insert_cases run).2.2]

theorem count_insert (run : t.insert x = some (y, t')) (q : α → Bool) :
    t'.count q = t.count q + if q y then 1 else 0 := by
  simp [count, (insert_cases run).2.2, List.countP_cons]

theorem sum_le_sum {u v : α → Int}
    (below : ∀ x ∈ t.rows, (if p x then u x else 0) ≤ if q x then v x else 0) : t.sum p u ≤ t.sum q v :=
  List.sum_le_sum below

theorem count_eq_zero (none : ∀ x ∈ t.rows, p x = false) : t.count p = 0 := by
  refine List.countP_eq_zero.mpr fun x member => ?_
  simp [none x member]

/-- Two sums that share the work of a third row by row add up to it. -/
theorem sum_add_sum {r : α → Bool} {u v w : α → Int}
    (shared : ∀ x ∈ t.rows, (if p x then u x else 0) + (if q x then v x else 0) = if r x then w x else 0) :
    t.sum p u + t.sum q v = t.sum r w := by
  unfold sum
  rw [← List.map_congr_left shared, List.sum_map_add]

/-- The condition matches the row `x` and no other row. -/
def Selects (t : Table α) (p : α → Bool) (x : α) : Prop := x ∈ t.rows ∧ ∀ y ∈ t.rows, p y = true ↔ y = x

theorem Selects.of_id (member : x ∈ t.rows) (hit : p x = true)
    (same : ∀ y ∈ t.rows, p y = true → Record.id y = Record.id x) : t.Selects p x := by
  refine ⟨member, fun y inside => ⟨fun selected => ?_, fun equal => equal ▸ hit⟩⟩
  exact eq_of_id inside member (same y inside selected)

theorem Selects.of_unique {k : Key} (member : x ∈ t.rows) (hit : p x = true)
    (same : ∀ y ∈ t.rows, p y = true → Record.unique y = some k) : t.Selects p x := by
  refine ⟨member, fun y inside => ⟨fun selected => ?_, fun equal => equal ▸ hit⟩⟩
  exact eq_of_unique inside member (same y inside selected) (same x member hit)

theorem Selects.first (selected : t.Selects p x) : t.first p = some x := by
  cases found : t.first p with
  | none =>
    have miss := first_eq_none.mp found x selected.1
    rw [(selected.2 x selected.1).mpr rfl] at miss
    cases miss
  | some y => rw [(selected.2 y (mem_of_first found)).mp (holds_of_first found)]

/-- A selected row stands alone among rows that are not. -/
theorem Selects.split (selected : t.Selects p x) :
    ∃ before after, t.rows = before ++ x :: after ∧ (∀ y ∈ before, p y = false) ∧ ∀ y ∈ after, p y = false := by
  obtain ⟨before, after, split⟩ := List.append_of_mem selected.1
  have distinct : t.rows.Nodup := t.ids.of_map Record.id
  rw [split, List.nodup_middle, List.nodup_cons, List.mem_append, not_or] at distinct
  have missed {y : α} (inside : y ∈ t.rows) (other : y ≠ x) : p y = false :=
    Bool.eq_false_iff.mpr fun hit => other ((selected.2 y inside).mp hit)
  refine ⟨before, after, split, fun y inside => ?_, fun y inside => ?_⟩
  · exact missed (split ▸ List.mem_append_left _ inside) fun equal => distinct.1.1 (equal ▸ inside)
  · exact missed (split ▸ List.mem_append_right _ (List.mem_cons_of_mem _ inside))
      fun equal => distinct.1.2 (equal ▸ inside)

theorem Selects.count_eq_one (selected : t.Selects p x) : t.count p = 1 := by
  obtain ⟨before, after, rows, early, late⟩ := selected.split
  have hit := (selected.2 x selected.1).mpr rfl
  have none {l : List α} (missed : ∀ y ∈ l, p y = false) : l.countP p = 0 :=
    List.countP_eq_zero.mpr fun y inside => Bool.eq_false_iff.mp (missed y inside)
  rw [Table.count, rows, List.countP_append, List.countP_cons, none early, none late, if_pos hit]

theorem selects_of_count_eq_one (one : t.count p = 1) : ∃ x, t.Selects p x := by
  rw [count, List.countP_eq_length_filter, List.length_eq_one_iff] at one
  obtain ⟨x, listed⟩ := one
  have member {y : α} : y ∈ t.rows ∧ p y = true ↔ y = x := by
    rw [← List.mem_filter, listed, List.mem_singleton]
  exact ⟨x, (member.mpr rfl).1, fun y inside => ⟨fun hit => member.mp ⟨inside, hit⟩, fun same => (member.mpr same).2⟩⟩

/-- Updating a selected row replaces it in place. -/
theorem Selects.update_rows (selected : t.Selects p x) (f : Assignment α) :
    ∃ before after, t.rows = before ++ x :: after ∧ (t.update p f).rows = before ++ f.set x :: after := by
  obtain ⟨before, after, listed, early, late⟩ := selected.split
  have untouched {l : List α} (missed : ∀ y ∈ l, p y = false) : l.map (rewrite p f) = l :=
    (List.map_congr_left (g := id) fun y inside => rewrite_neg (missed y inside)).trans (List.map_id l)
  have hit : rewrite p f x = f.set x := rewrite_pos ((selected.2 x selected.1).mpr rfl)
  refine ⟨before, after, listed, ?_⟩
  simp only [update, listed, List.map_append, List.map_cons, untouched early, untouched late, hit]

theorem Selects.sum_update (selected : t.Selects p x) (f : Assignment α) (q : α → Bool) (v : α → Int) :
    (t.update p f).sum q v =
      t.sum q v - (if q x then v x else 0) + if q (f.set x) then v (f.set x) else 0 := by
  obtain ⟨before, after, old, new⟩ := selected.update_rows f
  simp only [sum, old, new, List.map_append, List.map_cons, List.sum_append, List.sum_cons]
  omega

theorem Selects.count_update (selected : t.Selects p x) (f : Assignment α) (q : α → Bool) :
    (t.update p f).count q + (if q x then 1 else 0) = t.count q + if q (f.set x) then 1 else 0 := by
  obtain ⟨before, after, old, new⟩ := selected.update_rows f
  simp only [count, old, new, List.countP_append, List.countP_cons]
  omega

theorem Selects.mem_update (selected : t.Selects p x) (f : Assignment α) :
    y ∈ (t.update p f).rows ↔ y = f.set x ∨ y ∈ t.rows ∧ y ≠ x := by
  rw [Table.mem_update]
  constructor
  · rintro ⟨z, inside, rfl⟩
    by_cases equal : z = x
    · subst equal
      exact Or.inl (rewrite_pos ((selected.2 z inside).mpr rfl))
    · have miss : p z = false := Bool.eq_false_iff.mpr fun hit => equal ((selected.2 z inside).mp hit)
      rw [rewrite_neg miss]
      exact Or.inr ⟨inside, equal⟩
  · rintro (rfl | ⟨inside, other⟩)
    · exact ⟨x, selected.1, rewrite_pos ((selected.2 x selected.1).mpr rfl)⟩
    · exact ⟨y, inside, rewrite_neg (Bool.eq_false_iff.mpr fun hit => other ((selected.2 y inside).mp hit))⟩

theorem mem_insert {z : α} (run : t.insert x = some (y, t')) : z ∈ t'.rows ↔ z ∈ t.rows ∨ z = y := by
  rw [(insert_cases run).2.2, List.mem_append, List.mem_singleton]

theorem forall_insert {good : α → Prop} (rows : ∀ z ∈ t.rows, good z)
    (run : t.insert x = some (y, t')) (fresh : good (Record.withId t.nextId x)) : ∀ z ∈ t'.rows, good z := by
  intro z member
  rcases (mem_insert run).mp member with old | rfl
  · exact rows z old
  · rw [(insert_cases run).2.1]
    exact fresh

theorem Selects.forall_update {good : α → Prop}
    (selected : t.Selects p x) (rows : ∀ z ∈ t.rows, good z) (fresh : good (f.set x)) :
    ∀ z ∈ (t.update p f).rows, good z := by
  intro z member
  rcases (selected.mem_update f).mp member with rfl | ⟨old, -⟩
  · exact fresh
  · exact rows z old

end Table
end Store
