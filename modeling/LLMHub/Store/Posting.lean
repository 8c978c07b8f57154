import LLMHub.Store.Table
import Mathlib.Algebra.Group.Pi.Lemmas
import Mathlib.Algebra.Group.Int.Defs

namespace Store

/-- How an amount is posted to a balance: postings add up. -/
structure Posting (β : Type) where
  post : Int → β → β
  zero : ∀ b, post 0 b = b
  add : ∀ m n b, post n (post m b) = post (m + n) b

namespace Posting
variable {β κ : Type}

/-- From `before` to `after` each account received its amount. Only existing
accounts receive anything. -/
structure Posted (p : Posting β) (before after : κ → Option β) (amount : κ → Int) : Prop where
  value : ∀ k, after k = (before k).map (p.post (amount k))
  present : ∀ k, amount k ≠ 0 → (before k).isSome

variable {p : Posting β} {before mid after : κ → Option β} {m n : κ → Int}

theorem Posted.refl (p : Posting β) (before : κ → Option β) : p.Posted before before 0 where
  value k := by
    cases before k <;> simp [p.zero]
  present k moved := absurd rfl moved

theorem Posted.isSome (posted : p.Posted before after m) (k : κ) : (after k).isSome = (before k).isSome := by
  rw [posted.value k, Option.isSome_map]

theorem Posted.trans (first : p.Posted before mid m) (second : p.Posted mid after n) :
    p.Posted before after (m + n) where
  value k := by
    rw [second.value k, first.value k, Option.map_map]
    exact congrArg (fun f => (before k).map f) (funext (p.add (m k) (n k)))
  present k moved := by
    by_cases still : m k = 0
    · have late : n k ≠ 0 := by
        intro zero
        exact moved (by rw [Pi.add_apply, still, zero, add_zero])
      rw [← first.isSome]
      exact second.present k late
    · exact first.present k still

theorem present_single [DecidableEq κ] {k : κ} {amount : Int} (present : amount ≠ 0 → (before k).isSome) (j : κ)
    (moved : (Pi.single k amount : κ → Int) j ≠ 0) : (before j).isSome := by
  by_cases same : j = k
  · subst same
    rw [Pi.single_eq_same] at moved
    exact present moved
  · exact absurd (Pi.single_eq_of_ne same _) moved

/-- Only one account changes. -/
theorem Posted.single [DecidableEq κ] {k : κ} {b : β} {amount : Int} (found : before k = some b)
    (here : after k = some (p.post amount b)) (elsewhere : ∀ j, j ≠ k → after j = before j) :
    p.Posted before after (Pi.single k amount) where
  value j := by
    by_cases same : j = k
    · subst same
      rw [Pi.single_eq_same, found, here, Option.map_some]
    · rw [Pi.single_eq_of_ne same, elsewhere j same]
      cases before j <;> simp [p.zero]
  present := present_single fun _ => by rw [found, Option.isSome_some]

/-- An update of one row posts to the account of that row, when rows are found
by conditions that their ids decide. -/
theorem Posted.update {α : Type} [Record α] {t : Table α} {name : Int → α → Bool} {value : α → β} {select : α → Bool}
    {f : Table.Assignment α} {id amount : Int} {x : α} (found : t.first (name id) = some x) (hit : select x = true)
    (named : ∀ k y, name k y = true → Record.id y = k) (only : ∀ y, select y = true → Record.id y = id)
    (kept : ∀ k y, name k (f.set y) = name k y) (effect : value (f.set x) = p.post amount (value x)) :
    p.Posted (fun k => (t.first (name k)).map value) (fun k => ((t.update select f).first (name k)).map value)
      (Pi.single id amount) := by
  refine .single (b := value x) (by rw [found, Option.map_some]) ?_ ?_
  · rw [Table.first_update (kept id), found, Option.map_some, Option.map_some, Table.rewrite_pos hit, effect]
  · intro k other
    rw [Table.first_update (kept k), Option.map_map]
    refine Option.map_congr fun y inside => ?_
    have miss : select y = false := by
      rw [← Bool.not_eq_true]
      intro selected
      exact other ((named k y (Table.holds_of_first inside)).symm.trans (only y selected))
    rw [Function.comp_apply, Table.rewrite_neg miss]

end Posting
end Store
