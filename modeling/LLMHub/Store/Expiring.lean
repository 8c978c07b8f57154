namespace Store

/-- A value under a key that a store drops by itself. It is last seen at the
time it expires. -/
structure Expiring (α : Type) where
  value : α
  expiry : Int

namespace Expiring

variable {α : Type} {now time : Int} {value : α} {entry : Option (Expiring α)}

def live (now : Int) : Option (Expiring α) → Option α
  | some e => if now ≤ e.expiry then some e.value else none
  | none => none

/-- A time that is not in the future drops the key at once. -/
def expireAt (now time : Int) (value : α) : Option (Expiring α) := if time ≤ now then none else some ⟨value, time⟩

def expireIn (now ttl : Int) (value : α) : Option (Expiring α) := expireAt now (now + ttl) value

theorem live_eq_some (found : live now entry = some value) : ∃ e, entry = some e ∧ now ≤ e.expiry ∧ e.value = value := by
  cases entry with
  | none => cases found
  | some e =>
    simp only [live] at found
    split at found
    · rename_i fresh
      exact ⟨e, rfl, fresh, Option.some.inj found⟩
    · cases found

theorem live_eq_none {e : Expiring α} (gone : live now (some e) = none) : e.expiry < now := by
  simp only [live] at gone
  split at gone
  · cases gone
  · rename_i late
    exact Int.not_le.mp late

theorem expireIn_of_pos {ttl : Int} (positive : 0 < ttl) : expireIn now ttl value = some ⟨value, now + ttl⟩ := by
  unfold expireIn expireAt
  rw [if_neg (by omega)]

end Expiring
end Store
