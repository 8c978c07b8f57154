import Mathlib.Logic.Relation
import Mathlib.Algebra.Order.Ring.Int

namespace LLMHub

/-- What settlement keeps for one provider or tenant: the income it may draw
on, the part that withdrawals have reserved or paid out, and the number of
withdrawals still under way. -/
structure Account where
  earned : Int
  unavailable : Int
  openCount : Nat
  deriving DecidableEq, Repr

namespace Account

def available (a : Account) : Int := a.earned - a.unavailable

/-- The movements of an account. -/
inductive Step : Account → Account → Prop
  | idle (a : Account) : Step a a
  | earn {a b : Account} (amount : Int) (gain : 0 ≤ amount) (income : b.earned = a.earned + amount)
      (frozen : b.unavailable = a.unavailable) (count : b.openCount = a.openCount) : Step a b
  | transfer {a b : Account} (amount : Int) (funds : amount ≤ a.available) (income : b.earned = a.earned - amount)
      (frozen : b.unavailable = a.unavailable) (count : b.openCount = a.openCount) : Step a b
  | reserve {a b : Account} (amount : Int) (idle : a.openCount = 0) (funds : amount ≤ a.available)
      (income : b.earned = a.earned) (frozen : b.unavailable = a.unavailable + amount) (count : b.openCount = 1) :
      Step a b
  | pay {a b : Account} (income : b.earned = a.earned) (frozen : b.unavailable = a.unavailable)
      (count : b.openCount + 1 = a.openCount) : Step a b
  | release {a b : Account} (amount : Int) (gain : 0 ≤ amount) (income : b.earned = a.earned)
      (frozen : b.unavailable = a.unavailable - amount) (count : b.openCount + 1 = a.openCount) : Step a b

/-- Nothing was paid beyond the income, and at most one withdrawal is open. -/
structure Solvent (a : Account) : Prop where
  funds : 0 ≤ a.available
  single : a.openCount ≤ 1

theorem Step.solvent {a b : Account} (step : Step a b) (solvent : a.Solvent) : b.Solvent := by
  obtain ⟨funds, single⟩ := solvent
  unfold available at funds
  cases step with
  | idle => exact ⟨funds, single⟩
  | earn amount gain income frozen count | pay income frozen count | release amount gain income frozen count =>
    constructor
    · unfold available; omega
    · omega
  | transfer amount enough income frozen count | reserve amount idle enough income frozen count =>
    unfold available at enough
    constructor
    · unfold available; omega
    · omega

theorem solvent_of_steps {a b : Account} (steps : Relation.ReflTransGen Step a b) (solvent : a.Solvent) :
    b.Solvent := by
  induction steps with
  | refl => exact solvent
  | tail _ step ih => exact step.solvent ih

end Account
end LLMHub
