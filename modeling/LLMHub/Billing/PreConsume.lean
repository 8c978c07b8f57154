import LLMHub.Billing.Quota
import Mathlib.Data.List.Sort

namespace LLMHub

open Store Action Go

inductive ResetPeriod
  | never
  | daily
  | weekly
  | monthly
  | custom
  deriving DecidableEq, Repr

def normalizeResetPeriod (period : String) : ResetPeriod :=
  if trimSpace period = "daily" then .daily
  else if trimSpace period = "weekly" then .weekly
  else if trimSpace period = "monthly" then .monthly
  else if trimSpace period = "custom" then .custom
  else .never

/-- The server's local calendar on Unix times: the first midnight, Monday
midnight and first midnight of a month after a given time. -/
structure Calendar where
  nextDay : Int → Int
  nextMonday : Int → Int
  nextMonth : Int → Int
  nextDay_later : ∀ t, t < nextDay t
  nextMonday_later : ∀ t, t < nextMonday t
  nextMonth_later : ∀ t, t < nextMonth t

def calcNextResetTime (calendar : Calendar) (base : Int) (plan : SubscriptionPlan) (endUnix : Int) : Int :=
  let capped (next : Int) : Int := if endUnix > 0 ∧ next > endUnix then 0 else next
  match normalizeResetPeriod plan.quotaResetPeriod with
  | .never => 0
  | .daily => capped (calendar.nextDay base)
  | .weekly => capped (calendar.nextMonday base)
  | .monthly => capped (calendar.nextMonth base)
  | .custom => if plan.quotaResetCustomSeconds ≤ 0 then 0 else capped (base + plan.quotaResetCustomSeconds)

def planIs (id : Int) (p : SubscriptionPlan) : Bool := p.id == id

/-- `WHERE user_id = ? AND status = 'active' AND end_time > now`. -/
def activeSubscriptionOf (userId now : Int) (s : UserSubscription) : Bool :=
  s.userId == userId && s.status == .active && decide (now < s.endTime)

/-- `ORDER BY end_time ASC, id ASC`. -/
def endsBefore (s t : UserSubscription) : Prop := s.endTime < t.endTime ∨ (s.endTime = t.endTime ∧ s.id ≤ t.id)

instance (s t : UserSubscription) : Decidable (endsBefore s t) := inferInstanceAs (Decidable (_ ∨ _))

def userSubscriptionAllowsWalletOverflow (userSubscriptionId userId : Int) : Command Bool := do
  failIf (userSubscriptionId ≤ 0 ∨ userId ≤ 0) (.text "invalid subscription identity")
  let sub ← findOr (fun s : UserSubscription => s.id == userSubscriptionId && s.userId == userId) .recordNotFound
  pure sub.allowWalletOverflow

end LLMHub
