import LLMHub.TopUp.Credit

namespace LLMHub

open Store Action

/-- The payment gateways whose orders an administrator can complete. -/
inductive Gateway
  | epay
  | stripe
  | creem
  | waffo
  | waffoPancake
  deriving DecidableEq, Repr

def Gateway.provider : Gateway → PaymentProvider
  | .epay => .epay
  | .stripe => .stripe
  | .creem => .creem
  | .waffo => .waffo
  | .waffoPancake => .waffoPancake

/-- What a gateway reports about a payment besides the order. -/
structure PaymentNotice where
  now : Int
  type : String
  customerId : String
  customerEmail : String

def EpayCallback.finish (setting : TopUpSetting) (tradeNo : String) : Nat → EpayCallback → Command Unit
  | 0, _ => pure ()
  | n + 1, c => do
    match ← c.next setting tradeNo with
    | none => pure ()
    | some stage => finish setting tradeNo n { c with stage := stage }

def Gateway.complete (setting : TopUpSetting) (notice : PaymentNotice) (tradeNo : String) : Gateway → Command Unit
  | .epay => EpayCallback.finish setting tradeNo 4 ⟨0, notice.type, .waiting⟩
  | .stripe => recharge setting notice.now tradeNo notice.customerId
  | .creem => rechargeCreem notice.now tradeNo notice.customerEmail
  | .waffo => rechargeWaffo setting notice.now tradeNo
  | .waffoPancake => rechargeWaffoPancake setting notice.now tradeNo

/-- What the gateway's completion adds to the wallet. -/
def Gateway.credit (setting : TopUpSetting) (order : TopUp) : Gateway → Int
  | .epay | .waffo | .waffoPancake => max 0 (setting.quotaOf order.amount)
  | .stripe => setting.stored order.money
  | .creem => order.amount

/-- The fraction of the exact product, or all of a negative one, with the
rounding of the float product. -/
def TopUpSetting.offset (setting : TopUpSetting) (money : ℚ) : ℚ :=
  let exact := money * setting.quotaPerUnit
  (if 0 ≤ exact then Int.fract exact else exact) + setting.rounding money

theorem WalletCredited.zero (userId : Int) (users : Table User) : WalletCredited userId 0 users users := by
  intro k
  simp

section Runs
variable {setting : TopUpSetting} {now : Int} {tradeNo : String} {completion : TopUpCompletion} {db : DB} {order : TopUp}

variable (found : db.topUps.first (topUpIs tradeNo) = some order) (pending : order.status = .pending)
include found pending

end Runs

end LLMHub
