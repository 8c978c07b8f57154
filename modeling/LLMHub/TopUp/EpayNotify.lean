import LLMHub.TopUp.Recharge
import LLMHub.Store.Machine

namespace LLMHub

open Store Action

/-- What the gateway's client reads from a signed callback. -/
structure EpayVerifyInfo where
  verifyStatus : Bool
  serviceTradeNo : String
  type : String
  tradeStatus : String
  deriving DecidableEq, Repr

/-- The configured gateway: whether its callbacks are enabled, and its client
if it has one. -/
structure EpayGateway where
  webhookEnabled : Bool
  client : Option (List (String × String) → Option EpayVerifyInfo)

/-- `EpayNotify` up to the lock: the text it answers with, and what it goes on
with. The parameters are missing if the form could not be parsed. -/
def epayNotify (gateway : EpayGateway) (params : Option (List (String × String))) : String × Option EpayVerifyInfo :=
  if gateway.webhookEnabled = false then ("fail", none)
  else match params, gateway.client with
    | some (p :: rest), some verify =>
      match verify (p :: rest) with
      | some info =>
        if info.verifyStatus = false then ("fail", none)
        else if info.tradeStatus = "TRADE_SUCCESS" then ("success", some info)
        else ("success", none)
      | none => ("fail", none)
    | _, _ => ("fail", none)

/-- How far a callback is: before `LockOrder`, before it reads the order,
before it saves the order it made of what it read, before it credits the user. -/
inductive EpayStage
  | waiting
  | locked
  | loaded (topUp : TopUp)
  | saved (topUp : TopUp)
  deriving DecidableEq, Repr

structure EpayCallback where
  process : Nat
  type : String
  stage : EpayStage
  deriving DecidableEq, Repr

def TopUp.paid (topUp : TopUp) (type : String) : TopUp := { topUp with paymentMethod := type, status := .success }

/-- The next statement of a callback, and where it is after it; without a
stage it returns and unlocks the order. Errors are only logged. -/
def EpayCallback.next (setting : TopUpSetting) (tradeNo : String) (c : EpayCallback) : Command (Option EpayStage) :=
  match c.stage with
  | .waiting => pure (some .locked)
  | .locked => do
    let found ← attempt (findOr (topUpIs tradeNo) .recordNotFound)
    match found with
    | .error _ => pure none
    | .ok topUp =>
      if topUp.paymentProvider ≠ .epay ∨ topUp.status ≠ .pending then pure none
      else pure (some (.loaded (topUp.paid c.type)))
  | .loaded topUp => do
    let updated ← attempt topUp.update
    match updated with
    | .error _ => pure none
    | .ok _ => pure (some (.saved topUp))
  | .saved topUp => do
    let _ ← attempt (increaseUserQuota topUp.userId (setting.quotaOf topUp.amount))
    pure none

/-- The database and the callbacks for one order that are under way in any
server process. -/
structure TopUpSystem where
  db : DB
  callbacks : List EpayCallback := []

/-- `LockOrder` would block: another callback of the process has the lock. -/
def TopUpSystem.locked (s : TopUpSystem) (process : Nat) : Bool :=
  s.callbacks.any fun c => c.process == process && c.stage != .waiting

/-- The operations on an order that are one transaction. -/
inductive TopUpCall
  | recharge (now : Int) (customerId : String)
  | rechargeCreem (now : Int) (customerEmail : String)
  | rechargeWaffo (now : Int)
  | rechargeWaffoPancake (now : Int)
  | manualComplete (now : Int)
  | updatePending (expectedPaymentProvider : Option PaymentProvider) (targetStatus : TopUpStatus)

def TopUpCall.command (setting : TopUpSetting) (tradeNo : String) : TopUpCall → Command Unit
  | .recharge now customerId => LLMHub.recharge setting now tradeNo customerId
  | .rechargeCreem now customerEmail => LLMHub.rechargeCreem now tradeNo customerEmail
  | .rechargeWaffo now => LLMHub.rechargeWaffo setting now tradeNo
  | .rechargeWaffoPancake now => LLMHub.rechargeWaffoPancake setting now tradeNo
  | .manualComplete now => manualCompleteTopUp setting now tradeNo
  | .updatePending expected target => updatePendingTopUpStatus tradeNo expected target

/-- `faults` says which statements the database fails to execute. -/
inductive TopUpEvent
  | notify (process : Nat) (gateway : EpayGateway) (params : Option (List (String × String)))
  | advance (position : Nat) (faults : List Bool)
  | stop (process : Nat)
  | call (op : TopUpCall) (faults : List Bool)

def TopUpSystem.advance (setting : TopUpSetting) (tradeNo : String) (s : TopUpSystem) (position : Nat)
    (c : EpayCallback) (faults : List Bool) : TopUpSystem :=
  match c.next setting tradeNo ⟨s.db, faults⟩ with
  | (.ok (some stage), after) => ⟨after.db, s.callbacks.set position { c with stage := stage }⟩
  | (_, after) => ⟨after.db, s.callbacks.eraseIdx position⟩

/-- Callbacks for other orders are left out, a blocked callback stays where it
is, and a process that stops loses its callbacks. -/
def topUpMachine (setting : TopUpSetting) (tradeNo : String) : Machine TopUpSystem TopUpEvent where
  step s
    | .notify process gateway params =>
      match (epayNotify gateway params).2 with
      | some info =>
        if info.serviceTradeNo = tradeNo then { s with callbacks := s.callbacks ++ [⟨process, info.type, .waiting⟩] }
        else s
      | none => s
    | .advance position faults =>
      match s.callbacks[position]? with
      | some c =>
        if c.stage = .waiting ∧ s.locked c.process = true then s else s.advance setting tradeNo position c faults
      | none => s
    | .stop process => { s with callbacks := s.callbacks.filter fun c => c.process != process }
    | .call op faults => { s with db := (op.command setting tradeNo ⟨s.db, faults⟩).2.db }

end LLMHub
