import LLMHub.TopUp.Credit

namespace LLMHub

open Store Action

def EpayStage.isSaved : EpayStage → Bool
  | .saved _ => true
  | _ => false

/-- Callbacks that completed the order and have not credited the user yet. -/
def TopUpSystem.owed (s : TopUpSystem) : Nat := s.callbacks.countP fun c => c.stage.isSaved

/-- The condition under which the statements of a callback are as good as one
transaction: the order it saves is still pending, the user is credited after
it, and no process stops in between. Nothing else makes an order successful. -/
def TopUpEvent.Undisturbed (setting : TopUpSetting) (tradeNo : String) (s : TopUpSystem) : TopUpEvent → Prop
  | .notify _ _ _ => True
  | .advance position faults => ∀ c, s.callbacks[position]? = some c →
      match c.stage with
      | .loaded _ => ∀ row, s.db.topUps.first (topUpIs tradeNo) = some row → row.status = .pending
      | .saved topUp => faults.headD false = false ∧ 0 ≤ setting.quotaOf topUp.amount
      | _ => True
  | .stop process => ∀ c ∈ s.callbacks, c.process = process → c.stage.isSaved = false
  | .call op _ => ∀ expected target, op = .updatePending expected target → target ≠ .success

/-- Where the order is: not successful and nothing credited, successful and
about to be credited by one callback, or successful and credited. -/
inductive TopUpProgress (setting : TopUpSetting) (order : TopUp) (start : Table User) (status : TopUpStatus) (owed : Nat)
    (users : Table User) : Prop
  | unpaid (status : status ≠ .success) (owed : owed = 0) (same : ∀ k, walletIn users k = walletIn start k)
  | crediting (status : status = .success) (owed : owed = 1) (same : ∀ k, walletIn users k = walletIn start k)
      (provider : order.paymentProvider = .epay)
  | credited (status : status = .success) (owed : owed = 0)
      (credit : ∃ amount ∈ order.credits setting, WalletCredited order.userId amount start users)

/-- The copies of the order that a callback holds are the order, completed. -/
def EpayCallback.Faithful (order : TopUp) (c : EpayCallback) : Prop :=
  ∀ t, c.stage = .loaded t ∨ c.stage = .saved t →
    order.Same t ∧ t.status = .success ∧ order.paymentProvider = .epay

structure TopUpInvariant (setting : TopUpSetting) (tradeNo : String) (order : TopUp) (start : DB) (s : TopUpSystem) :
    Prop where
  copies : ∀ c ∈ s.callbacks, c.Faithful order
  row : ∃ row, s.db.topUps.first (topUpIs tradeNo) = some row ∧ order.Same row ∧
    TopUpProgress setting order start.users row.status s.owed s.db.users

section Steps
variable {setting : TopUpSetting} {tradeNo : String} {order : TopUp} {start : DB} {s s' : TopUpSystem}

theorem TopUp.Same.trans {a b c : TopUp} (first : a.Same b) (second : b.Same c) : a.Same c :=
  ⟨second.id.trans first.id, second.userId.trans first.userId, second.amount.trans first.amount,
    second.money.trans first.money, second.paymentProvider.trans first.paymentProvider⟩

theorem WalletCredited.of_same {userId amount : Int} {start users users' : Table User}
    (credited : WalletCredited userId amount users users') (same : ∀ k, walletIn users k = walletIn start k) :
    WalletCredited userId amount start users' :=
  fun k => (credited k).trans (by rw [same k])

/-- Events that leave the database alone and change no callback that has
saved the order. -/
theorem TopUpInvariant.of_callbacks (inv : TopUpInvariant setting tradeNo order start s) {callbacks : List EpayCallback}
    (copies : ∀ c ∈ callbacks, c.Faithful order) (owed : (TopUpSystem.mk s.db callbacks).owed = s.owed) :
    TopUpInvariant setting tradeNo order start ⟨s.db, callbacks⟩ where
  copies := copies
  row := by
    obtain ⟨row, found, same, progress⟩ := inv.row
    exact ⟨row, found, same, owed ▸ progress⟩

theorem faithful_waiting (process : Nat) (type : String) : (EpayCallback.mk process type .waiting).Faithful order := by
  rintro t (held | held) <;> cases held

theorem faithful_locked (c : EpayCallback) : EpayCallback.Faithful order { c with stage := .locked } := by
  rintro t (held | held) <;> cases held

theorem TopUpInvariant.call (inv : TopUpInvariant setting tradeNo order start s) {op : TopUpCall} {db' : DB}
    (left : (op.command setting tradeNo).Leaves s.db db')
    (allowed : ∀ expected target, op = .updatePending expected target → target ≠ .success) :
    TopUpInvariant setting tradeNo order start { s with db := db' } := by
  obtain ⟨row, found, same, progress⟩ := inv.row
  rcases op.leaves left with same | ⟨pendingRow, foundPending, pending, effect⟩
  · rw [same]
    exact inv
  · obtain rfl := Option.some.inj (found.symm.trans foundPending)
    refine ⟨inv.copies, ?_⟩
    rcases progress with ⟨-, owed, wallets⟩ | ⟨success, -, -⟩ | ⟨success, -, -⟩
    · rcases effect with ⟨expected, target, call, rfl⟩ | ⟨now, amount, listed, topUps, credited⟩
      · obtain ⟨kept, after, like, status⟩ := first_overwrite { row with status := target } found
          ⟨rfl, rfl, rfl, rfl, rfl⟩
        exact ⟨kept, after, same.trans like, .unpaid (status ▸ allowed _ _ call) owed wallets⟩
      · obtain ⟨kept, after, like, status⟩ :=
          first_overwrite { row with completeTime := now, status := .success } found ⟨rfl, rfl, rfl, rfl, rfl⟩
        refine ⟨kept, (congrArg (·.first (topUpIs tradeNo)) topUps).trans after, same.trans like, .credited status owed ?_⟩
        exact ⟨amount, same.credits setting ▸ listed, same.userId ▸ credited.of_same wallets⟩
    · exact absurd (pending.symm.trans success) (by decide)
    · exact absurd (pending.symm.trans success) (by decide)

section Advance
variable {position : Nat} {c : EpayCallback} {before after : List EpayCallback} {faults : List Bool}

/-- The callbacks around one that moves keep what is known of them. -/
theorem faithful_around (copies : ∀ x ∈ before ++ c :: after, x.Faithful order) :
    (∀ x ∈ before ++ after, x.Faithful order) ∧
      ∀ x : EpayCallback, x.Faithful order → ∀ y ∈ before ++ x :: after, y.Faithful order := by
  simp only [List.mem_append, List.mem_cons] at copies ⊢
  refine ⟨fun x member => copies x (member.imp_right Or.inr), fun x faithful y member => ?_⟩
  rcases member with member | rfl | member
  · exact copies y (Or.inl member)
  · exact faithful
  · exact copies y (Or.inr (Or.inr member))

theorem owed_split (before : List EpayCallback) (c : EpayCallback) (after : List EpayCallback) (db : DB) :
    (TopUpSystem.mk db (before ++ c :: after)).owed =
      (TopUpSystem.mk db (before ++ after)).owed + if c.stage.isSaved then 1 else 0 := by
  simp only [TopUpSystem.owed, List.countP_append, List.countP_cons]
  omega

/-- A callback's statement always comes back: its errors are only logged. -/
theorem next_fails {db db' : DB} {e : ModelError} (run : (c.next setting tradeNo).Fails db e db') : False := by
  unfold EpayCallback.next at run
  split at run
  · exact run.pure
  · rcases run.bind with failed | ⟨found, mid, -, rest⟩
    · exact failed.attempt
    · split at rest
      · exact rest.pure
      · split at rest <;> exact rest.pure
  · rcases run.bind with failed | ⟨updated, mid, -, rest⟩
    · exact failed.attempt
    · split at rest <;> exact rest.pure
  · rcases run.bind with failed | ⟨credited, mid, -, rest⟩
    · exact failed.attempt
    · exact rest.pure

/-- What one statement of a callback does. -/
theorem next_returns {db db' : DB} {r : Option EpayStage} (run : (c.next setting tradeNo).Returns db r db') :
    match c.stage with
    | .waiting => r = some .locked ∧ db' = db
    | .locked => db' = db ∧ ∀ stage, r = some stage → ∃ row, db.topUps.first (topUpIs tradeNo) = some row ∧
        row.paymentProvider = .epay ∧ stage = .loaded (row.paid c.type)
    | .loaded t => (r = none ∧ db' = db) ∨ (r = some (.saved t) ∧
        db' = { db with topUps := db.topUps.update (fun x => x.id == t.id) t.overwrite })
    | .saved _ => r = none := by
  unfold EpayCallback.next at run
  cases stage : c.stage with
  | waiting =>
    rw [stage] at run
    exact run.pure
  | locked =>
    rw [stage] at run
    obtain ⟨found, mid, read, rest⟩ := Returns.bind run
    rcases read.attempt with ⟨row, rfl, got⟩ | ⟨e, rfl, failed⟩
    · obtain ⟨first, rfl⟩ := got.findOr
      dsimp only at rest
      split at rest
      · obtain ⟨rfl, same⟩ := rest.pure
        exact ⟨same, fun stage held => nomatch held⟩
      · rename_i pending
        obtain ⟨rfl, same⟩ := rest.pure
        refine ⟨same, fun stage held => ⟨row, first, ?_, (Option.some.inj held).symm⟩⟩
        exact Classical.not_not.mp fun other => pending (Or.inl other)
    · obtain ⟨rfl, same⟩ := rest.pure
      exact ⟨same.trans (ReadOnly.leaves (Keeps.findOr _ _) (Or.inr ⟨e, failed⟩)), fun stage held => nomatch held⟩
  | loaded t =>
    rw [stage] at run
    obtain ⟨updated, mid, save, rest⟩ := Returns.bind run
    rcases save.attempt with ⟨u, rfl, saved⟩ | ⟨e, rfl, failed⟩
    · obtain ⟨rfl, rfl⟩ := rest.pure
      exact Or.inr ⟨rfl, TopUp.update_returns saved⟩
    · obtain ⟨rfl, rfl⟩ := rest.pure
      refine Or.inl ⟨rfl, ?_⟩
      rcases failed.bind with failed | ⟨_, _, -, failed⟩
      · exact failed.updateWhere
      · exact failed.pure.elim
  | saved t =>
    rw [stage] at run
    obtain ⟨_, _, -, rest⟩ := Returns.bind run
    exact rest.pure.1

/-- The last statement of a callback, if the database executes it. -/
theorem next_saved {db : DB} {t : TopUp} (executed : faults.headD false = false)
    (nonneg : 0 ≤ setting.quotaOf t.amount) (stage : c.stage = .saved t) :
    (c.next setting tradeNo ⟨db, faults⟩).2.db =
      { db with users := db.users.update (userIs t.userId) (User.credit (setting.quotaOf t.amount)) } := by
  have credit : increaseUserQuota t.userId (setting.quotaOf t.amount) ⟨db, faults⟩ = (.ok (),
      ⟨{ db with users := db.users.update (userIs t.userId) (User.credit (setting.quotaOf t.amount)) }, faults.tail⟩) := by
    rw [increaseUserQuota, bind_ok (failIf_neg (by omega) _ _), bind_ok (updateWhere_executed executed _ _)]
    rfl
  simp [EpayCallback.next, stage, bind_apply, attempt, credit, pure_apply]

theorem advance_eq (setting : TopUpSetting) (tradeNo : String) (s : TopUpSystem) (position : Nat) (c : EpayCallback)
    (faults : List Bool) :
    ∃ r, (c.next setting tradeNo).Returns s.db r (c.next setting tradeNo ⟨s.db, faults⟩).2.db ∧
      s.advance setting tradeNo position c faults = ⟨(c.next setting tradeNo ⟨s.db, faults⟩).2.db,
        match r with
        | some stage => s.callbacks.set position { c with stage := stage }
        | none => s.callbacks.eraseIdx position⟩ := by
  unfold TopUpSystem.advance
  match result : c.next setting tradeNo ⟨s.db, faults⟩ with
  | (.ok (some stage), after) => exact ⟨some stage, ⟨faults, after.faults, result⟩, rfl⟩
  | (.ok none, after) => exact ⟨none, ⟨faults, after.faults, result⟩, rfl⟩
  | (.error e, after) => exact (next_fails ⟨faults, after.faults, result⟩).elim

/-- The save of an order that is still pending: the credit is now owed. -/
theorem TopUpInvariant.save (inv : TopUpInvariant setting tradeNo order start s) {t : TopUp}
    (callbacks : s.callbacks = before ++ c :: after) (stage : c.stage = .loaded t)
    (pending : ∀ row, s.db.topUps.first (topUpIs tradeNo) = some row → row.status = .pending) :
    TopUpInvariant setting tradeNo order start
      ⟨{ s.db with topUps := s.db.topUps.update (fun x => x.id == t.id) t.overwrite },
        before ++ { c with stage := .saved t } :: after⟩ := by
  obtain ⟨row, found, same, progress⟩ := inv.row
  have copies := callbacks ▸ inv.copies
  obtain ⟨like, status, provider⟩ := copies c (by simp) t (Or.inl stage)
  have counted : s.owed = (TopUpSystem.mk s.db (before ++ after)).owed := by
    have all := owed_split before c after s.db
    rw [← callbacks, stage] at all
    exact all
  refine ⟨(faithful_around copies).2 _ fun x held => ?_, ?_⟩
  · rcases held with held | held
    · cases held
    · cases held
      exact ⟨like, status, provider⟩
  · obtain ⟨kept, first, likeRow, keptStatus⟩ := first_overwrite t found
      ⟨like.id.trans same.id.symm, like.userId.trans same.userId.symm, like.amount.trans same.amount.symm,
        like.money.trans same.money.symm, like.paymentProvider.trans same.paymentProvider.symm⟩
    refine ⟨kept, first, same.trans likeRow, ?_⟩
    rcases progress with ⟨-, owed, wallets⟩ | ⟨success, -, -⟩ | ⟨success, -, -⟩
    · refine .crediting (keptStatus.trans status) ?_ wallets provider
      exact (owed_split _ _ _ _).trans (congrArg (· + 1) (counted.symm.trans owed))
    · exact absurd ((pending row found).symm.trans success) (by decide)
    · exact absurd ((pending row found).symm.trans success) (by decide)

/-- The credit, by the one callback that owes it. -/
theorem TopUpInvariant.credit (inv : TopUpInvariant setting tradeNo order start s) {t : TopUp}
    (callbacks : s.callbacks = before ++ c :: after) (stage : c.stage = .saved t) :
    TopUpInvariant setting tradeNo order start
      ⟨{ s.db with users := s.db.users.update (userIs t.userId) (User.credit (setting.quotaOf t.amount)) },
        before ++ after⟩ := by
  obtain ⟨row, found, same, progress⟩ := inv.row
  have copies := callbacks ▸ inv.copies
  obtain ⟨like, -, provider⟩ := copies c (by simp) t (Or.inr stage)
  have counted : s.owed = (TopUpSystem.mk s.db (before ++ after)).owed + 1 := by
    have all := owed_split before c after s.db
    rw [← callbacks, stage] at all
    exact all
  refine ⟨(faithful_around copies).1, row, found, same, ?_⟩
  rcases progress with ⟨-, owed, -⟩ | ⟨success, owed, wallets, -⟩ | ⟨-, owed, -⟩
  · omega
  · refine .credited success (Nat.succ.inj (counted.symm.trans owed)) ⟨setting.quotaOf order.amount, ?_, ?_⟩
    · simp [TopUp.credits, provider]
    · rw [← like.amount, ← like.userId]
      exact WalletCredited.of_same (fun k => walletIn_credit _ _ _ _) wallets
  · omega

theorem TopUpInvariant.advance (inv : TopUpInvariant setting tradeNo order start s)
    (found : s.callbacks[position]? = some c)
    (allowed : (TopUpEvent.advance position faults).Undisturbed setting tradeNo s) :
    TopUpInvariant setting tradeNo order start (s.advance setting tradeNo position c faults) := by
  obtain ⟨before, after, callbacks, erased, moved⟩ := split_position found
  obtain ⟨r, run, result⟩ := advance_eq setting tradeNo s position c faults
  have around := faithful_around (callbacks ▸ inv.copies)
  have allowed := allowed c found
  have counted := owed_split before c after s.db
  rw [← callbacks] at counted
  have effect := next_returns run
  rw [result]
  cases stage : c.stage with
  | waiting =>
    rw [stage] at effect counted
    obtain ⟨rfl, same⟩ := effect
    rw [same]
    simp only [moved]
    exact inv.of_callbacks (around.2 _ (faithful_locked c)) ((owed_split _ _ _ s.db).trans counted.symm)
  | locked =>
    rw [stage] at effect counted
    obtain ⟨same, read⟩ := effect
    rw [same]
    cases r with
    | none => exact inv.of_callbacks (erased ▸ around.1) (erased ▸ counted.symm)
    | some next =>
      obtain ⟨row, first, provider, rfl⟩ := read _ rfl
      obtain ⟨known, foundRow, sameRow, -⟩ := inv.row
      obtain rfl := Option.some.inj (foundRow.symm.trans first)
      simp only [moved]
      refine inv.of_callbacks (around.2 _ ?_) ((owed_split _ _ _ s.db).trans counted.symm)
      rintro t (held | held)
      · cases held
        exact ⟨⟨sameRow.id, sameRow.userId, sameRow.amount, sameRow.money, sameRow.paymentProvider⟩, rfl,
          sameRow.paymentProvider.symm.trans provider⟩
      · cases held
  | loaded t =>
    rw [stage] at effect counted allowed
    rcases effect with ⟨rfl, same⟩ | ⟨rfl, same⟩
    · rw [same]
      exact inv.of_callbacks (erased ▸ around.1) (erased ▸ counted.symm)
    · rw [same]
      simp only [moved]
      exact inv.save callbacks stage allowed
  | saved t =>
    rw [stage] at effect allowed
    rw [next_saved allowed.1 allowed.2 stage, effect]
    simp only [erased]
    exact inv.credit callbacks stage

end Advance

theorem TopUpInvariant.stop (inv : TopUpInvariant setting tradeNo order start s) {process : Nat}
    (allowed : ∀ c ∈ s.callbacks, c.process = process → c.stage.isSaved = false) :
    TopUpInvariant setting tradeNo order start
      { s with callbacks := s.callbacks.filter fun c => c.process != process } := by
  refine inv.of_callbacks (fun c member => inv.copies c (List.mem_of_mem_filter member)) ?_
  simp only [TopUpSystem.owed, List.countP_filter]
  refine List.countP_congr fun c member => ?_
  by_cases here : c.process = process
  · simp [here, allowed c member here]
  · simp [here]

/-- One event. -/
theorem TopUpInvariant.step (inv : TopUpInvariant setting tradeNo order start s) {e : TopUpEvent}
    (allowed : e.Undisturbed setting tradeNo s) :
    TopUpInvariant setting tradeNo order start ((topUpMachine setting tradeNo).step s e) := by
  cases e with
  | notify process gateway params =>
    simp only [topUpMachine]
    split
    · split
      · refine inv.of_callbacks (fun c member => ?_) (by simp [TopUpSystem.owed, EpayStage.isSaved])
        rcases List.mem_append.mp member with member | member
        · exact inv.copies c member
        · rw [List.mem_singleton.mp member]
          exact faithful_waiting _ _
      · exact inv
    · exact inv
  | advance position faults =>
    simp only [topUpMachine]
    split
    · rename_i c found
      split
      · exact inv
      · exact inv.advance found allowed
    · exact inv
  | stop process => exact inv.stop allowed
  | call op faults => exact inv.call (leaves_run _ ⟨s.db, faults⟩) allowed

end Steps

/-- In every run whose callbacks are undisturbed, a successful order has been
credited once and any other order not at all, when no callback is under way. -/
theorem topUp_credited_once {setting : TopUpSetting} {tradeNo : String} {order : TopUp} {start : DB}
    {events : List TopUpEvent} (found : start.topUps.first (topUpIs tradeNo) = some order) (unpaid : order.status ≠ .success)
    (undisturbed : (topUpMachine setting tradeNo).Permits (fun s e => e.Undisturbed setting tradeNo s) ⟨start, []⟩ events)
    (quiescent : ((topUpMachine setting tradeNo).run ⟨start, []⟩ events).callbacks = []) :
    ∃ row, ((topUpMachine setting tradeNo).run ⟨start, []⟩ events).db.topUps.first (topUpIs tradeNo) = some row ∧
      (row.status = .success → ∃ amount ∈ order.credits setting,
        WalletCredited order.userId amount start.users ((topUpMachine setting tradeNo).run ⟨start, []⟩ events).db.users) ∧
      (row.status ≠ .success → ∀ k,
        walletIn ((topUpMachine setting tradeNo).run ⟨start, []⟩ events).db.users k = walletIn start.users k) := by
  have first : TopUpInvariant setting tradeNo order start ⟨start, []⟩ :=
    ⟨by simp, order, found, .refl order, .unpaid unpaid rfl fun _ => rfl⟩
  obtain ⟨-, row, kept, -, progress⟩ := undisturbed.keeps _ (fun _ _ allowed inv => TopUpInvariant.step inv allowed) first
  refine ⟨row, kept, ?_⟩
  rcases progress with ⟨status, -, wallets⟩ | ⟨-, owed, -⟩ | ⟨status, -, credit⟩
  · exact ⟨fun success => absurd success status, fun _ => wallets⟩
  · rw [TopUpSystem.owed, quiescent] at owed
    exact absurd owed (by decide)
  · exact ⟨fun _ => credit, fun other => absurd status other⟩

def unitSetting : TopUpSetting := ⟨500000, fun _ => 0, fun _ => false, fun _ => rfl⟩

def twoDollars : TopUp :=
  { id := 1, userId := 7, amount := 2, tradeNo := "t", paymentProvider := .epay, status := .pending }

/-- User 7 with a quota of 100, and a pending order of 2 dollars. -/
def oneOrder : DB where
  users := .single { id := 7, quota := 100 }
  topUps := .single twoDollars

/-- The gateway tells a server process that the order was paid. -/
def oneOrderPaid (process : Nat) : TopUpEvent :=
  .notify process ⟨true, some fun _ => some ⟨true, "t", "alipay", "TRADE_SUCCESS"⟩⟩ (some [("sign", "s")])

def oneOrderRun (events : List TopUpEvent) : TopUpSystem := (topUpMachine unitSetting "t").run ⟨oneOrder, []⟩ events

/-- One callback, statement by statement. -/
def oneOrderCallback : List TopUpEvent :=
  [oneOrderPaid 0, .advance 0 [], .advance 0 [], .advance 0 [], .advance 0 []]

theorem oneOrder_credited_once :
    ∃ row, (oneOrderRun oneOrderCallback).db.topUps.first (topUpIs "t") = some row ∧
      (row.status = .success → ∃ amount ∈ twoDollars.credits unitSetting,
        WalletCredited 7 amount oneOrder.users (oneOrderRun oneOrderCallback).db.users) ∧
      (row.status ≠ .success → ∀ k,
        walletIn (oneOrderRun oneOrderCallback).db.users k = walletIn oneOrder.users k) := by
  refine topUp_credited_once rfl (by decide) ⟨trivial, ?_, ?_, ?_, ?_, trivial⟩ (by decide +kernel)
  · rintro c ⟨⟩
    exact trivial
  · rintro c ⟨⟩
    exact trivial
  · rintro c ⟨⟩ row ⟨⟩
    rfl
  · rintro c ⟨⟩
    exact ⟨rfl, by decide +kernel⟩

/-- Two processes read the order before either saves it: both credit the user.
A process stops between the save and the credit: nobody does. -/
theorem oneOrder_credited_twice_or_never :
    let twice := oneOrderRun [oneOrderPaid 0, oneOrderPaid 1, .advance 0 [], .advance 1 [], .advance 0 [], .advance 1 [],
      .advance 0 [], .advance 1 [], .advance 0 [], .advance 0 []]
    let never := oneOrderRun [oneOrderPaid 0, .advance 0 [], .advance 0 [], .advance 0 [], .stop 0]
    twice.callbacks = [] ∧ twice.db.topUps.rows.map TopUp.status = [.success] ∧
      twice.db.users.rows.map User.quota = [100 + 2 * 1000000] ∧
      never.callbacks = [] ∧ never.db.topUps.rows.map TopUp.status = [.success] ∧
      never.db.users.rows.map User.quota = [100] := by
  decide +kernel

end LLMHub
