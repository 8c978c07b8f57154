import LLMHub.Billing.PreConsume
import LLMHub.Billing.Consumer
import LLMHub.Store.Posting

namespace LLMHub

open Store Action

/-- Whose balances a request is charged to. -/
structure Parties where
  userId : Int
  subscriptionId : Int
  tokenId : Int

/-- A charge lowers the wallet. -/
def walletPosting : Posting Int where
  post charge quota := quota - charge
  zero := Int.sub_zero
  add m n quota := by omega

/-- A charge raises the usage of a subscription. -/
def usagePosting : Posting Int where
  post charge used := used + charge
  zero := Int.add_zero
  add m n used := by omega

/-- A charge raises what a token has used and lowers what it may spend. -/
def tokenPosting : Posting (Int × Option Int) where
  post charge token := (token.1 + charge, token.2.map (· - charge))
  zero token := by simp
  add m n token := by
    refine Prod.ext (by simp only; omega) ?_
    simp only [Option.map_map]
    exact congrArg (fun f => token.2.map f) (funext fun rest => by simp only [Function.comp_apply]; omega)

/-- From `base` to `db` the parties were charged these amounts, net, and nobody
else was charged anything. -/
structure Billed (parties : Parties) (base db : DB) (wallet usage token : Int) : Prop where
  wallet : walletPosting.Posted (walletIn base.users) (walletIn db.users) (Pi.single parties.userId wallet)
  usage : usagePosting.Posted (usedIn base.userSubscriptions) (usedIn db.userSubscriptions)
    (Pi.single parties.subscriptionId usage)
  token : tokenPosting.Posted (tokenIn base.tokens) (tokenIn db.tokens) (Pi.single parties.tokenId token)

section Billed
variable {parties : Parties} {base mid db : DB} {wallet wallet' usage usage' token token' : Int}

theorem Billed.refl (parties : Parties) (db : DB) : Billed parties db db 0 0 0 := by
  refine ⟨?_, ?_, ?_⟩ <;> rw [Pi.single_zero] <;> exact .refl _ _

theorem Billed.trans (first : Billed parties base mid wallet usage token)
    (second : Billed parties mid db wallet' usage' token') :
    Billed parties base db (wallet + wallet') (usage + usage') (token + token') := by
  refine ⟨?_, ?_, ?_⟩ <;> rw [Pi.single_add]
  · exact first.wallet.trans second.wallet
  · exact first.usage.trans second.usage
  · exact first.token.trans second.token

/-- Only the balances matter. -/
theorem Billed.congr {db' : DB} (billed : Billed parties base db wallet usage token) (users : db'.users = db.users)
    (subscriptions : db'.userSubscriptions = db.userSubscriptions) (tokens : db'.tokens = db.tokens) :
    Billed parties base db' wallet usage token :=
  ⟨users ▸ billed.wallet, subscriptions ▸ billed.usage, tokens ▸ billed.token⟩

end Billed

theorem userIs_id {id : Int} {u : User} (named : userIs id u = true) : u.id = id := by
  simp only [userIs, Bool.and_eq_true, beq_iff_eq] at named
  exact named.1

theorem userCovers_iff {id quota : Int} {u : User} :
    userCovers id quota u = true ↔ userIs id u = true ∧ quota ≤ u.quota := by
  simp [userCovers]

theorem tokenCovers_iff {id quota : Int} {t : Token} :
    tokenCovers id quota t = true ↔ t.id = id ∧ (t.unlimitedQuota = true ∨ quota ≤ t.remainQuota) := by
  simp [tokenCovers, tokenIs]

section Primitives
variable {env : Env} {db db' : DB} {u : Unit}

theorem walletIn_posted {t : Table User} {select : User → Bool} {f : Table.Assignment User} {id charge : Int} {user : User}
    (found : t.first (userIs id) = some user) (hit : select user = true)
    (only : ∀ u, select u = true → userIs id u = true) (kept : ∀ k u, userIs k (f.set u) = userIs k u)
    (effect : (f.set user).quota = user.quota - charge) :
    walletPosting.Posted (walletIn t) (walletIn (t.update select f)) (Pi.single id charge) :=
  .update found hit (fun _ _ named => userIs_id named) (fun u selected => userIs_id (only u selected)) kept effect

theorem tokenIn_posted {t : Table Token} {select : Token → Bool} {f : Table.Assignment Token} {id charge : Int}
    {token : Token} (found : t.first (tokenIs id) = some token) (hit : select token = true)
    (only : ∀ k, select k = true → k.id = id) (used : (f.set token).usedQuota = token.usedQuota + charge)
    (limit : (f.set token).unlimitedQuota = token.unlimitedQuota)
    (rest : token.unlimitedQuota = false → (f.set token).remainQuota = token.remainQuota - charge) :
    tokenPosting.Posted (tokenIn t) (tokenIn (t.update select f)) (Pi.single id charge) := by
  refine .update found hit (fun k y named => beq_iff_eq.mp named) only (fun k y => congrArg (· == k) (f.id y)) ?_
  refine Prod.ext used ?_
  unfold Token.spendable
  rw [limit]
  cases unlimited : token.unlimitedQuota with
  | true => rfl
  | false => exact congrArg some (rest unlimited)

theorem decreaseTokenQuotaTx_returns {id quota : Int} (run : (decreaseTokenQuotaTx env id quota).Returns db u db') :
    (0 < quota → 0 < id) ∧ ∀ userId subscriptionId, Billed ⟨userId, subscriptionId, id⟩ db db' 0 0 quota := by
  unfold decreaseTokenQuotaTx at run
  split at run
  · rename_i trivial_
    obtain ⟨zero, rfl⟩ := run.failIf
    obtain rfl : quota = 0 := not_not.mp zero
    exact ⟨fun positive => absurd positive (lt_irrefl 0), fun _ _ => .refl _ _⟩
  · rename_i valid
    have done := run.updateWhere_bind
    refine ⟨fun _ => by omega, fun userId subscriptionId => ?_⟩
    split at done
    · rename_i one
      have covered : db.tokens.count (tokenCovers id quota) ≠ 0 := by
        have single : db.tokens.count (tokenCovers id quota) = 1 := one
        omega
      obtain ⟨token, found, hit⟩ := Table.first_of_count covered
        (fun t covers => beq_iff_eq.mpr (tokenCovers_iff.mp covers).1)
        fun x inside y here named same => Table.eq_of_id inside here ((beq_iff_eq.mp named).trans (beq_iff_eq.mp same).symm)
      have written : db' = { db with tokens := db.tokens.update (tokenCovers id quota) (Token.take env.now quota) } :=
        done.pure.2
      have same := Billed.refl ⟨userId, subscriptionId, id⟩ db
      subst written
      refine ⟨same.wallet, same.usage, tokenIn_posted found hit (fun t covers => (tokenCovers_iff.mp covers).1) rfl rfl ?_⟩
      intro limited
      simp [Token.take, limited]
    · obtain ⟨_, _, refused⟩ := done.findOr_bind
      exact absurd refused Returns.fail

end Primitives

end LLMHub
