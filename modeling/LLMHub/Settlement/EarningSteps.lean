import LLMHub.Settlement.Earning

namespace LLMHub

open Store Action Go HubProviderEarning

theorem checkReferralProvider_readOnly (earning : HubProviderEarning) : (checkReferralProvider earning).ReadOnly :=
  .ite (.bind (.find _) fun _ => .pure _) (.pure _)

theorem revenueSplit_readOnly (earning : HubProviderEarning) (grossQuota : Int) :
    (calculateHubProviderEarningRevenueSplit earning grossQuota).ReadOnly :=
  .bind (checkReferralProvider_readOnly earning) fun _ => .bind (.ofExcept _) fun _ => .pure _

def DB.updateEarnings (db : DB) (p : HubProviderEarning → Bool) (f : Table.Assignment HubProviderEarning) : DB :=
  { db with hubProviderEarnings := db.hubProviderEarnings.update p f }

variable {earning : HubProviderEarning} {db db' : DB} {grossQuota : Int} {env : Env} {requestId : String}

theorem earningIs_count {t : Table HubProviderEarning}
    {status : HubProviderEarningStatus} (member : earning ∈ t.rows) (one : t.count (earningIs earning.id status) = 1) :
    earning.status = status := by
  have hit : 0 < t.rows.countP (earningIs earning.id status) := by
    unfold Table.count at one
    omega
  obtain ⟨other, inside, selected⟩ := List.countP_pos_iff.mp hit
  simp only [earningIs, Bool.and_eq_true, beq_iff_eq] at selected
  obtain rfl := t.eq_of_id inside member selected.1
  exact selected.2

/-- The split recorded for `earning` and `grossQuota` by a settlement against `db`. -/
def SplitAt (db : DB) (earning : HubProviderEarning) (grossQuota : Int) (split : RevenueSplit) : Prop :=
  ∃ supply, calculateHubProviderSupplyQuota earning grossQuota = .ok supply ∧
    split = splitRevenue earning grossQuota (appliedReferralBasisPoints db earning) supply

theorem SplitAt.balanced {split : RevenueSplit}
    (at_db : SplitAt db earning grossQuota split) (positive : 0 < grossQuota) : split.Balanced grossQuota := by
  obtain ⟨supply, supplied, rfl⟩ := at_db
  obtain ⟨lower, upper, whole⟩ := calculateHubProviderSupplyQuota_bounds positive supplied
  exact splitRevenue_balanced _ lower upper whole

theorem revenueSplit_bind {α : Type} {f : RevenueSplit → Command α} {a : α}
    (run : (calculateHubProviderEarningRevenueSplit earning grossQuota >>= f).Returns db a db') :
    ∃ split, SplitAt db earning grossQuota split ∧ (f split).Returns db a db' := by
  obtain ⟨split, mid, computed, rest⟩ := run.bind
  obtain ⟨same, at_db⟩ := revenueSplit_returns computed
  exact ⟨split, at_db, same ▸ rest⟩

/-- A settlement that returns found the row settled with the same split, or
settled it. -/
theorem settleHubProviderEarning_returns {u : Unit}
    (run : (settleHubProviderEarning env requestId grossQuota).Returns db u db') :
    ∃ earning split, trimSpace requestId ≠ "" ∧ 0 < grossQuota ∧
      db.hubProviderEarnings.first (requestIdIs (trimSpace requestId)) = some earning ∧
      earning.status ≠ .cancelled ∧ earning.settlementDeferred ≠ some true ∧ SplitAt db earning grossQuota split ∧
      ((earning.status = .settled ∧ earning.Records grossQuota split ∧ db' = db) ∨
        (earning.status ≠ .settled ∧ db' = db.updateEarnings (fun e => e.id == earning.id)
          (settle env.now grossQuota split))) := by
  obtain ⟨valid, rest⟩ := run.failIf_bind
  rw [not_or, not_le] at valid
  obtain ⟨earning, found, rest⟩ := rest.transaction.findOr_bind
  obtain ⟨live, rest⟩ := rest.failIf_bind
  obtain ⟨ready, rest⟩ := rest.failIf_bind
  obtain ⟨split, at_db, rest⟩ := revenueSplit_bind rest
  refine ⟨earning, split, valid.1, valid.2, found, live, ready, at_db, ?_⟩
  split at rest
  · rename_i settled
    obtain ⟨records, rfl⟩ := rest.failIf
    exact Or.inl ⟨settled, not_not.mp records, rfl⟩
  · rename_i unsettled
    exact Or.inr ⟨unsettled, rest.updateWhere_bind.pure.2⟩

theorem settleHubProviderEarning_atomic (env : Env) (requestId : String) (grossQuota : Int) :
    (settleHubProviderEarning env requestId grossQuota).Atomic :=
  .read (.failIf _ _) fun _ => .transaction _

/-- Marking ready found the row settled with the same split, or released a
pending row. -/
theorem markHubProviderEarningReady_returns {u : Unit}
    (run : (markHubProviderEarningReady env requestId grossQuota).Returns db u db') :
    ∃ earning split, trimSpace requestId ≠ "" ∧ 0 < grossQuota ∧
      db.hubProviderEarnings.first (requestIdIs (trimSpace requestId)) = some earning ∧
      SplitAt db earning grossQuota split ∧
      ((earning.status = .settled ∧ earning.Records grossQuota split ∧ db' = db) ∨
        (earning.status = .pending ∧ db' = db.updateEarnings (earningIs earning.id .pending)
          (release env.now grossQuota split))) := by
  obtain ⟨valid, rest⟩ := run.failIf_bind
  rw [not_or, not_le] at valid
  obtain ⟨earning, found, rest⟩ := rest.transaction.findOr_bind
  obtain ⟨live, rest⟩ := rest.failIf_bind
  obtain ⟨split, at_db, rest⟩ := revenueSplit_bind rest
  refine ⟨earning, split, valid.1, valid.2, found, at_db, ?_⟩
  split at rest
  · rename_i settled
    obtain ⟨records, rfl⟩ := rest.failIf
    exact Or.inl ⟨settled, not_not.mp records, rfl⟩
  · obtain ⟨one, rfl⟩ := rest.updateWhere_bind.failIf
    refine Or.inr ⟨?_, rfl⟩
    exact earningIs_count (Table.mem_of_first found) (not_not.mp one)

theorem markHubProviderEarningReady_atomic (env : Env) (requestId : String) (grossQuota : Int) :
    (markHubProviderEarningReady env requestId grossQuota).Atomic :=
  .read (.failIf _ _) fun _ => .transaction _

/-- A cancellation inside a transaction finds nothing, finds the row cancelled
already, or cancels a pending row. -/
theorem cancelHubProviderEarningTx_returns {u : Unit}
    (run : (cancelHubProviderEarningTx env requestId).Returns db u db') :
    (db.hubProviderEarnings.first (requestIdIs requestId) = none ∧ db' = db) ∨
      ∃ earning, db.hubProviderEarnings.first (requestIdIs requestId) = some earning ∧
        ((earning.status = .cancelled ∧ db' = db) ∨
          (earning.status = .pending ∧ db' = db.updateEarnings (earningIs earning.id .pending)
            (cancel env.now))) := by
  have rest := run.find_bind
  split at rest
  · rename_i missing
    exact Or.inl ⟨missing, rest.pure.2⟩
  · rename_i earning found
    refine Or.inr ⟨earning, found, ?_⟩
    split at rest
    · rename_i cancelled
      exact Or.inl ⟨cancelled, rest.pure.2⟩
    · exact absurd rest Returns.fail
    · exact absurd rest Returns.fail
    · rename_i pending
      exact Or.inr ⟨pending, rest.updateWhere_bind.failIf.2⟩

theorem cancelHubProviderEarningTx_keeps {β : Type} {g : DB → β} (env : Env) (requestId : String)
    (earnings : ∀ db t, g (HasTable.withTable db (t : Table HubProviderEarning)) = g db) :
    (cancelHubProviderEarningTx env requestId).Keeps g := by
  refine .bind (.find _) fun found => ?_
  split
  · exact .pure _
  · split
    · exact .pure _
    · exact .fail _
    · exact .fail _
    · exact .bind (.updateWhere _ _ earnings) fun _ => .failIf _ _

theorem preparedTenantId_readOnly (params : HubProviderEarningParams) : (preparedTenantId params).ReadOnly :=
  .ite (resolveHubProviderTenantId_readOnly _) (.pure _)

theorem preparedPlatformFee_readOnly (env : Env) (params : HubProviderEarningParams) :
    (preparedPlatformFee env params).ReadOnly :=
  .ite (.bind (.failIf _ _) fun _ => .pure _) <| .bind (preparedTenantId_readOnly params) fun _ =>
    .ite (resolveHubTenantPlatformFeeBasisPoints_readOnly _ _) (resolveHubProviderFeeBasisPoints_readOnly _ _)

theorem preparedServiceFee_readOnly (env : Env) (params : HubProviderEarningParams) :
    (preparedServiceFee env params).ReadOnly :=
  .ite (.bind (.failIf _ _) fun _ => .pure _) (resolveHubProviderFeeBasisPoints_readOnly _ _)

theorem preparedReferral_readOnly (params : HubProviderEarningParams) : (preparedReferral params).ReadOnly :=
  .ite (.bind (.failIf _ _) fun _ => .bind (.find _) fun _ => .pure _) (.pure _)

/-- What every row written by a preparation has in common. -/
structure Drafted (params : HubProviderEarningParams) (draft : HubProviderEarning) : Prop where
  requestId : draft.requestId = trimSpace params.requestId
  status : draft.status = .pending
  entryType : draft.entryType = .usage
  deferred : draft.settlementDeferred = params.settlementDeferred

theorem prepareExisting_leaves {params : HubProviderEarningParams} {draft : HubProviderEarning}
    (run : (prepareExisting env params draft).Leaves db db') :
    db' = db ∨ ∃ existing, db.hubProviderEarnings.first (requestIdIs (trimSpace params.requestId)) = some existing ∧
      existing.status = .cancelled ∧ existing.entryType = .usage ∧
      db' = db.updateEarnings (earningIs existing.id .cancelled) (reopen env.now draft) := by
  rcases run.read (.findOr _ _) with same | ⟨existing, found, run⟩
  · exact Or.inl same
  rcases run.read (.failIf _ _) with same | ⟨_, matched, run⟩
  · exact Or.inl same
  split at run
  · rename_i cancelled
    rcases run.bind with ⟨e, failed⟩ | ⟨affected, mid, written, run⟩
    · exact Or.inl failed.updateWhere
    · have same := ReadOnly.leaves (.findOr _ _) run
      have reference := matched.failIf.1
      simp only [sameReference, Bool.not_eq_false, Bool.and_eq_true, decide_eq_true_eq] at reference
      exact Or.inr ⟨existing, found.findOr.1, cancelled, reference.2, same.trans written.updateWhere.2⟩
  · exact Or.inl (ReadOnly.leaves (.pure existing) run)

/-- A preparation writes nothing, inserts a pending row, or opens the cancelled
row of the same request again. -/
theorem prepareHubProviderEarning_leaves {params : HubProviderEarningParams}
    (run : (prepareHubProviderEarning env params).Leaves db db') :
    db' = db ∨
      (∃ draft row t, Drafted params draft ∧ db.hubProviderEarnings.insert draft = some (row, t) ∧
        db' = { db with hubProviderEarnings := t }) ∨
      ∃ draft existing, Drafted params draft ∧
        db.hubProviderEarnings.first (requestIdIs (trimSpace params.requestId)) = some existing ∧
        existing.status = .cancelled ∧ existing.entryType = .usage ∧
        db' = db.updateEarnings (earningIs existing.id .cancelled) (reopen env.now draft) := by
  rcases run.read (.failIf _ _) with same | ⟨_, -, run⟩
  · exact Or.inl same
  rcases run.read (preparedPlatformFee_readOnly env params) with same | ⟨platformFee, -, run⟩
  · exact Or.inl same
  rcases run.read (preparedServiceFee_readOnly env params) with same | ⟨serviceFee, -, run⟩
  · exact Or.inl same
  rcases run.read (preparedTenantId_readOnly params) with same | ⟨tenantId, -, run⟩
  · exact Or.inl same
  rcases run.read (preparedReferral_readOnly params) with same | ⟨referral, -, run⟩
  · exact Or.inl same
  rcases run.read (revenueSplit_readOnly _ _) with same | ⟨split, -, run⟩
  · exact Or.inl same
  rcases run.bind with ⟨e, failed⟩ | ⟨created, mid, head, rest⟩
  · exact absurd failed Fails.attempt
  rcases head.attempt with ⟨row, rfl, returned⟩ | ⟨e, rfl, refused⟩
  · obtain ⟨t, stored, inserted⟩ := returned.create
    have same := ReadOnly.leaves (.pure row) rest
    exact Or.inr (Or.inl ⟨_, row, t, ⟨rfl, rfl, rfl, rfl⟩, stored, same.trans inserted⟩)
  · rw [refused.statement] at rest
    rcases prepareExisting_leaves rest with same | ⟨existing, found, cancelled, usage, written⟩
    · exact Or.inl same
    · exact Or.inr (Or.inr ⟨_, existing, ⟨rfl, rfl, rfl, rfl⟩, found, cancelled, usage, written⟩)

end LLMHub
