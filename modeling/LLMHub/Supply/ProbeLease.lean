import LLMHub.Supply.Probe

namespace LLMHub

open Store Action Go HubSupplyGroupProbeTarget

/-- The operations on the lease of one target. -/
inductive ProbeOp
  | claim (tokenBytes : Vector UInt8 24) (targetIDs : List Int)
  | record (leaseToken : String) (result : ProbeResult)
  | requeueWithLease (targetIDs : List Int) (leaseToken : String)
  | requeueExpired
  | releaseSkipped (leaseToken : String)
  | reset (targetIDs : List Int)

def ProbeOp.command (reconcile : RouteReconciler) (target now : Int) : ProbeOp → Command Unit
  | .claim tokenBytes targetIDs => do
    let _ ← claimHubSupplyProbeTargetsTesting now tokenBytes targetIDs
    pure ()
  | .record leaseToken result => do
    let _ ← recordHubSupplyProbeResultWithLease reconcile now target leaseToken result
    pure ()
  | .requeueWithLease targetIDs leaseToken => requeueHubSupplyProbeTargetsWithLease now targetIDs leaseToken
  | .requeueExpired => requeueExpiredHubSupplyProbeTargets now
  | .releaseSkipped leaseToken => releaseSkippedHubSupplyProbeTargetWithLease now target leaseToken
  | .reset targetIDs => resetHubSupplyProbeTargetsForManualProbe now targetIDs

/-- What happened to the lease. -/
inductive ProbeEntry
  | claimed (token : String)
  | revoked
  | recorded (token : String) (success : Bool)
  | reset
  deriving DecidableEq, Repr

/-- What an operation did, by its answer and the status of the target before
and after. -/
def ProbeOp.entry (target : Int) (ok : Bool) (before after : Option HubSupplyProbeStatus) : ProbeOp → List ProbeEntry
  | .claim tokenBytes _ =>
    if before ≠ some .testing ∧ after = some .testing then [.claimed (hexEncode tokenBytes.toList)] else []
  | .record leaseToken result => if ok then [.recorded (trimSpace leaseToken) result.success] else []
  | .reset targetIDs => if ok = true ∧ target ∈ targetIDs then [.reset] else []
  | _ => if before = some .testing ∧ after ≠ some .testing then [.revoked] else []

def probeRow (db : DB) (target : Int) : Option HubSupplyGroupProbeTarget :=
  db.hubSupplyGroupProbeTargets.first (probeTargetIs target)

/-- The database, and the history of the target's lease, newest first. -/
structure ProbeSystem where
  db : DB
  log : List ProbeEntry := []

structure ProbeEvent where
  op : ProbeOp
  now : Int
  faults : List Bool := []

def probeMachine (reconcile : RouteReconciler) (target : Int) : Machine ProbeSystem ProbeEvent where
  step s e :=
    let result := e.op.command reconcile target e.now ⟨s.db, e.faults⟩
    ⟨result.2.db, e.op.entry target result.1.toOption.isSome ((probeRow s.db target).map (·.status))
      ((probeRow result.2.db target).map (·.status)) ++ s.log⟩

def HubSupplyGroupProbeTarget.lease (t : HubSupplyGroupProbeTarget) : Option String :=
  if t.status = .testing then some t.probeLeaseToken else none

/-- The worker that holds the target: the one of the latest claim, unless
something happened since. -/
def leaseHolder (start : Option String) : List ProbeEntry → Option String
  | [] => start
  | .claimed token :: _ => some token
  | _ :: _ => none

def failuresSince (start : Int) : List ProbeEntry → Int
  | [] => start
  | .recorded _ true :: _ => 0
  | .recorded _ false :: rest => failuresSince start rest + 1
  | .reset :: _ => 0
  | .claimed _ :: rest => failuresSince start rest
  | .revoked :: rest => failuresSince start rest

/-- Results come from the holder, and a target at the limit is not claimed. -/
def LogSound (holder : Option String) (failures : Int) : List ProbeEntry → Prop
  | [] => True
  | .recorded token _ :: rest => leaseHolder holder rest = some token ∧ LogSound holder failures rest
  | .claimed _ :: rest => failuresSince failures rest < hubSupplyProbeFailureSuspendLimit ∧ LogSound holder failures rest
  | .revoked :: rest => LogSound holder failures rest
  | .reset :: rest => LogSound holder failures rest

def claimedTokens (log : List ProbeEntry) : List String :=
  log.filterMap fun
    | .claimed token => some token
    | _ => none

def recordedTokens (log : List ProbeEntry) : List String :=
  log.filterMap fun
    | .recorded token _ => some token
    | _ => none

section Log
variable {holder : Option String} {failures : Int} {log : List ProbeEntry} {token : String}

theorem mem_of_leaseHolder (held : leaseHolder holder log = some token) :
    token ∈ holder.toList ++ claimedTokens log := by
  match log with
  | [] => simp [leaseHolder] at held; simp [held]
  | .claimed t :: rest =>
    obtain rfl := Option.some.inj held
    simp [claimedTokens]

/-- A recorded token was claimed, or held at the start. -/
theorem LogSound.recorded_subset (sound : LogSound holder failures log) :
    ∀ token ∈ recordedTokens log, token ∈ holder.toList ++ claimedTokens log := by
  induction log with
  | nil => simp [recordedTokens]
  | cons e rest ih =>
    intro token member
    cases e with
    | claimed t =>
      have inside := ih sound.2 token member
      simp only [List.mem_append] at inside ⊢
      exact inside.imp_right (List.mem_cons_of_mem _)
    | revoked | reset => exact ih sound token member
    | recorded t ok =>
      rcases List.mem_cons.mp member with rfl | member
      · have held := mem_of_leaseHolder sound.1
        exact held
      · exact ih sound.2 token member

/-- With distinct tokens each lease is used at most once. -/
theorem LogSound.recorded_once (sound : LogSound holder failures log)
    (distinct : (holder.toList ++ claimedTokens log).Nodup) : (recordedTokens log).Nodup := by
  induction log with
  | nil => exact List.nodup_nil
  | cons e rest ih =>
    cases e with
    | claimed t => exact ih sound.2 (List.Nodup.sublist (List.Sublist.append_left (List.sublist_cons_self _ _) _) distinct)
    | revoked | reset => exact ih sound distinct
    | recorded t ok =>
      refine List.nodup_cons.mpr ⟨fun again => ?_, ih sound.2 distinct⟩
      match rest, sound with
      | [], _ => simp at again
      | .claimed t' :: older, ⟨held, _, soundOlder⟩ =>
        obtain rfl := Option.some.inj held
        have inside := soundOlder.recorded_subset t' again
        exact (List.nodup_cons.mp (List.nodup_middle.mp distinct)).1 inside

end Log
/-- What an operation that returned did to the row of the target. -/
inductive ProbeOp.Moves (target now : Int) (row : HubSupplyGroupProbeTarget) : ProbeOp → HubSupplyGroupProbeTarget → Prop
  | quiet {op : ProbeOp} (unreset : ∀ ids, op = .reset ids → target ∉ ids) (unrecorded : ∀ token result, op ≠ .record token result) :
      Moves target now row op row
  | claimed {tokenBytes : Vector UInt8 24} {targetIDs : List Int} (free : claimable now targetIDs row = true) :
      Moves target now row (.claim tokenBytes targetIDs)
        ((HubSupplyGroupProbeTarget.claim now (hexEncode tokenBytes.toList)).set row)
  | requeued {op : ProbeOp} (kind : (∃ ids token, op = .requeueWithLease ids token) ∨ op = .requeueExpired)
      (testing : row.status = .testing) : Moves target now row op ((requeue now).set row)
  | released {leaseToken : String} (testing : row.status = .testing) :
      Moves target now row (.releaseSkipped leaseToken) ((release now).set row)
  | recorded {leaseToken : String} {result : ProbeResult} (group : HubSupplyGroup)
      (held : leased (trimSpace leaseToken) row = true) :
      Moves target now row (.record leaseToken result) ((result.normalize.update now group row).set row)
  | reset {targetIDs : List Int} (named : target ∈ targetIDs) :
      Moves target now row (.reset targetIDs) ((resetForManualProbe now).set row)

/-- The row of the target is moved and no sample is stored. -/
def ProbeOp.MovesOnly (op : ProbeOp) (target now : Int) (row : HubSupplyGroupProbeTarget) (db db' : DB) : Prop :=
  ∃ row', probeRow db' target = some row' ∧ op.Moves target now row row' ∧
    db'.hubSupplyGroupProbeSamples = db.hubSupplyGroupProbeSamples

section Operations
variable {reconcile : RouteReconciler} {target now : Int} {db db' : DB} {row : HubSupplyGroupProbeTarget} {u : Unit}
  {p : HubSupplyGroupProbeTarget → Bool} {f : Table.Assignment HubSupplyGroupProbeTarget}

theorem probeRow_id (found : probeRow db target = some row) : row.id = target := by
  have named : probeTargetIs target row = true := Table.holds_of_first found
  exact eq_of_beq named

/-- A statement rewrites the row of the target if it selects it. -/
theorem probeRow_update (found : probeRow db target = some row) :
    (db.hubSupplyGroupProbeTargets.update p f).first (probeTargetIs target) = some (Table.rewrite p f row) := by
  have kept : ∀ x, probeTargetIs target (f.set x) = probeTargetIs target x := by
    intro x
    have same : (f.set x).id = x.id := f.id x
    rw [probeTargetIs, probeTargetIs, same]
  rw [Table.first_update kept, show db.hubSupplyGroupProbeTargets.first (probeTargetIs target) = some row from found,
    Option.map_some]

theorem update_pure_returns (run : (do
      let _ ← updateWhere p f
      pure () : Command Unit).Returns db u db') :
    db' = { db with hubSupplyGroupProbeTargets := db.hubSupplyGroupProbeTargets.update p f } := by
  obtain ⟨n, mid, updated, rest⟩ := Returns.bind run
  obtain ⟨-, rfl⟩ := rest.pure
  exact updated.updateWhere.2

/-- An operation that is one statement. -/
theorem statement_moves {op : ProbeOp} (found : probeRow db target = some row)
    (after : db' = { db with hubSupplyGroupProbeTargets := db.hubSupplyGroupProbeTargets.update p f })
    (hit : p row = true → op.Moves target now row (f.set row)) (miss : p row = false → op.Moves target now row row) :
    op.MovesOnly target now row db db' := by
  subst after
  refine ⟨_, probeRow_update found, ?_, rfl⟩
  cases chosen : p row with
  | true =>
    rw [Table.rewrite_pos chosen]
    exact hit chosen
  | false =>
    rw [Table.rewrite_neg chosen]
    exact miss chosen

variable {targetIDs : List Int} {leaseToken : String}

theorem claim_returns {tokenBytes : Vector UInt8 24} (found : probeRow db target = some row)
    (run : ((ProbeOp.claim tokenBytes targetIDs).command reconcile target now).Returns db u db') :
    (ProbeOp.claim tokenBytes targetIDs).MovesOnly target now row db db' := by
  obtain ⟨token, mid, claimed, rest⟩ := Returns.bind run
  obtain ⟨-, rfl⟩ := rest.pure
  unfold claimHubSupplyProbeTargetsTesting at claimed
  split at claimed
  · obtain ⟨-, rfl⟩ := claimed.pure
    exact ⟨row, found, .quiet (by simp) (by simp), rfl⟩
  · obtain ⟨n, mid, updated, last⟩ := Returns.bind claimed
    obtain ⟨-, rfl⟩ := last.pure
    exact statement_moves found updated.updateWhere.2 (fun free => .claimed free) fun _ => .quiet (by simp) (by simp)

theorem requeueWithLease_returns (found : probeRow db target = some row)
    (run : ((ProbeOp.requeueWithLease targetIDs leaseToken).command reconcile target now).Returns db u db') :
    (ProbeOp.requeueWithLease targetIDs leaseToken).MovesOnly target now row db db' := by
  simp only [ProbeOp.command, requeueHubSupplyProbeTargetsWithLease] at run
  split at run
  · obtain ⟨-, rfl⟩ := run.pure
    exact ⟨row, found, .quiet (by simp) (by simp), rfl⟩
  · refine statement_moves found (update_pure_returns run) (fun hit => ?_) fun _ => .quiet (by simp) (by simp)
    simp only [Bool.and_eq_true, beq_iff_eq] at hit
    exact .requeued (Or.inl ⟨_, _, rfl⟩) hit.1.2

theorem requeueExpired_returns (found : probeRow db target = some row)
    (run : (ProbeOp.requeueExpired.command reconcile target now).Returns db u db') :
    ProbeOp.requeueExpired.MovesOnly target now row db db' := by
  refine statement_moves found (update_pure_returns run) (fun hit => ?_) fun _ => .quiet (by simp) (by simp)
  simp only [Bool.and_eq_true, beq_iff_eq] at hit
  exact .requeued (Or.inr rfl) hit.1

theorem releaseSkipped_returns (found : probeRow db target = some row)
    (run : ((ProbeOp.releaseSkipped leaseToken).command reconcile target now).Returns db u db') :
    (ProbeOp.releaseSkipped leaseToken).MovesOnly target now row db db' := by
  simp only [ProbeOp.command, releaseSkippedHubSupplyProbeTargetWithLease] at run
  split at run
  · obtain ⟨-, rfl⟩ := run.pure
    exact ⟨row, found, .quiet (by simp) (by simp), rfl⟩
  · refine statement_moves found (update_pure_returns run) (fun hit => ?_) fun _ => .quiet (by simp) (by simp)
    simp only [leased, Bool.and_eq_true, beq_iff_eq] at hit
    exact .released hit.2.1

theorem reset_returns (found : probeRow db target = some row)
    (run : ((ProbeOp.reset targetIDs).command reconcile target now).Returns db u db') :
    (ProbeOp.reset targetIDs).MovesOnly target now row db db' := by
  simp only [ProbeOp.command, resetHubSupplyProbeTargetsForManualProbe] at run
  split at run
  · rename_i empty
    obtain ⟨-, rfl⟩ := run.pure
    exact ⟨row, found, .quiet (by simp [empty]) (by simp), rfl⟩
  · refine statement_moves found (update_pure_returns run) (fun hit => ?_) (fun miss => ?_)
    · exact .reset (by simpa [probeRow_id found] using hit)
    · refine .quiet (fun ids same => ?_) (by simp)
      obtain rfl := ProbeOp.reset.inj same
      simpa [probeRow_id found] using miss

theorem record_returns {result : ProbeResult} (found : probeRow db target = some row)
    (given : trimSpace leaseToken ≠ "")
    (run : ((ProbeOp.record leaseToken result).command reconcile target now).Returns db u db') :
    ∃ row', probeRow db' target = some row' ∧ (ProbeOp.record leaseToken result).Moves target now row row' ∧
      db'.hubSupplyGroupProbeSamples.rows.length = db.hubSupplyGroupProbeSamples.rows.length + 1 := by
  obtain ⟨answer, after, recorded, rest⟩ := Returns.bind run
  obtain ⟨-, rfl⟩ := rest.pure
  have recorded := recorded.transaction
  obtain ⟨loaded, _, read, rest⟩ := Returns.bind recorded
  obtain ⟨first, rfl⟩ := read.mapError.findOr
  obtain ⟨group, -, rest⟩ := rest.findOr_bind
  have rest := rest.updateWhere_bind
  obtain ⟨-, rest⟩ := rest.failIf_bind
  obtain ⟨sample, samples, stored, rest⟩ := rest.create_bind
  obtain ⟨_, last, reconciled, rest⟩ := Returns.bind rest
  obtain ⟨-, rfl⟩ := rest.pure
  have named := Table.holds_of_first first
  simp only [Bool.and_eq_true] at named
  obtain rfl : loaded = row := by
    refine Table.eq_of_id (Table.mem_of_first first) (Table.mem_of_first found) ?_
    have mine : loaded.id = target := eq_of_beq named.1
    exact mine.trans (probeRow_id found).symm
  have held : leased (trimSpace leaseToken) loaded = true := by
    simpa [leasedIfGiven, given] using named.2
  have hit : (fun t => probeTargetIs loaded.id t && leasedIfGiven leaseToken t) loaded = true := by
    simpa [probeTargetIs] using named.2
  refine ⟨(result.normalize.update now group loaded).set loaded, ?_, .recorded group held, ?_⟩
  · have targets := (Keeps.onlyIf (reconcile.targets group.id)).returns reconciled
    rw [probeRow, targets]
    exact (probeRow_update found).trans (congrArg some (Table.rewrite_pos hit))
  · have kept := (Keeps.onlyIf (reconcile.samples group.id)).returns reconciled
    rw [kept]
    exact (congrArg List.length (Table.insert_cases stored).2.2).trans (by simp [HasTable.table, HasTable.withTable])

/-- Every operation that returned is one of the moves, and only a result stores
a sample. -/
theorem ProbeOp.returns {op : ProbeOp} (found : probeRow db target = some row)
    (given : ∀ token result, op = .record token result → trimSpace token ≠ "")
    (run : (op.command reconcile target now).Returns db u db') :
    ∃ row', probeRow db' target = some row' ∧ op.Moves target now row row' ∧
      db'.hubSupplyGroupProbeSamples.rows.length = db.hubSupplyGroupProbeSamples.rows.length +
        (recordedTokens (op.entry target true (some row.status) (some row'.status))).length := by
  have quiet : ∀ {row'}, (∀ token result, op ≠ .record token result) →
      recordedTokens (op.entry target true (some row.status) (some row')) = [] := by
    intro row' other
    cases op with
    | record token result => exact absurd rfl (other token result)
    | _ => simp only [ProbeOp.entry]; split <;> rfl
  have silent (other : ∀ token result, op ≠ .record token result) (moved : op.MovesOnly target now row db db') :
      ∃ row', probeRow db' target = some row' ∧ op.Moves target now row row' ∧
        db'.hubSupplyGroupProbeSamples.rows.length = db.hubSupplyGroupProbeSamples.rows.length +
          (recordedTokens (op.entry target true (some row.status) (some row'.status))).length := by
    obtain ⟨row', found, moves, same⟩ := moved
    refine ⟨row', found, moves, ?_⟩
    rw [same, quiet other]
    rfl
  cases op with
  | claim tokenBytes targetIDs => exact silent (by simp) (claim_returns found run)
  | record leaseToken result => exact record_returns found (given _ _ rfl) run
  | requeueWithLease targetIDs leaseToken => exact silent (by simp) (requeueWithLease_returns found run)
  | requeueExpired => exact silent (by simp) (requeueExpired_returns found run)
  | releaseSkipped leaseToken => exact silent (by simp) (releaseSkipped_returns found run)
  | reset targetIDs => exact silent (by simp) (reset_returns found run)

/-- An operation that fails changes nothing. -/
theorem ProbeOp.atomic (reconcile : RouteReconciler) (target now : Int) (op : ProbeOp) :
    (op.command reconcile target now).Atomic := by
  cases op with
  | claim tokenBytes targetIDs =>
    refine Atomic.map (Atomic.ite (Atomic.pure _) ?_) _
    exact Atomic.map (Atomic.updateWhere _ _) _
  | record leaseToken result => exact Atomic.map (Atomic.transaction _) _
  | requeueWithLease targetIDs leaseToken | releaseSkipped leaseToken | reset targetIDs =>
    exact Atomic.ite (Atomic.pure _) (Atomic.map (Atomic.updateWhere _ _) _)
  | requeueExpired => exact Atomic.map (Atomic.updateWhere _ _) _

end Operations

/-- What is known of the target after a history. -/
structure ProbeInvariant (target : Int) (start : HubSupplyGroupProbeTarget) (samples : Nat) (s : ProbeSystem) : Prop where
  row : ∃ row, probeRow s.db target = some row ∧
    row.consecutiveFailures = min (failuresSince start.consecutiveFailures s.log) hubSupplyProbeFailureSuspendLimit ∧
    (row.status = .suspended ↔ hubSupplyProbeFailureSuspendLimit ≤ failuresSince start.consecutiveFailures s.log) ∧
    leaseHolder start.lease s.log = row.lease
  sound : LogSound start.lease start.consecutiveFailures s.log
  distinct : (start.lease.toList ++ claimedTokens s.log).Nodup
  samples : s.db.hubSupplyGroupProbeSamples.rows.length = samples + (recordedTokens s.log).length

section Steps
variable {reconcile : RouteReconciler} {target now : Int} {start row row' : HubSupplyGroupProbeTarget} {samples : Nat}
  {s : ProbeSystem} {op : ProbeOp} {db' : DB}

/-- A target that is not suspended is below the limit. -/
theorem below_limit {failures : Int} (iff : row.status = .suspended ↔ hubSupplyProbeFailureSuspendLimit ≤ failures)
    (running : row.status ≠ .suspended) : failures < hubSupplyProbeFailureSuspendLimit :=
  Int.not_le.mp fun reached => running (iff.mpr reached)

/-- The rewritten row of a result: the count goes on, and the status follows it. -/
theorem ProbeResult.update_counts (r : ProbeResult) (now : Int) {failures : Int} (group : HubSupplyGroup)
    (counted : row.consecutiveFailures = min failures hubSupplyProbeFailureSuspendLimit) :
    ((r.update now group row).set row).consecutiveFailures =
        min (if r.success then 0 else failures + 1) hubSupplyProbeFailureSuspendLimit ∧
      (((r.update now group row).set row).status = .suspended ↔
        hubSupplyProbeFailureSuspendLimit ≤ if r.success then 0 else failures + 1) ∧
      ((r.update now group row).set row).status ≠ .testing := by
  simp only [ProbeResult.update, ProbeResult.failures, ProbeResult.status, counted, hubSupplyProbeFailureSuspendLimit]
  cases r.success with
  | true => simp
  | false =>
    simp only [Bool.false_eq_true, if_false]
    split
    · exact ⟨by omega, by simp; omega, by decide⟩
    · exact ⟨by omega, by simp; omega, by decide⟩

/-- One operation that returned. -/
theorem ProbeInvariant.moves (inv : ProbeInvariant target start samples s) (found : probeRow s.db target = some row)
    (found' : probeRow db' target = some row') (move : op.Moves target now row row')
    (fresh : ∀ tokenBytes ids, op = .claim tokenBytes ids →
      hexEncode tokenBytes.toList ∉ start.lease.toList ++ claimedTokens s.log)
    (stored : db'.hubSupplyGroupProbeSamples.rows.length = s.db.hubSupplyGroupProbeSamples.rows.length +
      (recordedTokens (op.entry target true (some row.status) (some row'.status))).length) :
    ProbeInvariant target start samples ⟨db', op.entry target true (some row.status) (some row'.status) ++ s.log⟩ := by
  obtain ⟨known, foundKnown, failures, suspended, holder⟩ := inv.row
  obtain rfl := Option.some.inj (foundKnown.symm.trans found)
  have stored : db'.hubSupplyGroupProbeSamples.rows.length = samples +
      (recordedTokens (op.entry target true (some known.status) (some row'.status) ++ s.log)).length := by
    rw [stored, inv.samples, recordedTokens, recordedTokens, recordedTokens, List.filterMap_append, List.length_append]
    omega
  cases move with
  | quiet unreset unrecorded =>
    have entry : op.entry target true (some row'.status) (some row'.status) = [] := by
      cases op with
      | record token result => exact absurd rfl (unrecorded token result)
      | reset ids => simp [ProbeOp.entry, unreset ids rfl]
      | _ => simp [ProbeOp.entry]
    rw [entry] at stored ⊢
    exact ⟨⟨row', found', failures, suspended, holder⟩, inv.sound, inv.distinct, stored⟩
  | @claimed tokenBytes targetIDs free =>
    simp only [claimable, Bool.and_eq_true, bne_iff_ne, ne_eq] at free
    have entry : (ProbeOp.claim tokenBytes targetIDs).entry target true (some known.status)
        (some ((HubSupplyGroupProbeTarget.claim now (hexEncode tokenBytes.toList)).set known).status) =
          [.claimed (hexEncode tokenBytes.toList)] := by
      simp [ProbeOp.entry, free.1.1.2, HubSupplyGroupProbeTarget.claim]
    have below := below_limit suspended free.1.1.1.2
    rw [entry] at stored ⊢
    refine ⟨⟨_, found', failures, ⟨(nomatch ·), fun reached => ?_⟩, rfl⟩, ⟨below, inv.sound⟩, ?_, stored⟩
    · exact absurd reached (Int.not_le.mpr below)
    · exact List.nodup_middle.mpr (List.nodup_cons.mpr ⟨fresh _ _ rfl, inv.distinct⟩)
  | requeued kind testing =>
    have entry : op.entry target true (some known.status) (some ((requeue now).set known).status) = [.revoked] := by
      rcases kind with ⟨ids, token, rfl⟩ | rfl <;> simp [ProbeOp.entry, testing, requeue]
    have below := below_limit suspended (by simp [testing])
    rw [entry] at stored ⊢
    refine ⟨⟨_, found', failures, ⟨(nomatch ·), fun reached => ?_⟩, rfl⟩, inv.sound, inv.distinct, stored⟩
    exact absurd reached (Int.not_le.mpr below)
  | @released leaseToken testing =>
    have below := below_limit suspended (by simp [testing])
    have small : ¬known.consecutiveFailures ≥ hubSupplyProbeFailureSuspendLimit := by omega
    have status : ((release now).set known).status ≠ .testing ∧ ((release now).set known).status ≠ .suspended := by
      simp only [release, if_neg small]
      split
      · decide
      · split <;> decide
    have entry : (ProbeOp.releaseSkipped leaseToken).entry target true (some known.status)
        (some ((release now).set known).status) = [.revoked] := by
      simp [ProbeOp.entry, testing, status.1]
    rw [entry] at stored ⊢
    refine ⟨⟨_, found', failures, ⟨fun same => absurd same status.2, fun reached => ?_⟩, ?_⟩, inv.sound, inv.distinct, stored⟩
    · exact absurd reached (Int.not_le.mpr below)
    · exact (if_neg status.1).symm
  | @recorded leaseToken result group held =>
    simp only [leased, Bool.and_eq_true, beq_iff_eq] at held
    have entry : (ProbeOp.record leaseToken result).entry target true (some known.status)
        (some ((result.normalize.update now group known).set known).status) =
          [.recorded (trimSpace leaseToken) result.success] := by
      simp [ProbeOp.entry]
    obtain ⟨count, status, idle⟩ := ProbeResult.update_counts result.normalize now group failures
    have since : failuresSince start.consecutiveFailures (.recorded (trimSpace leaseToken) result.success :: s.log) =
        if result.normalize.success then 0 else failuresSince start.consecutiveFailures s.log + 1 := by
      cases success : result.success <;> simp [failuresSince, ProbeResult.normalize, success]
    rw [entry] at stored ⊢
    refine ⟨⟨_, found', ?_, ?_, (if_neg idle).symm⟩, ⟨?_, inv.sound⟩, inv.distinct, stored⟩
    · exact count.trans (congrArg (min · _) since.symm)
    · exact status.trans (by rw [← since]; rfl)
    · exact holder.trans ((if_pos held.1).trans (congrArg some held.2))
  | @reset targetIDs named =>
    have entry : (ProbeOp.reset targetIDs).entry target true (some known.status)
        (some ((resetForManualProbe now).set known).status) = [.reset] := by
      simp [ProbeOp.entry, named]
    rw [entry] at stored ⊢
    exact ⟨⟨_, found', rfl, ⟨(nomatch ·), fun reached => absurd reached (show ¬(100 : Int) ≤ 0 by decide)⟩, rfl⟩, inv.sound,
      inv.distinct, stored⟩

/-- A claim's token is new, and a result is recorded with a lease. -/
def ProbeEvent.Leased (start : HubSupplyGroupProbeTarget) (s : ProbeSystem) (e : ProbeEvent) : Prop :=
  match e.op with
  | .claim tokenBytes _ => hexEncode tokenBytes.toList ∉ start.lease.toList ++ claimedTokens s.log
  | .record leaseToken _ => trimSpace leaseToken ≠ ""
  | _ => True

theorem ProbeInvariant.step (inv : ProbeInvariant target start samples s) {e : ProbeEvent} (allowed : e.Leased start s) :
    ProbeInvariant target start samples ((probeMachine reconcile target).step s e) := by
  obtain ⟨row, found, -⟩ := inv.row
  simp only [probeMachine]
  match result : e.op.command reconcile target e.now ⟨s.db, e.faults⟩ with
  | (.error err, after) =>
    have same : after.db = s.db := ProbeOp.atomic reconcile target e.now e.op s.db err after.db ⟨e.faults, after.faults, result⟩
    have entry : e.op.entry target false (some row.status) (some row.status) = [] := by
      cases e.op <;> simp [ProbeOp.entry]
    simp only [same, found, Option.map_some, Except.toOption, Option.isSome_none, entry, List.nil_append]
    exact inv
  | (.ok u, after) =>
    have run : (e.op.command reconcile target e.now).Returns s.db u after.db := ⟨e.faults, after.faults, result⟩
    obtain ⟨row', found', move, stored⟩ := ProbeOp.returns found (fun token result same => by
      rw [ProbeEvent.Leased, same] at allowed
      exact allowed) run
    simp only [found, found', Option.map_some, Except.toOption, Option.isSome_some]
    refine inv.moves found found' move (fun tokenBytes ids same => ?_) stored
    rw [ProbeEvent.Leased, same] at allowed
    exact allowed

end Steps
/-- In every run results are recorded by the holder of the latest claim only,
each claim at most once and with one sample, and the target is suspended as
long as the failures since its last success or reset have reached the limit. -/
theorem probe_lease_safe {reconcile : RouteReconciler} {target : Int} {db : DB} {start : HubSupplyGroupProbeTarget}
    {events : List ProbeEvent} (found : probeRow db target = some start)
    (counted : start.consecutiveFailures ≤ hubSupplyProbeFailureSuspendLimit)
    (suspended : start.status = .suspended ↔ hubSupplyProbeFailureSuspendLimit ≤ start.consecutiveFailures)
    (leased : (probeMachine reconcile target).Permits (fun s e => e.Leased start s) ⟨db, []⟩ events) :
    let s := (probeMachine reconcile target).run ⟨db, []⟩ events
    LogSound start.lease start.consecutiveFailures s.log ∧ (recordedTokens s.log).Nodup ∧
      s.db.hubSupplyGroupProbeSamples.rows.length =
        db.hubSupplyGroupProbeSamples.rows.length + (recordedTokens s.log).length ∧
      (∀ now leaseToken result db', (recordHubSupplyProbeResultWithLease reconcile now target leaseToken result).Fails s.db
        .hubSupplyProbeLeaseLost db' → db' = s.db) ∧
      ∃ row, probeRow s.db target = some row ∧
        row.consecutiveFailures = min (failuresSince start.consecutiveFailures s.log) hubSupplyProbeFailureSuspendLimit ∧
        (row.status = .suspended ↔ hubSupplyProbeFailureSuspendLimit ≤ failuresSince start.consecutiveFailures s.log) := by
  have first : ProbeInvariant target start db.hubSupplyGroupProbeSamples.rows.length ⟨db, []⟩ := by
    refine ⟨⟨start, found, (Int.min_eq_left counted).symm, suspended, rfl⟩, trivial, ?_, rfl⟩
    simp only [claimedTokens, List.filterMap_nil, List.append_nil]
    cases start.lease <;> simp
  have inv := leased.keeps _ (fun _ _ allowed inv => ProbeInvariant.step inv allowed) first
  obtain ⟨row, kept, failures, limit, -⟩ := inv.row
  exact ⟨inv.sound, inv.sound.recorded_once inv.distinct, inv.samples, fun _ _ _ _ failed => failed.transaction,
    row, kept, failures, limit⟩

def idleReconciler : RouteReconciler := ⟨fun _ => pure (), fun _ => Keeps.pure (), fun _ => Keeps.pure ()⟩

/-- A target that is due, after 99 failures. -/
def failingTarget : HubSupplyGroupProbeTarget :=
  { id := 1, groupId := 2, configVersion := 1, modelName := "m", endpointType := "openai", probeKind := .text,
    status := .error, nextProbeAt := 10, consecutiveFailures := 99 }

def oneTarget : DB where
  hubSupplyGroups := .single { id := 2 }
  hubSupplyGroupProbeTargets := .single failingTarget

def zeroToken : Vector UInt8 24 := Vector.replicate 24 0

/-- A claim, its result, and the same result reported again. -/
def oneTargetReported : List ProbeEvent :=
  [⟨.claim zeroToken [1], 20, []⟩, ⟨.record (hexEncode zeroToken.toList) ⟨false, 5, none, "down", "500", ""⟩, 30, []⟩,
    ⟨.record (hexEncode zeroToken.toList) ⟨false, 5, none, "down", "500", ""⟩, 31, []⟩]

def oneTargetRun : ProbeSystem := (probeMachine idleReconciler 1).run ⟨oneTarget, []⟩ oneTargetReported

theorem oneTargetReported_safe :
    oneTargetRun.log = [.recorded (hexEncode zeroToken.toList) false, .claimed (hexEncode zeroToken.toList)] ∧
      LogSound none 99 oneTargetRun.log ∧ (recordedTokens oneTargetRun.log).Nodup ∧
      oneTargetRun.db.hubSupplyGroupProbeSamples.rows.length = 0 + (recordedTokens oneTargetRun.log).length ∧
      (∀ now leaseToken result db',
        (recordHubSupplyProbeResultWithLease idleReconciler now 1 leaseToken result).Fails oneTargetRun.db
          .hubSupplyProbeLeaseLost db' → db' = oneTargetRun.db) ∧
      ∃ row, probeRow oneTargetRun.db 1 = some row ∧ row.consecutiveFailures = min (failuresSince 99 oneTargetRun.log) 100 ∧
        (row.status = .suspended ↔ 100 ≤ failuresSince 99 oneTargetRun.log) :=
  have given : trimSpace (hexEncode zeroToken.toList) ≠ "" := by decide +kernel
  ⟨by decide +kernel, probe_lease_safe (rfl : probeRow oneTarget 1 = some failingTarget) (by decide) (by decide)
    ⟨List.not_mem_nil, given, given, trivial⟩⟩

end LLMHub
