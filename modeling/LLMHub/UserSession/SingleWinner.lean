import LLMHub.UserSession.Rotation

namespace LLMHub

open Store Action

namespace RotateCall

/-- What a call that has returned did, by the row it read last and the row as
it is now. -/
structure Outcome (c : RotateCall) (row read : UserSession) (session : Option UserSession) (err : Option ModelError) :
    Prop where
  inactive : ¬read.Active c.now → err = some .userSessionInactive ∧ c.affected = 0
  race : read.Active c.now → read.refreshHash ≠ c.presentedHash → read.previousRefreshHash = c.presentedHash →
    c.now ≤ read.previousValidUntil → session = some read ∧ err = some .userSessionRefreshRace ∧ c.affected = 0
  reuse : read.Active c.now → read.refreshHash ≠ c.presentedHash → read.previousRefreshHash = c.presentedHash →
    read.previousValidUntil < c.now → (c.failed = false → ¬row.Active c.now) ∧ (c.failed = true → c.affected = 0)
  unknown : read.refreshHash ≠ c.presentedHash → read.previousRefreshHash ≠ c.presentedHash → c.affected = 0

/-- The rows the call has read so far were current. -/
def Current (c : RotateCall) : Prop :=
  ∀ read, c.lastRead = some read → read.Active c.now ∧ read.refreshHash = c.presentedHash

/-- A call that has passed the checks and changed nothing yet. -/
structure Untouched (c : RotateCall) : Prop where
  affected : c.affected = 0
  exchanged : c.exchanged = false
  failed : c.failed = false
  presented : c.presentedHash ≠ ""

/-- What is known of a call at each of its statements. -/
def Consistent (row : UserSession) (c : RotateCall) : Prop :=
  match c.stage with
  | .reading _ => c.Untouched ∧ c.Current
  | .rotating _ _ => c.Untouched ∧ c.Current
  | .confirming _ => c.Current
  | .revoking session => c.Untouched ∧ c.lastRead = some session ∧ row.userID = c.userID ∧ session.Active c.now ∧
      session.refreshHash ≠ c.presentedHash ∧ session.previousRefreshHash = c.presentedHash ∧
      session.previousValidUntil < c.now
  | .returned session err => ∀ read, c.lastRead = some read → c.Outcome row read session err

section Outcomes
variable {c after : RotateCall} {row row' read : UserSession} {session : Option UserSession} {err : Option ModelError}

/-- After a current row, the other clauses say nothing. -/
theorem Current.outcome (current : c.Current) {c' : RotateCall} (lastRead : c'.lastRead = c.lastRead)
    (now : c'.now = c.now) (presentedHash : c'.presentedHash = c.presentedHash) (held : c'.lastRead = some read) :
    c'.Outcome row read session err := by
  obtain ⟨active, same⟩ := current read (lastRead ▸ held)
  rw [← now] at active
  rw [← presentedHash] at same
  exact ⟨fun gone => absurd active gone, fun _ other => absurd same other, fun _ other => absurd same other,
    fun other => absurd same other⟩

/-- The decision taken on a row that was just read. -/
theorem resolve_consistent (tries : Nat) (untouched : c.Untouched) (owner : row.userID = c.userID) :
    (c.resolve row.afterFind tries).Consistent row := by
  unfold resolve
  dsimp only
  split
  · rename_i gone
    rintro read ⟨⟩
    exact ⟨fun _ => ⟨rfl, untouched.affected⟩, fun active => absurd active gone, fun active => absurd active gone,
      fun _ _ => untouched.affected⟩
  · rename_i active
    have active := Classical.not_not.mp active
    split
    · rename_i current
      refine ⟨⟨untouched.affected, untouched.exchanged, untouched.failed, untouched.presented⟩, ?_⟩
      rintro read ⟨⟩
      exact ⟨active, current⟩
    · rename_i stale
      split
      · rename_i unknown
        rintro read ⟨⟩
        have other : row.afterFind.previousRefreshHash ≠ c.presentedHash := by
          rcases unknown with empty | other
          · rw [empty]
            exact untouched.presented.symm
          · exact other
        exact ⟨fun gone => absurd active gone, fun _ _ previous => absurd previous other,
          fun _ _ previous => absurd previous other, fun _ _ => untouched.affected⟩
      · rename_i known
        split
        · rename_i inTime
          rintro read ⟨⟩
          refine ⟨fun gone => absurd active gone, fun _ _ _ _ => ⟨rfl, rfl, untouched.affected⟩,
            fun _ _ _ late => absurd inTime (Int.not_le.mpr late), fun _ _ => untouched.affected⟩
        · rename_i late
          exact ⟨⟨untouched.affected, untouched.exchanged, untouched.failed, untouched.presented⟩, rfl, owner, active, stale,
            Classical.not_not.mp fun other => known (Or.inr other), Int.not_le.mp late⟩

/-- A row that is not active stays so. -/
theorem Moves.gone (move : c.Moves row after row') {now : Int} (gone : ¬row.Active now) : ¬row'.Active now := by
  cases move with
  | rotated _ active _ _ => exact fun again => gone ⟨active.1, active.2.1, again.2.2⟩
  | revoked _ _ => exact fun again => absurd again.1 (by simp [UserSession.revokeReuse])
  | _ => exact gone

theorem Moves.userID (move : c.Moves row after row') : row'.userID = row.userID := by
  cases move <;> rfl

/-- What is known of the other calls survives a move. -/
theorem Consistent.mono {other : RotateCall} (consistent : other.Consistent row) (move : c.Moves row after row') :
    other.Consistent row' := by
  unfold Consistent at consistent ⊢
  split at consistent
  · exact consistent
  · exact consistent
  · exact consistent
  · obtain ⟨untouched, held, owner, rest⟩ := consistent
    exact ⟨untouched, held, move.userID.trans owner, rest⟩
  · intro read held
    obtain ⟨inactive, race, reuse, unknown⟩ := consistent read held
    refine ⟨inactive, race, fun active other previous late => ?_, unknown⟩
    exact ⟨fun worked => move.gone ((reuse active other previous late).1 worked), (reuse active other previous late).2⟩

theorem again_consistent (untouched : c.Untouched) (current : c.Current) (tries : Nat) : (c.again tries).Consistent row := by
  cases tries with
  | zero => exact fun read held => current.outcome rfl rfl rfl held
  | succ tries => exact ⟨⟨untouched.affected, untouched.exchanged, untouched.failed, untouched.presented⟩, current⟩

/-- A call keeps what is known of it. -/
theorem Moves.consistent (move : c.Moves row after row') (consistent : c.Consistent row) : after.Consistent row' := by
  cases move with
  | @read tries stage owner =>
    rw [Consistent, stage] at consistent
    exact resolve_consistent tries consistent.1 owner
  | failed e running unconfirmed =>
    intro read held
    unfold Consistent at consistent
    split at consistent
    · exact consistent.2.outcome rfl rfl rfl held
    · exact consistent.2.outcome rfl rfl rfl held
    · rename_i stage
      exact absurd stage (unconfirmed _)
    · obtain ⟨untouched, lastRead, -, active, other, previous, late⟩ := consistent
      obtain rfl := Option.some.inj (held.symm.trans lastRead)
      exact ⟨fun gone => absurd active gone, fun _ _ _ inTime => absurd inTime (Int.not_le.mpr late),
        fun _ _ _ _ => ⟨fun worked => Bool.noConfusion worked, fun _ => untouched.affected⟩, fun _ _ => untouched.affected⟩
    · rename_i stage
      exact absurd stage (running _ _)
  | @lost session tries stage =>
    rw [Consistent, stage] at consistent
    exact again_consistent consistent.1 consistent.2 tries
  | @rotated session tries stage active current next left =>
    rw [Consistent, stage] at consistent
    rcases left with ⟨session, rfl⟩ | ⟨session, err, rfl⟩
    · exact consistent.2
    · exact fun read held => consistent.2.outcome rfl rfl rfl held
  | @confirmed session stage answer err =>
    rw [Consistent, stage] at consistent
    exact fun read held => consistent.outcome rfl rfl rfl held
  | @revoked session stage active =>
    rw [Consistent, stage] at consistent
    obtain ⟨untouched, lastRead, -, wasActive, other, previous, late⟩ := consistent
    intro read held
    obtain rfl := Option.some.inj (held.symm.trans lastRead)
    refine ⟨fun gone => absurd wasActive gone, fun _ _ _ inTime => absurd inTime (Int.not_le.mpr late),
      fun _ _ _ _ => ⟨fun _ again => absurd again.1 (by simp [UserSession.revokeReuse]), fun failed => ?_⟩,
      fun _ unknown => absurd previous unknown⟩
    exact absurd failed (by simp [untouched.failed])
  | @late session stage gone =>
    rw [Consistent, stage] at consistent
    obtain ⟨untouched, lastRead, owner, active, other, previous, late⟩ := consistent
    intro read held
    obtain rfl := Option.some.inj (held.symm.trans lastRead)
    exact ⟨fun gone => absurd active gone, fun _ _ _ inTime => absurd inTime (Int.not_le.mpr late),
      fun _ _ _ _ => ⟨fun _ => gone owner, fun _ => untouched.affected⟩, fun _ _ => untouched.affected⟩
  | done session err stage => exact consistent

end Outcomes

/-- What a call keeps but for an exchange. -/
def frame (c : RotateCall) : String × String × Bool := (c.presentedHash, c.nextHash, c.exchanged)

theorem start_frame (sid : String) (userID : Int) (presentedHash nextHash : String) (now clock grace : Int) :
    (start sid userID presentedHash nextHash now clock grace).frame = (presentedHash, nextHash, false) := by
  unfold start
  dsimp only
  split
  · rfl
  · split <;> rfl

theorem resolve_frame (c : RotateCall) (session : UserSession) (tries : Nat) : (c.resolve session tries).frame = c.frame := by
  unfold resolve
  dsimp only
  split
  · rfl
  · split
    · rfl
    · split
      · rfl
      · split <;> rfl

theorem again_frame (c : RotateCall) (tries : Nat) : (c.again tries).frame = c.frame := by
  cases tries <;> rfl

/-- A statement always comes back: its errors are returned by the call. -/
theorem next_fails {sid : String} {clock : Int} {cache : SessionCacheWrite} {fence : Option ModelError} {c : RotateCall}
    {db db' : DB} {e : ModelError} (run : (c.next sid clock cache fence).Fails db e db') : False := by
  unfold next at run
  split at run
  · rcases run.bind with failed | ⟨found, mid, -, rest⟩
    · exact failed.attempt
    · split at rest <;> exact rest.pure
  · rcases run.bind with failed | ⟨updated, mid, -, rest⟩
    · exact failed.attempt
    · split at rest
      · exact rest.pure
      · split at rest
        · exact rest.pure
        · dsimp only at rest
          split at rest <;> exact rest.pure
  · split at run
    · exact run.pure
    · rcases run.bind with failed | ⟨counted, mid, -, rest⟩
      · exact failed.attempt
      · split at rest
        · exact rest.pure
        · split at rest <;> exact rest.pure
  · split at run
    · exact run.pure
    · rcases run.bind with failed | ⟨updated, mid, -, rest⟩
      · exact failed.attempt
      · split at rest
        · exact rest.pure
        · split at rest <;> exact rest.pure
  · exact run.pure

theorem start_consistent (row : UserSession) (sid : String) (userID : Int) (presentedHash nextHash : String)
    (now clock grace : Int) : (start sid userID presentedHash nextHash now clock grace).Consistent row := by
  unfold start
  dsimp only
  split
  · exact fun read held => nomatch held
  · rename_i accepted
    split
    · exact fun read held => nomatch held
    · exact ⟨⟨rfl, rfl, rfl, fun empty => accepted (Or.inr (Or.inr (Or.inl empty)))⟩, fun read held => nomatch held⟩

/-- A move exchanges the current digest for the next one, or no digest. -/
theorem Moves.exchange {c after : RotateCall} {row row' : UserSession} (move : c.Moves row after row')
    (consistent : c.Consistent row) :
    (after.frame = c.frame ∧ row'.refreshHash = row.refreshHash) ∨
      (c.exchanged = false ∧ row.refreshHash = c.presentedHash ∧ row'.refreshHash = c.nextHash ∧
        after.frame = (c.presentedHash, c.nextHash, true)) := by
  cases move with
  | read => exact Or.inl ⟨resolve_frame c _ _, rfl⟩
  | lost => exact Or.inl ⟨again_frame c _, rfl⟩
  | rotated stage active current left =>
    rw [Consistent, stage] at consistent
    exact Or.inr ⟨consistent.1.exchanged, current, rfl, rfl⟩
  | _ => exact Or.inl ⟨rfl, rfl⟩

end RotateCall

/-- A digest the session has had: the first one, or one a call exchanged
another for. -/
def Issued (first : String) (calls : List RotateCall) (digest : String) : Prop :=
  digest = first ∨ ∃ c ∈ calls, c.exchanged = true ∧ c.nextHash = digest

def exchangedDigests (calls : List RotateCall) : List String :=
  (calls.filter RotateCall.exchanged).map RotateCall.presentedHash

structure RefreshInvariant (sid first : String) (s : RefreshSystem) : Prop where
  row : ∃ row, sessionRow s.db sid = some row ∧ (∀ c ∈ s.calls, c.Consistent row) ∧ Issued first s.calls row.refreshHash ∧
    ∀ digest ∈ exchangedDigests s.calls, digest ≠ row.refreshHash ∧ Issued first s.calls digest
  nexts : (first :: s.calls.map RotateCall.nextHash).Nodup
  distinct : (exchangedDigests s.calls).Nodup

section Steps
variable {sid first digest : String} {s : RefreshSystem} {calls before after : List RotateCall} {c c' : RotateCall}

theorem exchangedDigests_append (calls rest : List RotateCall) :
    exchangedDigests (calls ++ rest) = exchangedDigests calls ++ exchangedDigests rest := by
  simp [exchangedDigests]

theorem exchangedDigests_cons (c : RotateCall) (calls : List RotateCall) :
    exchangedDigests (c :: calls) = (if c.exchanged then [c.presentedHash] else []) ++ exchangedDigests calls := by
  cases held : c.exchanged <;> simp [exchangedDigests, held]

/-- A call is replaced by one with the same frame. -/
theorem exchangedDigests_congr (same : c'.frame = c.frame) :
    exchangedDigests (before ++ c' :: after) = exchangedDigests (before ++ c :: after) := by
  have presented : c'.presentedHash = c.presentedHash := congrArg Prod.fst same
  have exchanged : c'.exchanged = c.exchanged := congrArg (·.2.2) same
  simp only [exchangedDigests_append, exchangedDigests_cons, presented, exchanged]

/-- Digests stay issued when a call that had exchanged nothing is replaced, or
one is replaced by another with the same frame. -/
theorem Issued.replace (issued : Issued first (before ++ c :: after) digest)
    (same : c.exchanged = true → c'.frame = c.frame) : Issued first (before ++ c' :: after) digest := by
  rcases issued with rfl | ⟨x, member, exchanged, next⟩
  · exact Or.inl rfl
  · refine Or.inr ?_
    rcases List.mem_append.mp member with inside | inside
    · exact ⟨x, List.mem_append_left _ inside, exchanged, next⟩
    · rcases List.mem_cons.mp inside with rfl | inside
      · have kept := same exchanged
        exact ⟨c', by simp, (congrArg (·.2.2) kept).trans exchanged, (congrArg (·.2.1) kept).trans next⟩
      · exact ⟨x, List.mem_append_right _ (List.mem_cons_of_mem _ inside), exchanged, next⟩

/-- The next digest of a call that has exchanged nothing was never issued. -/
theorem Issued.ne_next (issued : Issued first calls digest) (nexts : (first :: calls.map RotateCall.nextHash).Nodup)
    (member : c ∈ calls) (unused : c.exchanged = false) : digest ≠ c.nextHash := by
  obtain ⟨fresh, distinct⟩ := List.nodup_cons.mp nexts
  rintro rfl
  rcases issued with same | ⟨x, inside, exchanged, same⟩
  · exact fresh (same ▸ List.mem_map_of_mem member)
  · obtain rfl := List.inj_on_of_nodup_map distinct inside member same
    exact absurd (exchanged.symm.trans unused) (by decide)

/-- One statement of one call. -/
theorem RefreshInvariant.move {row row' : UserSession} {db' : DB} (inv : RefreshInvariant sid first s)
    (calls : s.calls = before ++ c :: after) (found : sessionRow s.db sid = some row) (move : c.Moves row c' row')
    (found' : sessionRow db' sid = some row') : RefreshInvariant sid first ⟨db', before ++ c' :: after⟩ := by
  obtain ⟨known, foundKnown, consistent, current, old⟩ := inv.row
  obtain rfl := Option.some.inj (foundKnown.symm.trans found)
  have nexts := inv.nexts
  have distinct := inv.distinct
  rw [calls] at consistent current old nexts distinct
  have member : c ∈ before ++ c :: after := by simp
  have others : ∀ x ∈ before ++ c' :: after, x.Consistent row' := by
    intro x inside
    rcases List.mem_append.mp inside with inside | inside
    · exact (consistent x (List.mem_append_left _ inside)).mono move
    · rcases List.mem_cons.mp inside with rfl | inside
      · exact move.consistent (consistent c member)
      · exact (consistent x (List.mem_append_right _ (List.mem_cons_of_mem _ inside))).mono move
  have keptNexts : (first :: (before ++ c' :: after).map RotateCall.nextHash).Nodup := by
    have next : c'.nextHash = c.nextHash := by
      rcases move.exchange (consistent c member) with ⟨same, -⟩ | ⟨-, -, -, frame⟩
      · exact congrArg (·.2.1) same
      · exact congrArg (·.2.1) frame
    rw [List.map_append, List.map_cons, next, ← List.map_cons, ← List.map_append]
    exact nexts
  rcases move.exchange (consistent c member) with ⟨same, digest⟩ | ⟨unused, presented, next, frame⟩
  · refine ⟨⟨row', found', others, ?_, fun d held => ?_⟩, keptNexts, ?_⟩
    · rw [digest]
      exact current.replace fun _ => same
    · rw [exchangedDigests_congr same] at held
      rw [digest]
      exact ⟨(old d held).1, (old d held).2.replace fun _ => same⟩
    · rw [exchangedDigests_congr same]
      exact distinct
  · have exchanged : c'.exchanged = true := congrArg (·.2.2) frame
    have split : exchangedDigests (before ++ c' :: after) =
        exchangedDigests before ++ known.refreshHash :: exchangedDigests after := by
      have held : c'.presentedHash = c.presentedHash := congrArg Prod.fst frame
      rw [exchangedDigests_append, exchangedDigests_cons, if_pos exchanged, held, ← presented]
      rfl
    have before_split : exchangedDigests (before ++ c :: after) = exchangedDigests before ++ exchangedDigests after := by
      rw [exchangedDigests_append, exchangedDigests_cons, unused]
      rfl
    have untouched : c.exchanged = true → c'.frame = c.frame := fun used => absurd (used.symm.trans unused) (by decide)
    rw [before_split] at old distinct
    refine ⟨⟨row', found', others, ?_, fun d held => ?_⟩, keptNexts, ?_⟩
    · rw [next]
      exact Or.inr ⟨c', by simp, exchanged, congrArg (·.2.1) frame⟩
    · have issued : Issued first (before ++ c :: after) d := by
        rw [split] at held
        rcases List.mem_append.mp held with inside | inside
        · exact (old d (List.mem_append_left _ inside)).2
        · rcases List.mem_cons.mp inside with rfl | inside
          · exact current
          · exact (old d (List.mem_append_right _ inside)).2
      rw [next]
      exact ⟨issued.ne_next nexts member unused, issued.replace untouched⟩
    · rw [split]
      exact List.nodup_middle.mpr (List.nodup_cons.mpr ⟨fun held => (old _ held).1 rfl, distinct⟩)

/-- The next digest of a new call is neither the session's first one nor that
of an earlier call. -/
def RefreshEvent.Fresh (first : String) (s : RefreshSystem) : RefreshEvent → Prop
  | .call _ _ nextHash _ _ _ => nextHash ∉ first :: s.calls.map RotateCall.nextHash
  | .advance _ _ _ _ _ => True

/-- A statement of a call, if the call exists, is one of its moves. -/
theorem step_advance (position : Nat) (clock : Int) (cache : SessionCacheWrite) (fence : Option ModelError)
    (faults : List Bool) {row : UserSession} (found : sessionRow s.db sid = some row) :
    (refreshMachine sid).step s (.advance position clock cache fence faults) = s ∨
      ∃ before c after c' row' db', s.calls = before ++ c :: after ∧ c.Moves row c' row' ∧
        sessionRow db' sid = some row' ∧
        (refreshMachine sid).step s (.advance position clock cache fence faults) = ⟨db', before ++ c' :: after⟩ := by
  simp only [refreshMachine]
  split
  · exact Or.inl rfl
  · rename_i c held
    obtain ⟨before, after, calls, -, moved⟩ := split_position held
    match result : c.next sid clock cache fence ⟨s.db, faults⟩ with
    | (.ok c', left) =>
      obtain ⟨row', found', move⟩ := RotateCall.next_returns found ⟨faults, left.faults, result⟩
      exact Or.inr ⟨before, c, after, c', row', left.db, calls, move, found', by simp only [moved]⟩
    | (.error e, left) => exact (RotateCall.next_fails ⟨faults, left.faults, result⟩).elim

theorem RefreshInvariant.step (inv : RefreshInvariant sid first s) {e : RefreshEvent} (fresh : e.Fresh first s) :
    RefreshInvariant sid first ((refreshMachine sid).step s e) := by
  obtain ⟨row, found, consistent, current, old⟩ := inv.row
  cases e with
  | call userID presentedHash nextHash now clock grace =>
    have frame := RotateCall.start_frame sid userID presentedHash nextHash now clock grace
    have next : (RotateCall.start sid userID presentedHash nextHash now clock grace).nextHash = nextHash :=
      congrArg (·.2.1) frame
    have unused : (RotateCall.start sid userID presentedHash nextHash now clock grace).exchanged = false :=
      congrArg (·.2.2) frame
    have digests : exchangedDigests (s.calls ++ [.start sid userID presentedHash nextHash now clock grace]) =
        exchangedDigests s.calls := by
      simp [exchangedDigests, unused]
    have grow : ∀ {d}, Issued first s.calls d →
        Issued first (s.calls ++ [.start sid userID presentedHash nextHash now clock grace]) d := by
      rintro d (same | ⟨x, member, rest⟩)
      · exact Or.inl same
      · exact Or.inr ⟨x, List.mem_append_left _ member, rest⟩
    refine ⟨⟨row, found, fun c member => ?_, grow current, fun d held => ?_⟩, ?_, digests ▸ inv.distinct⟩
    · rcases List.mem_append.mp member with member | member
      · exact consistent c member
      · rw [List.mem_singleton.mp member]
        exact RotateCall.start_consistent row sid userID presentedHash nextHash now clock grace
    · exact ⟨(old d (digests ▸ held)).1, grow (old d (digests ▸ held)).2⟩
    · simp only [refreshMachine]
      rw [List.map_append, List.map_singleton, next, ← List.cons_append]
      exact List.nodup_append.mpr ⟨inv.nexts, List.nodup_singleton _, fun a held b single =>
        fun same => fresh (List.mem_singleton.mp single ▸ same ▸ held)⟩
  | advance position clock cache fence faults =>
    rcases step_advance position clock cache fence faults found with same | ⟨before, c, after, c', row', db', calls, move, found', same⟩
    · rw [same]
      exact inv
    · rw [same]
      exact inv.move calls found move found'

/-- A revoked session's row is not written any more. -/
theorem step_revoked {row : UserSession} (found : sessionRow s.db sid = some row)
    (revoked : ¬(row.status = .active ∧ row.revokedAt = 0)) (e : RefreshEvent) :
    sessionRow ((refreshMachine sid).step s e).db sid = some row := by
  cases e with
  | call userID presentedHash nextHash now clock grace => exact found
  | advance position clock cache fence faults =>
    rcases step_advance position clock cache fence faults found with same | ⟨before, c, after, c', row', db', calls, move, found', same⟩
    · rw [same]
      exact found
    · rw [same]
      cases move with
      | rotated _ active _ _ | revoked _ active => exact absurd ⟨active.1, active.2.1⟩ revoked
      | _ => exact found'

end Steps

/-- In every run each digest is exchanged at most once, a call that has
returned did what its last row calls for, and the row of a revoked session
stays as it was. -/
theorem refresh_single_winner {sid : String} {start : DB} {session : UserSession} {events : List RefreshEvent}
    (found : sessionRow start sid = some session)
    (fresh : (refreshMachine sid).Permits (fun s e => e.Fresh session.refreshHash s) ⟨start, []⟩ events) :
    (exchangedDigests ((refreshMachine sid).run ⟨start, []⟩ events).calls).Nodup ∧
      ∃ row, sessionRow ((refreshMachine sid).run ⟨start, []⟩ events).db sid = some row ∧
        (∀ c ∈ ((refreshMachine sid).run ⟨start, []⟩ events).calls, ∀ answer err, c.stage = .returned answer err →
          ∀ read, c.lastRead = some read → c.Outcome row read answer err) ∧
        ∀ before after, events = before ++ after → ∀ old,
          sessionRow ((refreshMachine sid).run ⟨start, []⟩ before).db sid = some old →
          ¬(old.status = .active ∧ old.revokedAt = 0) → row = old := by
  have first : RefreshInvariant sid session.refreshHash ⟨start, []⟩ :=
    ⟨⟨session, found, by simp, Or.inl rfl, by simp [exchangedDigests]⟩, by simp, by simp [exchangedDigests]⟩
  obtain ⟨⟨row, kept, consistent, -, -⟩, -, distinct⟩ := fresh.keeps _ (fun _ _ allowed inv => RefreshInvariant.step inv allowed) first
  refine ⟨distinct, row, kept, fun c member answer err stage => ?_, ?_⟩
  · have known := consistent c member
    rw [RotateCall.Consistent, stage] at known
    exact known
  · rintro before after rfl old foundOld revoked
    have frozen := (Machine.permits_true (m := refreshMachine sid) _ after).keeps
      (fun s => sessionRow s.db sid = some old) (fun s e _ held => step_revoked held revoked e) foundOld
    rw [← Machine.run_append] at frozen
    exact Option.some.inj (kept.symm.trans frozen)

/-- Session `s` of user 7, once rotated from digest `a` to digest `b`. -/
def oneSession (status : UserSessionStatus) : DB where
  userSessions := .single { rowId := 1, sid := "s", userID := 7, status, refreshHash := "b", previousRefreshHash := "a",
                            previousValidUntil := 100, expiresAt := 1000 }

def oneSessionRun (status : UserSessionStatus) (events : List RefreshEvent) : RefreshSystem :=
  (refreshMachine "s").run ⟨oneSession status, []⟩ events

/-- Two calls read the row before either rotates it. -/
def oneSessionRace : List RefreshEvent :=
  [.call 7 "b" "c" 50 50 0, .call 7 "b" "d" 50 50 0, .advance 0 50 .done none [], .advance 1 50 .done none [],
    .advance 0 50 .done none [], .advance 1 50 .done none [], .advance 1 50 .done none []]

theorem oneSessionRace_single_winner :
    exchangedDigests (oneSessionRun .active oneSessionRace).calls = ["b"] ∧
      (exchangedDigests (oneSessionRun .active oneSessionRace).calls).Nodup ∧
      ∃ row, sessionRow (oneSessionRun .active oneSessionRace).db "s" = some row ∧
        (∀ c ∈ (oneSessionRun .active oneSessionRace).calls, ∀ answer err, c.stage = .returned answer err →
          ∀ read, c.lastRead = some read → c.Outcome row read answer err) ∧
        ∀ before after, oneSessionRace = before ++ after → ∀ old, sessionRow (oneSessionRun .active before).db "s" = some old →
          ¬(old.status = .active ∧ old.revokedAt = 0) → row = old :=
  ⟨by decide +kernel, refresh_single_winner rfl
    ⟨(by decide : "c" ∉ ["b"]), (by decide : "d" ∉ ["b", "c"]), trivial, trivial, trivial, trivial, trivial, trivial⟩⟩

/-- A revoked session answers a racing digest as inactive. A replay after the
grace period leaves the session active if the deny fence cannot be written. -/
theorem oneSession_not_race_nor_revoked :
    let revoked := oneSessionRun .revoked [.call 7 "a" "c" 50 50 0, .advance 0 50 .done none []]
    let unfenced := oneSessionRun .active
      [.call 7 "a" "c" 200 200 0, .advance 0 200 .done none [], .advance 0 200 .done (some (.text "redis: closed")) []]
    revoked.calls.map RotateCall.stage = [.returned none (some .userSessionInactive)] ∧
      (revoked.calls.map fun c => c.lastRead.map fun read => (read.previousRefreshHash, read.previousValidUntil)) =
        [some ("a", 100)] ∧
      unfenced.calls.map RotateCall.stage = [.returned none (some (.text "redis: closed"))] ∧
      (unfenced.calls.map fun c => c.lastRead.map fun read => (read.previousRefreshHash, read.previousValidUntil)) =
        [some ("a", 100)] ∧
      (unfenced.db.userSessions.rows.map fun row => (row.status, row.expiresAt)) = [(.active, 1000)] := by
  decide +kernel

end LLMHub
