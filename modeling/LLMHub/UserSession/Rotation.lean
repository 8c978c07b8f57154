import LLMHub.UserSession.Refresh

namespace LLMHub

open Store Action

def sidIs (sid : String) (s : UserSession) : Bool := s.sid == sid

def sessionRow (db : DB) (sid : String) : Option UserSession := db.userSessions.first (sidIs sid)

section Row
variable {t : Table UserSession} {sid : String} {row : UserSession} {p : UserSession → Bool}
  {f : Table.Assignment UserSession}

theorem sidIs_iff : sidIs sid row = true ↔ row.sid = sid := beq_iff_eq

theorem eq_of_sid (found : t.first (sidIs sid) = some row) {x : UserSession} (member : x ∈ t.rows)
    (named : x.sid = sid) : x = row := by
  have rowNamed : row.sid = sid := sidIs_iff.mp (Table.holds_of_first found)
  exact Table.eq_of_unique (k := .text sid) member (Table.mem_of_first found) (by simp [Record.unique, named])
    (by simp [Record.unique, rowNamed])

/-- A statement that names the session changes its row or none. -/
theorem sessionRow_update (found : t.first (sidIs sid) = some row) (only : ∀ x, p x = true → x.sid = sid)
    (kept : ∀ x, (f.set x).sid = x.sid) :
    (t.update p f).first (sidIs sid) = some (Table.rewrite p f row) ∧
      t.count p = if p row then 1 else 0 := by
  refine ⟨?_, ?_⟩
  · rw [Table.first_update fun x => by simp only [sidIs, kept], found, Option.map_some]
  · split
    · rename_i hit
      refine (Table.Selects.of_id (Table.mem_of_first found) hit fun x member named => ?_).count_eq_one
      rw [eq_of_sid found member (only x named)]
    · rename_i miss
      refine Table.count_eq_zero fun x member => Bool.eq_false_iff.mpr fun hit => miss ?_
      rw [← eq_of_sid found member (only x hit)]
      exact hit

theorem activeSession_iff {userID now : Int} :
    activeSession sid userID now row = true ↔ row.sid = sid ∧ row.userID = userID ∧ row.Active now := by
  simp [activeSession, sessionIs, and_assoc]

end Row

namespace RotateCall

/-- What one statement of a call does to the call and to the session's row. -/
inductive Moves (c : RotateCall) (row : UserSession) : RotateCall → UserSession → Prop
  | read {tries : Nat} (stage : c.stage = .reading tries) (owner : row.userID = c.userID) :
      Moves c row (c.resolve row.afterFind tries) row
  | failed (e : ModelError) (running : ∀ session err, c.stage ≠ .returned session err)
      (unconfirmed : ∀ session, c.stage ≠ .confirming session) : Moves c row { c.fails e with failed := true } row
  | lost {session : UserSession} {tries : Nat} (stage : c.stage = .rotating session tries) :
      Moves c row (c.again tries) row
  | rotated {session : UserSession} {tries : Nat} (stage : c.stage = .rotating session tries)
      (active : row.Active c.now) (current : row.refreshHash = c.presentedHash) {next : RotateStage}
      (left : (∃ session, next = .confirming session) ∨ ∃ session err, next = .returned session err) :
      Moves c row { c with affected := c.affected + 1, exchanged := true, stage := next }
        ((UserSession.rotate session.refreshHash c.nextHash (c.now + c.graceSeconds) c.now).set row)
  | confirmed {session : UserSession} (stage : c.stage = .confirming session) (answer : Option UserSession)
      (err : Option ModelError) : Moves c row { c with stage := .returned answer err } row
  | revoked {session : UserSession} (stage : c.stage = .revoking session) (active : row.Active c.now) :
      Moves c row { c with affected := c.affected + 1, stage := .returned none (some .userSessionRefreshReuse) }
        ((UserSession.revokeReuse c.now).set row)
  | late {session : UserSession} (stage : c.stage = .revoking session)
      (gone : row.userID = c.userID → ¬row.Active c.now) : Moves c row (c.fails .userSessionInactive) row
  | done (session : Option UserSession) (err : Option ModelError) (stage : c.stage = .returned session err) : Moves c row c row

section Statement
variable {sid : String} {clock : Int} {cache : SessionCacheWrite} {fence : Option ModelError} {c after : RotateCall}
  {db db' : DB} {row : UserSession} (found : sessionRow db sid = some row)
  (run : (c.next sid clock cache fence).Returns db after db')
include found run

theorem next_reading {tries : Nat} (stage : c.stage = .reading tries) :
    ∃ row', sessionRow db' sid = some row' ∧ c.Moves row after row' := by
  unfold next at run
  rw [stage] at run
  obtain ⟨read, mid, attempted, rest⟩ := Returns.bind run
  rcases attempted.attempt with ⟨x, rfl, got⟩ | ⟨e, rfl, failed⟩
  · obtain ⟨first, rfl⟩ := got.findOr
    obtain ⟨rfl, rfl⟩ := rest.pure
    have named := Table.holds_of_first first
    simp only [sessionIs, Bool.and_eq_true, beq_iff_eq] at named
    obtain rfl := eq_of_sid found (Table.mem_of_first first) named.1
    exact ⟨x, found, .read stage named.2⟩
  · obtain rfl := ReadOnly.leaves (Keeps.findOr _ _) (Or.inr ⟨e, failed⟩)
    obtain ⟨rfl, rfl⟩ := rest.pure
    exact ⟨row, found, .failed e (by simp [stage]) (by simp [stage])⟩

theorem next_rotating {session : UserSession} {tries : Nat} (stage : c.stage = .rotating session tries) :
    ∃ row', sessionRow db' sid = some row' ∧ c.Moves row after row' := by
  unfold next at run
  rw [stage] at run
  obtain ⟨updated, mid, attempted, rest⟩ := Returns.bind run
  rcases attempted.attempt with ⟨n, rfl, got⟩ | ⟨e, rfl, failed⟩
  · obtain ⟨rfl, rfl⟩ := got.updateWhere
    have target := sessionRow_update (f := UserSession.rotate session.refreshHash c.nextHash (c.now + c.graceSeconds) c.now)
      (p := fun s => activeSession sid c.userID c.now s && s.refreshHash == c.presentedHash) found
      (fun x hit => (activeSession_iff.mp (Bool.and_eq_true_iff.mp hit).1).1) fun _ => rfl
    by_cases hit : (activeSession sid c.userID c.now row && row.refreshHash == c.presentedHash) = true
    · have count : (HasTable.table db : Table UserSession).count _ = 1 := target.2.trans (if_pos hit)
      have active := (activeSession_iff.mp (Bool.and_eq_true_iff.mp hit).1).2.2
      have current : row.refreshHash = c.presentedHash := eq_of_beq (Bool.and_eq_true_iff.mp hit).2
      have hitRow := Table.rewrite_pos (f := UserSession.rotate session.refreshHash c.nextHash (c.now + c.graceSeconds) c.now)
        (p := fun s => activeSession sid c.userID c.now s && s.refreshHash == c.presentedHash) hit
      simp only [count, one_ne_zero, if_false] at rest
      cases cache with
      | done | inactive =>
        obtain ⟨rfl, rfl⟩ := rest.pure
        exact ⟨_, target.1.trans (congrArg some hitRow), .rotated stage active current (Or.inr ⟨_, _, rfl⟩)⟩
      | stale =>
        obtain ⟨rfl, rfl⟩ := rest.pure
        exact ⟨_, target.1.trans (congrArg some hitRow), .rotated stage active current (Or.inl ⟨_, rfl⟩)⟩
    · have count : (HasTable.table db : Table UserSession).count _ = 0 := target.2.trans (if_neg hit)
      dsimp only at rest
      rw [if_pos count] at rest
      obtain ⟨rfl, rfl⟩ := rest.pure
      refine ⟨row, target.1.trans (congrArg some (Table.rewrite_neg ?_)), .lost stage⟩
      exact Bool.eq_false_iff.mpr hit
  · obtain rfl := failed.updateWhere
    obtain ⟨rfl, rfl⟩ := rest.pure
    exact ⟨row, found, .failed e (by simp [stage]) (by simp [stage])⟩

theorem next_confirming {session : UserSession} (stage : c.stage = .confirming session) :
    ∃ row', sessionRow db' sid = some row' ∧ c.Moves row after row' := by
  unfold next at run
  rw [stage] at run
  dsimp only at run
  split at run
  · obtain ⟨rfl, rfl⟩ := run.pure
    exact ⟨row, found, .confirmed stage none _⟩
  · obtain ⟨counted, mid, attempted, rest⟩ := Returns.bind run
    rcases attempted.attempt with ⟨n, rfl, got⟩ | ⟨e, rfl, failed⟩
    · obtain ⟨-, rfl⟩ := Returns.query got
      dsimp only at rest
      split at rest
      · obtain ⟨rfl, rfl⟩ := rest.pure
        exact ⟨row, found, .confirmed stage none _⟩
      · obtain ⟨rfl, rfl⟩ := rest.pure
        exact ⟨row, found, .confirmed stage _ none⟩
    · obtain rfl := ReadOnly.leaves (Keeps.query _) (Or.inr ⟨e, failed⟩)
      obtain ⟨rfl, rfl⟩ := rest.pure
      exact ⟨row, found, .confirmed stage none _⟩

theorem next_revoking {session : UserSession} (stage : c.stage = .revoking session) :
    ∃ row', sessionRow db' sid = some row' ∧ c.Moves row after row' := by
  unfold next at run
  rw [stage] at run
  cases fence with
  | some e =>
    obtain ⟨rfl, rfl⟩ := run.pure
    exact ⟨row, found, .failed e (by simp [stage]) (by simp [stage])⟩
  | none =>
    obtain ⟨updated, mid, attempted, rest⟩ := Returns.bind run
    rcases attempted.attempt with ⟨n, rfl, got⟩ | ⟨e, rfl, failed⟩
    · obtain ⟨rfl, rfl⟩ := got.updateWhere
      have target := sessionRow_update (f := UserSession.revokeReuse c.now) (p := activeSession sid c.userID c.now) found
        (fun x hit => (activeSession_iff.mp hit).1) fun _ => rfl
      by_cases hit : activeSession sid c.userID c.now row = true
      · have count : (HasTable.table db : Table UserSession).count _ = 1 := target.2.trans (if_pos hit)
        simp only [count, one_ne_zero, if_false] at rest
        obtain ⟨rfl, rfl⟩ := rest.pure
        refine ⟨_, target.1.trans (congrArg some (Table.rewrite_pos hit)), .revoked stage ?_⟩
        exact (activeSession_iff.mp hit).2.2
      · have count : (HasTable.table db : Table UserSession).count _ = 0 := target.2.trans (if_neg hit)
        dsimp only at rest
        rw [if_pos count] at rest
        obtain ⟨rfl, rfl⟩ := rest.pure
        refine ⟨row, target.1.trans (congrArg some (Table.rewrite_neg (Bool.eq_false_iff.mpr hit))), .late stage ?_⟩
        exact fun owner active => hit (activeSession_iff.mpr ⟨sidIs_iff.mp (Table.holds_of_first found), owner, active⟩)
    · obtain rfl := failed.updateWhere
      obtain ⟨rfl, rfl⟩ := rest.pure
      exact ⟨row, found, .failed e (by simp [stage]) (by simp [stage])⟩

/-- Every statement of a call is one of its moves. -/
theorem next_returns : ∃ row', sessionRow db' sid = some row' ∧ c.Moves row after row' := by
  match stage : c.stage with
  | .reading _ => exact next_reading found run stage
  | .rotating _ _ => exact next_rotating found run stage
  | .confirming _ => exact next_confirming found run stage
  | .revoking _ => exact next_revoking found run stage
  | .returned session err =>
    unfold next at run
    rw [stage] at run
    obtain ⟨rfl, rfl⟩ := run.pure
    exact ⟨row, found, .done session err stage⟩

end Statement
end RotateCall
end LLMHub
