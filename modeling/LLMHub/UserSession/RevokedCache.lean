import LLMHub.UserSession.CacheSafety

namespace LLMHub

open Store

namespace SessionSystem

variable {sid : String} {ttl expiresAt : Int} {s : SessionSystem} {call : SessionCall}

theorem mem_proceed {position : Nat} {progress : SessionProgress} (member : call ∈ (s.proceed position progress).calls) :
    call ∈ s.calls ∨ progress = .next call := by
  cases progress with
  | next c =>
    rcases List.mem_or_eq_of_mem_set member with before | rfl
    · exact Or.inl before
    · exact Or.inr rfl
  | returned | served late | revoked => exact Or.inl (List.mem_of_mem_eraseIdx member)

/-- A step of a call keeps the invariant. -/
theorem Safe.proceed {store : SessionStore} {progress : SessionProgress} {position : Nat} (safe : Safe sid ttl expiresAt s)
    (member : call ∈ s.calls) (step : Step sid ttl expiresAt s call store progress) :
    Safe sid ttl expiresAt ({ s with store := store }.proceed position progress) := by
  obtain ⟨s', result⟩ : ∃ s', s' = { s with store := store }.proceed position progress := ⟨_, rfl⟩
  rw [← result]
  have clock : s'.clock = s.clock := by rw [result]; cases progress <;> rfl
  have after : s'.store = store := by rw [result]; cases progress <;> rfl
  have follows : Follows sid s s' := by
    refine ⟨clock.ge, ?_, fun closed => after ▸ step.closed closed⟩
    rw [result]
    cases progress <;> first | exact id | exact fun _ => rfl
  have next : Follows sid { s with store := store } s' := by
    refine ⟨clock.ge, ?_, fun closed => after ▸ closed⟩
    rw [result]
    cases progress <;> first | exact id | exact fun _ => rfl
  -- once the row is closed, no step opens a new active write
  have pending : s.store.Closed sid → ∀ time, s'.Pending time → s.Pending time := by
    rintro closed time ⟨c, inside, bears⟩
    rcases mem_proceed (result ▸ inside) with before | now
    · exact ⟨c, before, bears⟩
    · exact ⟨call, member, step.bears closed c now time bears⟩
  have sealed : ∀ {pending}, store.Sealed sid s.clock pending → (∀ time, s'.Pending time → pending time) →
      s'.store.Sealed sid s'.clock s'.Pending := by
    intro pending sealed fewer
    rw [after, clock]
    exact sealed.mono (le_refl _) fewer
  refine ⟨after ▸ step.rows, fun c inside => ?_, fun done => ?_, fun late => ?_⟩
  · rcases mem_proceed (result ▸ inside) with before | now
    · exact follows.sound (safe.calls c before)
    · exact next.sound (step.next c now)
  · by_cases final : progress = .revoked
    · refine sealed (step.revoked final) fun time waits => ?_
      obtain ⟨c, inside, bears⟩ := waits
      rcases mem_proceed (result ▸ inside) with before | now
      · exact ⟨c, before, bears⟩
      · rw [final] at now
        cases now
    · have before : s.revoked = true := by
        rw [result] at done
        cases progress with
        | revoked => exact absurd rfl final
        | next c | returned | served late => exact done
      have known := safe.sealed before
      exact sealed (step.sealed known) (pending known.closed)
  · rw [result] at late
    cases progress with
    | next c | returned | revoked => exact safe.served late
    | served isLate =>
      rcases List.mem_cons.mp late with same | before
      · exact step.served (by rw [← same])
      · exact safe.served before

theorem Safe.begin (safe : Safe sid ttl expiresAt s) (sound : call.Sound sid ttl expiresAt s) (bears : call.bears = none) :
    Safe sid ttl expiresAt (s.call call) := by
  have follows : Follows sid s (s.call call) := ⟨le_refl _, id, id⟩
  have calls : ∀ c ∈ (s.call call).calls, c ∈ s.calls ∨ c = call := fun c inside =>
    (List.mem_append.mp inside).imp_right List.mem_singleton.mp
  refine ⟨safe.rows, fun c inside => ?_, fun done => ?_, safe.served⟩
  · rcases calls c inside with before | rfl
    · exact follows.sound (safe.calls c before)
    · exact follows.sound sound
  · refine (safe.sealed done).mono (le_refl _) ?_
    rintro time ⟨c, inside, within⟩
    rcases calls c inside with before | rfl
    · exact ⟨c, before, within⟩
    · rw [bears] at within
      cases within

theorem Safe.step {e : SessionEvent} (safe : Safe sid ttl expiresAt s) (accepted : s.Accepted e) :
    Safe sid ttl expiresAt ((sessionMachine sid ttl).step s e) := by
  cases e with
  | tick milliseconds =>
    have later : s.clock ≤ s.clock + milliseconds := by omega
    have follows : Follows sid s { s with clock := s.clock + milliseconds } := ⟨later, id, id⟩
    exact ⟨safe.rows, fun c inside => follows.sound (safe.calls c inside),
      fun done => (safe.sealed done).mono later fun _ waits => waits, safe.served⟩
  | get =>
    simp only [sessionMachine]
    split
    · exact safe
    · exact safe.begin (fun late => late) rfl
  | rotate r | advance a =>
    simp only [sessionMachine]
    split
    · exact safe
    · exact safe.begin (le_refl (s.clock + ttl)) rfl
  | revoke userID reason =>
    simp only [sessionMachine]
    split
    · exact safe
    · exact safe.begin trivial rfl
  | step position =>
    simp only [sessionMachine]
    cases found : s.calls[position]? with
    | none => exact safe
    | some call =>
      have member := List.mem_of_getElem? found
      refine safe.proceed member (perform_step safe member fun entry deadline expiration final => ?_)
      rw [Accepted, found, final] at accepted
      exact accepted

def initial (store : SessionStore) (clock : Int) : SessionSystem := { store := store, clock := clock }

theorem initial_safe (sid : String) (ttl : Int) (store : SessionStore) (clock : Int) :
    ∃ expiresAt, Safe sid ttl expiresAt (initial store clock) := by
  refine ⟨((store.sessions.first (fun r => r.sid == sid)).map (·.expiresAt)).getD 0, fun r inside same => ?_,
    by simp [initial], by simp [initial], by simp [initial]⟩
  cases found : store.sessions.first (fun r => r.sid == sid) with
  | none => exact absurd (Table.first_eq_none.mp found r inside) (by simp [same])
  | some row =>
    have name : row.sid = sid := by
      have hit := Table.holds_of_first found
      exact eq_of_beq hit
    have only : r = row := by
      refine Table.eq_of_unique inside (Table.mem_of_first found) (k := .text sid) ?_ ?_
      · exact congrArg (fun x => some (Key.text x)) same
      · exact congrArg (fun x => some (Key.text x)) name
    rw [only]
    rfl

end SessionSystem

/-- If the last write of a revocation is always accepted, no call that begins
after `RevokeUserSession` has returned true is answered with the session. -/
theorem revoked_session_not_served (sid : String) (ttl : Int) (store : SessionStore) (clock : Int) (events : List SessionEvent)
    (accepted : (sessionMachine sid ttl).Permits SessionSystem.Accepted (.initial store clock) events) :
    true ∉ ((sessionMachine sid ttl).run (.initial store clock) events).served := by
  obtain ⟨expiresAt, start⟩ := SessionSystem.initial_safe sid ttl store clock
  have safe := accepted.keeps (SessionSystem.Safe sid ttl expiresAt) (fun _ _ accepted safe => safe.step accepted) start
  exact safe.served

def loggedInSession : SessionStore where
  sessions := .single { rowId := 1, sid := "sid", userID := 1, refreshHash := "h", expiresAt := 1000 }

/-- A fill reads the row before the revocation and is written after it, when
the deny entry is gone. -/
def delayedFill : List SessionEvent :=
  [.get, .step 0, .step 0, .revoke 1 "logout", .step 1, .step 1, .step 1, .step 1, .step 1, .step 1,
    .tick 60001, .step 0, .step 0, .get, .step 0, .step 0]

theorem delayedFill_refused :
    let final := (sessionMachine "sid" 60000).run (.initial loggedInSession 0) delayedFill
    final.revoked = true ∧ true ∉ final.served := by
  refine ⟨by decide +kernel, revoked_session_not_served "sid" 60000 loggedInSession 0 delayedFill ?_⟩
  exact ⟨trivial, trivial, trivial, trivial, trivial, trivial, trivial, trivial, trivial, (by decide : (1 : Int) ≤ 1), trivial,
    trivial, trivial, trivial, trivial, trivial, trivial⟩

/-- A revocation stalls until its fence has expired. The session is advanced
and cached under a newer version, the last write of the revocation is refused,
and a call that begins after it has returned true finds the session active. -/
def stalledRevoke : List SessionEvent :=
  [.revoke 1 "logout", .step 0, .step 0, .step 0, .tick 60001, .advance ⟨1, 1, 1, 2⟩, .step 1, .step 1, .step 1, .step 1,
    .step 0, .step 0, .step 0, .get, .step 0]

theorem stalledRevoke_served :
    let final := (sessionMachine "sid" 60000).run (.initial loggedInSession 0) stalledRevoke
    final.revoked = true ∧ final.store.sessions.rows.map (·.status) = [.revoked] ∧ final.served = [true] := by
  decide +kernel

end LLMHub
