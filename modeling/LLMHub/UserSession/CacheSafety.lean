import LLMHub.UserSession.Cache

namespace LLMHub

open Store SessionCall

def UserSessionCacheEntry.Denies (entry : UserSessionCacheEntry) : Prop := entry.status = .revoking ∨ entry.status = .revoked

theorem UserSessionCacheEntry.Denies.not_active {entry : UserSessionCacheEntry} (denies : entry.Denies) :
    entry.status ≠ .active := by
  rcases denies with status | status <;> rw [status] <;> decide

/-- When the active entry goes that the call is about to write. -/
def SessionCall.bears : SessionCall → Option Int
  | .write _ entry deadline => if entry.status = .active then deadline.map (min · (entry.expiresAt * 1000)) else none
  | .script _ entry _ expiration => if entry.status = .active then some expiration else none
  | _ => none

namespace SessionStore

variable {sid : String} {store store' : SessionStore} {clock time : Int}

/-- The session is active no more. -/
def Closed (sid : String) (store : SessionStore) : Prop := ∀ r ∈ store.sessions.rows, r.sid = sid → r.status ≠ .active

/-- An active entry that goes at `time` cannot be written any more: a deny
entry stands that long, or the time has passed. -/
def Blocks (store : SessionStore) (clock time : Int) : Prop :=
  (∃ e, store.cache = some e ∧ time ≤ e.expiry) ∨ time ≤ clock

/-- No read of the cache returns the session, nor will one after the writes
under way, which end by the times in `pending`. -/
structure Sealed (sid : String) (store : SessionStore) (clock : Int) (pending : Int → Prop) : Prop where
  closed : store.Closed sid
  denies : ∀ e, store.cache = some e → e.value.Denies
  blocks : ∀ time, pending time → store.Blocks clock time

theorem Sealed.mono {clock' : Int} {pending pending' : Int → Prop} (sealed : Sealed sid store clock pending)
    (later : clock ≤ clock') (fewer : ∀ time, pending' time → pending time) : Sealed sid store clock' pending' :=
  ⟨sealed.closed, sealed.denies, fun time waits => (sealed.blocks time (fewer time waits)).imp_right fun past => past.trans later⟩

/-- A sealed cache answers no session. -/
theorem Sealed.refuses {pending : Int → Prop} (sealed : Sealed sid store clock pending) (entry : UserSessionCacheEntry) :
    getUserSessionCache sid clock store.cache ≠ some (.ok entry) := by
  intro found
  unfold getUserSessionCache at found
  cases live : Expiring.live clock store.cache with
  | none => simp [live] at found
  | some cached =>
    obtain ⟨e, stored, -, rfl⟩ := Expiring.live_eq_some live
    have other := (sealed.denies e stored).not_active
    rw [live] at found
    dsimp only at found
    split at found
    · cases found
    · rw [if_pos (Or.inl other)] at found
      cases found

end SessionStore

namespace UserSessionCacheEntry

variable {entry : UserSessionCacheEntry} {clock ttl expiration : Int} {cache : Option (Expiring UserSessionCacheEntry)}

theorem redisExpiration_active {deadline : Int} (active : entry.status = .active)
    (ok : entry.redisExpiration ttl clock (some deadline) = .ok expiration) :
    expiration = min deadline (entry.expiresAt * 1000) := by
  simp only [redisExpiration, if_pos active] at ok
  split at ok
  · cases ok
  · split at ok
    · cases ok
    · exact (Except.ok.inj ok).symm

/-- A deny entry stands for the time to live of the cache, or until the
session is over. -/
theorem redisExpiration_denies (ttl clock : Int) (denies : entry.Denies) :
    ∃ expiration, entry.redisExpiration ttl clock none = .ok expiration ∧ 0 < expiration ∧
      min ttl (entry.expiresAt * 1000 - clock) ≤ expiration := by
  simp only [redisExpiration, if_neg denies.not_active]
  refine ⟨_, rfl, ?_⟩
  split
  · rename_i lapsed
    exact ⟨by decide, by omega⟩
  · rename_i rest
    exact ⟨by omega, by omega⟩

theorem script_denies (denies : entry.Denies) (positive : 0 < expiration) :
    entry.script clock expiration cache =
      if entry.version < cachedVersion clock cache then (false, cache) else (true, some ⟨entry, clock + expiration⟩) := by
  simp only [script, denies.not_active, false_and, if_false, Expiring.expireIn_of_pos positive]

/-- An active entry is not written over a deny entry, and not after its time. -/
theorem script_active {store : SessionStore} {sid : String} {pending : Int → Prop} (active : entry.status = .active)
    (sealed : store.Sealed sid clock pending) (blocked : store.Blocks clock expiration) :
    entry.script clock expiration store.cache = (false, store.cache) ∨
      Expiring.live clock store.cache = none ∧ entry.script clock expiration store.cache = (true, none) := by
  cases live : Expiring.live clock store.cache with
  | some cached =>
    obtain ⟨e, stored, -, rfl⟩ := Expiring.live_eq_some live
    refine Or.inl ?_
    have hit : (e.value.status == .revoking || e.value.status == .revoked) = true := by
      rcases sealed.denies e stored with status | status <;> simp [status]
    simp [script, live, active, hit]
  | none =>
    have past : expiration ≤ clock := by
      rcases blocked with ⟨e, stored, within⟩ | past
      · rw [stored] at live
        exact within.trans (Expiring.live_eq_none live).le
      · exact past
    simp only [script, live, Option.any_none, Bool.false_eq_true, and_false, if_false, if_pos active,
      Expiring.expireAt, if_pos past]
    split
    · exact Or.inl rfl
    · exact Or.inr ⟨trivial, rfl⟩

end UserSessionCacheEntry

/-- What is known of a cache write by what it is for. -/
def CachePurpose.Sound (sid : String) (expiresAt : Int) (s : SessionSystem) (entry : UserSessionCacheEntry) : CachePurpose → Prop
  | .fill late _ => late = false
  | .reuseFence _ session => session.expiresAt = expiresAt
  | .revokeFence _ candidate => candidate.expiresAt = expiresAt
  | .revokeFinal => s.store.Closed sid ∧ entry.Denies
  | _ => True

/-- What is known of a call at each of its steps. A deadline lies within the
time to live of the cache. -/
def SessionCall.Sound (sid : String) (ttl expiresAt : Int) (s : SessionSystem) : SessionCall → Prop
  | .getCache late => late = true → s.revoked = true
  | .getLoad late deadline => (late = true → s.revoked = true) ∧ deadline ≤ s.clock + ttl
  | .rotateRead _ _ deadline => deadline ≤ s.clock + ttl
  | .rotateUpdate _ _ deadline session =>
    deadline ≤ s.clock + ttl ∧ session.status = .active ∧ session.expiresAt = expiresAt
  | .reuseUpdate _ session => session.expiresAt = expiresAt
  | .revokeRead _ => True
  | .revokeTransaction _ candidate => candidate.expiresAt = expiresAt
  | .advanceTransaction _ deadline _ => deadline ≤ s.clock + ttl
  | .write purpose entry deadline => purpose.Sound sid expiresAt s entry ∧ entry.expiresAt = expiresAt ∧
      (entry.status = .active ∧ (∃ d, deadline = some d ∧ d ≤ s.clock + ttl) ∨ entry.Denies ∧ deadline = none)
  | .script purpose entry deadline expiration => purpose.Sound sid expiresAt s entry ∧ entry.expiresAt = expiresAt ∧
      (entry.status = .active ∧ (∃ d, deadline = some d) ∧ expiration ≤ s.clock + ttl ∧ expiration ≤ expiresAt * 1000 ∨
        entry.Denies ∧ deadline = none ∧ 0 < expiration ∧ min ttl (expiresAt * 1000 - s.clock) ≤ expiration)
  | .completed purpose entry _ => purpose.Sound sid expiresAt s entry ∧ entry.status = .active
  | .confirm purpose _ => ∀ session, purpose ≠ .fill true session

namespace SessionSystem

variable {sid : String} {ttl expiresAt : Int} {s s' : SessionSystem} {call : SessionCall}

/-- The times of the active entries that are about to be written. -/
def Pending (s : SessionSystem) (time : Int) : Prop := ∃ call ∈ s.calls, time ∈ call.bears

/-- The invariant; `expiresAt` is the end of the session. -/
structure Safe (sid : String) (ttl expiresAt : Int) (s : SessionSystem) : Prop where
  rows : ∀ r ∈ s.store.sessions.rows, r.sid = sid → r.expiresAt = expiresAt
  calls : ∀ call ∈ s.calls, call.Sound sid ttl expiresAt s
  sealed : s.revoked = true → s.store.Sealed sid s.clock s.Pending
  served : true ∉ s.served

/-- What later states keep for the calls that wait. -/
structure Follows (sid : String) (s s' : SessionSystem) : Prop where
  clock : s.clock ≤ s'.clock
  revoked : s.revoked = true → s'.revoked = true
  closed : s.store.Closed sid → s'.store.Closed sid

theorem Follows.purpose (follows : Follows sid s s') {purpose : CachePurpose} {entry : UserSessionCacheEntry}
    (sound : purpose.Sound sid expiresAt s entry) : purpose.Sound sid expiresAt s' entry := by
  cases purpose with
  | revokeFinal => exact ⟨follows.closed sound.1, sound.2⟩
  | _ => exact sound

theorem Follows.sound (follows : Follows sid s s') (sound : call.Sound sid ttl expiresAt s) :
    call.Sound sid ttl expiresAt s' := by
  have later := follows.clock
  cases call with
  | getCache late => exact fun isLate => follows.revoked (sound isLate)
  | getLoad late deadline => exact ⟨fun isLate => follows.revoked (sound.1 isLate), by have := sound.2; omega⟩
  | rotateRead r tries deadline | advanceTransaction a deadline now =>
    simp only [SessionCall.Sound] at sound ⊢
    omega
  | rotateUpdate r tries deadline session => exact ⟨by have := sound.1; omega, sound.2⟩
  | reuseUpdate r session | revokeTransaction r candidate | confirm purpose session => exact sound
  | revokeRead r => trivial
  | write purpose entry deadline =>
    obtain ⟨known, end_eq, ⟨active, d, same, within⟩ | denied⟩ := sound
    · exact ⟨follows.purpose known, end_eq, Or.inl ⟨active, d, same, by omega⟩⟩
    · exact ⟨follows.purpose known, end_eq, Or.inr denied⟩
  | script purpose entry deadline expiration =>
    obtain ⟨known, end_eq, ⟨active, some, within, before⟩ | ⟨denied, none, positive, long⟩⟩ := sound
    · exact ⟨follows.purpose known, end_eq, Or.inl ⟨active, some, by omega, before⟩⟩
    · exact ⟨follows.purpose known, end_eq, Or.inr ⟨denied, none, positive, by omega⟩⟩
  | completed purpose entry deadline => exact ⟨follows.purpose sound.1, sound.2⟩

/-- What one step of a call does to the store, and where it leads. -/
structure Step (sid : String) (ttl expiresAt : Int) (s : SessionSystem) (call : SessionCall) (store : SessionStore)
    (progress : SessionProgress) : Prop where
  rows : ∀ r ∈ store.sessions.rows, r.sid = sid → r.expiresAt = expiresAt
  closed : s.store.Closed sid → store.Closed sid
  next : ∀ c, progress = .next c → c.Sound sid ttl expiresAt { s with store := store }
  bears : s.store.Closed sid → ∀ c, progress = .next c → ∀ time ∈ c.bears, time ∈ call.bears
  served : progress ≠ .served true
  sealed : s.store.Sealed sid s.clock s.Pending → store.Sealed sid s.clock s.Pending
  revoked : progress = .revoked → store.Sealed sid s.clock s.Pending

section Steps
variable (safe : Safe sid ttl expiresAt s)
include safe

theorem Step.returned : Step sid ttl expiresAt s call s.store .returned :=
  ⟨safe.rows, id, by simp, by simp, by simp, id, by simp⟩

theorem Step.serves {late : Bool} (early : late = false) : Step sid ttl expiresAt s call s.store (.served late) :=
  ⟨safe.rows, id, by simp, by simp, by simp [early], id, by simp⟩

theorem Step.moves {next : SessionCall} (sound : next.Sound sid ttl expiresAt s)
    (bears : s.store.Closed sid → ∀ time ∈ next.bears, time ∈ call.bears) : Step sid ttl expiresAt s call s.store (.next next) :=
  ⟨safe.rows, id, by rintro _ ⟨⟩; exact sound, by rintro closed _ ⟨⟩; exact bears closed, nofun, id, nofun⟩

/-- An update that makes no session active. -/
theorem Step.updates {p : UserSession → Bool} {f : Table.Assignment UserSession} {next : SessionCall}
    (ends : ∀ r, (f.set r).expiresAt = r.expiresAt) (active : ∀ r, (f.set r).status = .active → r.status = .active)
    (sound : next.Sound sid ttl expiresAt { s with store := { s.store with sessions := s.store.sessions.update p f } })
    (bears : s.store.Closed sid → ∀ time ∈ next.bears, time ∈ call.bears) :
    Step sid ttl expiresAt s call { s.store with sessions := s.store.sessions.update p f } (.next next) := by
  have name : ∀ r, (f.set r).sid = r.sid := fun r => Key.text.inj (Option.some.inj (f.unique r))
  have closed : s.store.Closed sid → ({ s.store with sessions := s.store.sessions.update p f } : SessionStore).Closed sid := by
    intro closed r member same
    obtain ⟨x, inside, ⟨-, rfl⟩ | ⟨-, rfl⟩⟩ := Table.mem_update_cases member
    · exact fun again => closed x inside ((name x).symm.trans same) (active x again)
    · exact closed _ inside same
  refine ⟨fun r member same => ?_, closed, by rintro _ ⟨⟩; exact sound, by rintro before _ ⟨⟩; exact bears before, nofun,
    fun sealed => ⟨closed sealed.closed, sealed.denies, sealed.blocks⟩, nofun⟩
  obtain ⟨x, inside, ⟨-, rfl⟩ | ⟨-, rfl⟩⟩ := Table.mem_update_cases member
  · rw [ends]
    exact safe.rows x inside ((name x).symm.trans same)
  · exact safe.rows _ inside same

/-- What follows a cache write that is not the last of a revocation. -/
theorem Step.after {purpose : CachePurpose} {entry : UserSessionCacheEntry} {answer : SessionCacheAnswer}
    (sound : purpose.Sound sid expiresAt s entry) (other : purpose ≠ .revokeFinal) :
    Step sid ttl expiresAt s call s.store (purpose.after answer) := by
  cases purpose with
  | revokeFinal => exact absurd rfl other
  | fill late session =>
    obtain rfl : late = false := sound
    cases answer with
    | stale => exact Step.moves safe (by simp [SessionCall.Sound]) (by simp [SessionCall.bears])
    | inactive => exact Step.returned safe
    | done | invalid => exact Step.serves safe rfl
  | inactiveRow | reuseFinal => exact Step.returned safe
  | rotated session | advanced session =>
    cases answer with
    | stale => exact Step.moves safe (by simp [SessionCall.Sound]) (by simp [SessionCall.bears])
    | _ => exact Step.returned safe
  | reuseFence r session | revokeFence r candidate =>
    cases answer with
    | done => exact Step.moves safe sound (by simp [SessionCall.bears])
    | _ => exact Step.returned safe

theorem row_facts {p : UserSession → Bool} {r : UserSession} (found : s.store.sessions.first p = some r)
    (names : ∀ x, p x = true → x.sid = sid) : r ∈ s.store.sessions.rows ∧ r.sid = sid ∧ r.expiresAt = expiresAt := by
  have member := Table.mem_of_first found
  have same := names r (Table.holds_of_first found)
  exact ⟨member, same, safe.rows r member same⟩

end Steps

theorem sid_of_sessionIs {userID : Int} {x : UserSession} (hit : sessionIs sid userID x = true) : x.sid = sid := by
  simp only [sessionIs, Bool.and_eq_true, beq_iff_eq] at hit
  exact hit.1

theorem not_active_of_closed {userID now : Int} {x : UserSession} (closed : s.store.Closed sid)
    (inside : x ∈ s.store.sessions.rows) : activeSession sid userID now x = false := by
  refine Bool.eq_false_iff.mpr fun hit => ?_
  simp only [activeSession, Bool.and_eq_true, decide_eq_true_eq] at hit
  exact closed x inside (sid_of_sessionIs hit.1) hit.2.1

section Calls
variable (safe : Safe sid ttl expiresAt s) (member : call ∈ s.calls)
include safe member

theorem Step.get (isGet : (∃ late, call = .getCache late) ∨ ∃ late deadline, call = .getLoad late deadline) :
    Step sid ttl expiresAt s call (call.perform sid ttl s.clock s.store).1 (call.perform sid ttl s.clock s.store).2 := by
  rcases isGet with ⟨late, rfl⟩ | ⟨late, deadline, rfl⟩ <;> dsimp only [perform]
  · have known : late = true → s.revoked = true := safe.calls _ member
    cases read : getUserSessionCache sid s.clock s.store.cache with
    | none => exact Step.moves safe ⟨known, le_refl _⟩ (by simp [SessionCall.bears])
    | some answer =>
      cases answer with
      | error e => exact Step.returned safe
      | ok entry =>
        refine Step.serves safe (Bool.eq_false_iff.mpr fun isLate => ?_)
        exact (safe.sealed (known isLate)).refuses entry read
  · obtain ⟨known, within⟩ : (late = true → s.revoked = true) ∧ deadline ≤ s.clock + ttl := safe.calls _ member
    cases found : s.store.sessions.first (fun x => x.sid == sid) with
    | none => exact Step.returned safe
    | some session =>
      obtain ⟨inside, same, ends⟩ := row_facts safe found fun x hit => eq_of_beq hit
      dsimp only
      split
      · rename_i active
        have early : late = false := Bool.eq_false_iff.mpr fun isLate =>
          (safe.sealed (known isLate)).closed session inside same active.1
        refine Step.moves safe ⟨early, ends, Or.inl ⟨active.1, deadline, rfl, within⟩⟩ fun closed => ?_
        exact absurd active.1 (closed session inside same)
      · exact Step.moves safe ⟨trivial, ends, Or.inr ⟨Or.inr rfl, rfl⟩⟩ (by simp [SessionCall.bears])

theorem Step.rotate (isRotate : (∃ r tries deadline, call = .rotateRead r tries deadline) ∨
      (∃ r tries deadline session, call = .rotateUpdate r tries deadline session) ∨ ∃ r session, call = .reuseUpdate r session) :
    Step sid ttl expiresAt s call (call.perform sid ttl s.clock s.store).1 (call.perform sid ttl s.clock s.store).2 := by
  rcases isRotate with ⟨r, tries, deadline, rfl⟩ | ⟨r, tries, deadline, session, rfl⟩ | ⟨r, session, rfl⟩ <;>
    dsimp only [perform]
  · have within : deadline ≤ s.clock + ttl := safe.calls _ member
    cases found : s.store.sessions.first (sessionIs sid r.userID) with
    | none => exact Step.returned safe
    | some row =>
      obtain ⟨inside, same, ends⟩ := row_facts safe found fun x hit => sid_of_sessionIs hit
      simp only [RotateArgs.resolve]
      split
      · exact Step.returned safe
      · rename_i active
        have active := Classical.not_not.mp active
        split
        · exact Step.moves safe ⟨within, active.1, ends⟩ (by simp [SessionCall.bears])
        · split
          · exact Step.returned safe
          · split
            · exact Step.returned safe
            · exact Step.moves safe ⟨ends, ends, Or.inr ⟨Or.inl rfl, rfl⟩⟩ (by simp [SessionCall.bears, UserSession.fence])
  · obtain ⟨within, active, ends⟩ : deadline ≤ s.clock + ttl ∧ session.status = .active ∧ session.expiresAt = expiresAt :=
      safe.calls _ member
    split
    · cases tries with
      | zero => exact Step.returned safe
      | succ tries => exact Step.moves safe (le_refl (s.clock + ttl)) (by simp [SessionCall.bears])
    · rename_i hits
      refine Step.updates safe (fun _ => rfl) (fun _ status => status) ⟨trivial, ends, Or.inl ⟨active, deadline, rfl, within⟩⟩
        fun closed => absurd (Table.count_eq_zero fun x inside => ?_) hits
      rw [not_active_of_closed closed inside, Bool.false_and]
  · have ends : session.expiresAt = expiresAt := safe.calls _ member
    split
    · exact Step.returned safe
    · exact Step.updates safe (fun _ => rfl) (fun _ status => by cases status) ⟨trivial, ends, Or.inr ⟨Or.inr rfl, rfl⟩⟩
        (by simp [SessionCall.bears, UserSession.fence])

theorem Step.revoke (isRevoke : (∃ r, call = .revokeRead r) ∨ ∃ r candidate, call = .revokeTransaction r candidate) :
    Step sid ttl expiresAt s call (call.perform sid ttl s.clock s.store).1 (call.perform sid ttl s.clock s.store).2 := by
  rcases isRevoke with ⟨r, rfl⟩ | ⟨r, candidate, rfl⟩ <;> dsimp only [perform]
  · cases found : s.store.sessions.first (sessionIs sid r.userID) with
    | none => exact Step.returned safe
    | some candidate =>
      obtain ⟨-, -, ends⟩ := row_facts safe found fun x hit => sid_of_sessionIs hit
      dsimp only
      split
      · exact Step.moves safe ⟨ends, ends, Or.inr ⟨Or.inl rfl, rfl⟩⟩ (by simp [SessionCall.bears, UserSession.fence])
      · exact Step.returned safe
  · have ends : candidate.expiresAt = expiresAt := safe.calls _ member
    cases found : s.store.sessions.first (sessionIs sid r.userID) with
    | none => exact Step.returned safe
    | some current =>
      dsimp only
      split
      · refine Step.updates safe (fun _ => rfl) (fun _ status => by cases status) ⟨⟨?_, Or.inr rfl⟩, ends, Or.inr ⟨Or.inr rfl, rfl⟩⟩
          (by simp [SessionCall.bears, UserSession.fence])
        -- no row of the session is active after the update
        intro x inside same active
        obtain ⟨y, -, ⟨-, rfl⟩ | ⟨miss, rfl⟩⟩ := Table.mem_update_cases inside
        · cases active
        · simp [UserSession.activeRow, same, active] at miss
      · exact Step.returned safe

theorem Step.advanceVersion {a : AdvanceArgs} {deadline now : Int} (isAdvance : call = .advanceTransaction a deadline now) :
    Step sid ttl expiresAt s call (call.perform sid ttl s.clock s.store).1 (call.perform sid ttl s.clock s.store).2 := by
  subst isAdvance
  dsimp only [perform]
  have within : deadline ≤ s.clock + ttl := safe.calls _ member
  cases found : s.store.sessions.first (sessionIs sid a.userID) with
  | none => exact Step.returned safe
  | some session =>
    obtain ⟨inside, same, ends⟩ := row_facts safe found fun x hit => sid_of_sessionIs hit
    dsimp only
    split
    · exact Step.returned safe
    · rename_i refused
      have active : session.status = .active := Classical.not_not.mp fun other => refused (Or.inl other)
      exact Step.updates safe (fun _ => rfl) (fun _ status => status) ⟨trivial, ends, Or.inl ⟨active, deadline, rfl, within⟩⟩
        fun closed => absurd active (closed session inside same)

theorem Step.write {purpose : CachePurpose} {entry : UserSessionCacheEntry} {deadline : Option Int}
    (isWrite : call = .write purpose entry deadline) :
    Step sid ttl expiresAt s call (call.perform sid ttl s.clock s.store).1 (call.perform sid ttl s.clock s.store).2 := by
  subst isWrite
  dsimp only [perform]
  obtain ⟨known, ends, ⟨active, d, rfl, within⟩ | ⟨denies, rfl⟩⟩ := safe.calls _ member
  · have other : purpose ≠ .revokeFinal := by
      rintro rfl
      exact known.2.not_active active
    cases prepared : entry.redisExpiration ttl s.clock (some d) with
    | error answer => exact Step.after safe known other
    | ok expiration =>
      have exact_time := UserSessionCacheEntry.redisExpiration_active active prepared
      refine Step.moves safe ⟨known, ends, Or.inl ⟨active, ⟨d, rfl⟩, by omega, by rw [← ends]; omega⟩⟩ fun _ => ?_
      simp [SessionCall.bears, active, exact_time]
  · obtain ⟨expiration, prepared, positive, long⟩ := UserSessionCacheEntry.redisExpiration_denies ttl s.clock denies
    rw [prepared]
    exact Step.moves safe ⟨known, ends, Or.inr ⟨denies, rfl, positive, ends ▸ long⟩⟩ (by simp [SessionCall.bears, denies.not_active])

end Calls

/-- An active entry under way ends within the time to live and the session. -/
theorem Safe.pending (safe : Safe sid ttl expiresAt s) {time : Int} (pending : s.Pending time) :
    time ≤ s.clock + ttl ∧ time ≤ expiresAt * 1000 := by
  obtain ⟨call, member, bears⟩ := pending
  have known := safe.calls call member
  cases call with
  | write purpose entry deadline =>
    obtain ⟨-, ends, ⟨active, d, rfl, within⟩ | ⟨denies, rfl⟩⟩ := known
    · simp only [SessionCall.bears, active, if_true, Option.map_some, Option.mem_def, Option.some.injEq] at bears
      omega
    · simp [SessionCall.bears, denies.not_active] at bears
  | script purpose entry deadline expiration =>
    obtain ⟨-, ends, ⟨active, -, within, before⟩ | ⟨denies, -⟩⟩ := known
    · simp only [SessionCall.bears, active, if_true, Option.mem_def, Option.some.injEq] at bears
      omega
    · simp [SessionCall.bears, denies.not_active] at bears
  | _ => cases bears

/-- A deny entry outlasts every active entry under way. -/
theorem Safe.seals (safe : Safe sid ttl expiresAt s) {entry : UserSessionCacheEntry} {expiration : Int}
    (closed : s.store.Closed sid) (denies : entry.Denies) (long : min ttl (expiresAt * 1000 - s.clock) ≤ expiration) :
    ({ s.store with cache := some ⟨entry, s.clock + expiration⟩ } : SessionStore).Sealed sid s.clock s.Pending := by
  refine ⟨closed, ?_, fun time pending => Or.inl ⟨_, rfl, ?_⟩⟩
  · rintro _ ⟨⟩
    exact denies
  · obtain ⟨within, before⟩ := safe.pending pending
    show time ≤ s.clock + expiration
    omega

/-- An active entry that comes after its time leaves no entry. -/
theorem sealed_of_gone {pending : Int → Prop} {store : SessionStore} {clock : Int} (sealed : store.Sealed sid clock pending)
    (gone : Expiring.live clock store.cache = none) : ({ store with cache := none } : SessionStore).Sealed sid clock pending := by
  refine ⟨sealed.closed, (fun _ none => by cases none), fun time waits => Or.inr ?_⟩
  rcases sealed.blocks time waits with ⟨e, stored, within⟩ | past
  · rw [stored] at gone
    exact within.trans (Expiring.live_eq_none gone).le
  · exact past

/-- The same step when the cache was written as well. -/
theorem Step.caches {progress : SessionProgress} {cache : Option (Expiring UserSessionCacheEntry)}
    (step : Step sid ttl expiresAt s call s.store progress)
    (sealed : s.store.Sealed sid s.clock s.Pending → ({ s.store with cache := cache } : SessionStore).Sealed sid s.clock s.Pending)
    (unfinished : progress ≠ .revoked) : Step sid ttl expiresAt s call { s.store with cache := cache } progress := by
  have follows : Follows sid s { s with store := { s.store with cache := cache } } := ⟨le_refl _, id, id⟩
  exact ⟨step.rows, step.closed, fun c next => follows.sound (step.next c next), step.bears, step.served, sealed,
    fun done => absurd done unfinished⟩

theorem after_ne_revoked {purpose : CachePurpose} {answer : SessionCacheAnswer} (other : purpose ≠ .revokeFinal) :
    purpose.after answer ≠ .revoked := by
  cases purpose with
  | revokeFinal => exact absurd rfl other
  | _ => cases answer <;> simp [CachePurpose.after]

/-- The last write of a revocation finds no newer version in the cache. -/
def Accepted (s : SessionSystem) : SessionEvent → Prop
  | .step position =>
    match s.calls[position]? with
    | some (.script .revokeFinal entry _ _) => UserSessionCacheEntry.cachedVersion s.clock s.store.cache ≤ entry.version
    | _ => True
  | _ => True

section Scripts
variable (safe : Safe sid ttl expiresAt s) (member : call ∈ s.calls)
include safe member

theorem Step.script {purpose : CachePurpose} {entry : UserSessionCacheEntry} {deadline : Option Int} {expiration : Int}
    (isScript : call = .script purpose entry deadline expiration)
    (accepted : purpose = .revokeFinal → UserSessionCacheEntry.cachedVersion s.clock s.store.cache ≤ entry.version) :
    Step sid ttl expiresAt s call (call.perform sid ttl s.clock s.store).1 (call.perform sid ttl s.clock s.store).2 := by
  subst isScript
  dsimp only [perform]
  obtain ⟨known, ends, ⟨active, ⟨d, rfl⟩, -, -⟩ | ⟨denies, rfl, positive, long⟩⟩ := safe.calls _ member
  · have other : purpose ≠ .revokeFinal := by
      rintro rfl
      exact known.2.not_active active
    have pending : s.Pending expiration := ⟨_, member, by simp [SessionCall.bears, active]⟩
    have sealed : s.store.Sealed sid s.clock s.Pending →
        ({ s.store with cache := (entry.script s.clock expiration s.store.cache).2 } : SessionStore).Sealed sid s.clock s.Pending := by
      intro sealed
      rcases UserSessionCacheEntry.script_active active sealed (sealed.blocks _ pending) with refused | ⟨gone, written⟩
      · rw [refused]
        exact sealed
      · rw [written]
        exact sealed_of_gone sealed gone
    split
    · refine Step.caches (Step.moves safe ⟨known, active⟩ (by simp [SessionCall.bears])) sealed (by simp)
    · exact Step.caches (Step.after safe known other) sealed (after_ne_revoked other)
  · rw [UserSessionCacheEntry.script_denies denies positive]
    by_cases final : purpose = .revokeFinal
    · subst final
      rw [if_neg (not_lt.mpr (accepted rfl))]
      have sealed := safe.seals known.1 denies long
      exact ⟨safe.rows, id, by simp [CachePurpose.after], by simp [CachePurpose.after], by simp [CachePurpose.after],
        fun _ => sealed, fun _ => sealed⟩
    · by_cases newer : entry.version < UserSessionCacheEntry.cachedVersion s.clock s.store.cache
      · rw [if_pos newer]
        exact Step.caches (Step.after safe known final) id (after_ne_revoked final)
      · rw [if_neg newer]
        exact Step.caches (Step.after safe known final) (fun before => safe.seals before.closed denies long) (after_ne_revoked final)

theorem Step.check (isCheck : (∃ purpose entry deadline, call = .completed purpose entry deadline) ∨
      ∃ purpose session, call = .confirm purpose session) :
    Step sid ttl expiresAt s call (call.perform sid ttl s.clock s.store).1 (call.perform sid ttl s.clock s.store).2 := by
  rcases isCheck with ⟨purpose, entry, deadline, rfl⟩ | ⟨purpose, session, rfl⟩ <;> dsimp only [perform]
  · obtain ⟨known, active⟩ := safe.calls _ member
    refine Step.after safe known ?_
    rintro rfl
    exact known.2.not_active active
  · have known : ∀ session, purpose ≠ .fill true session := safe.calls _ member
    split
    · cases purpose with
      | fill late session =>
        cases late with
        | false => exact Step.serves safe rfl
        | true => exact absurd rfl (known session)
      | _ => exact Step.returned safe
    · exact Step.returned safe

/-- Every step of a call does what it is known to do. -/
theorem perform_step (accepted : ∀ entry deadline expiration, call = .script .revokeFinal entry deadline expiration →
      UserSessionCacheEntry.cachedVersion s.clock s.store.cache ≤ entry.version) :
    Step sid ttl expiresAt s call (call.perform sid ttl s.clock s.store).1 (call.perform sid ttl s.clock s.store).2 := by
  cases call with
  | getCache late => exact Step.get safe member (Or.inl ⟨_, rfl⟩)
  | getLoad late deadline => exact Step.get safe member (Or.inr ⟨_, _, rfl⟩)
  | rotateRead r tries deadline => exact Step.rotate safe member (Or.inl ⟨_, _, _, rfl⟩)
  | rotateUpdate r tries deadline session => exact Step.rotate safe member (Or.inr (Or.inl ⟨_, _, _, _, rfl⟩))
  | reuseUpdate r session => exact Step.rotate safe member (Or.inr (Or.inr ⟨_, _, rfl⟩))
  | revokeRead r => exact Step.revoke safe member (Or.inl ⟨_, rfl⟩)
  | revokeTransaction r candidate => exact Step.revoke safe member (Or.inr ⟨_, _, rfl⟩)
  | advanceTransaction a deadline now => exact Step.advanceVersion safe member rfl
  | write purpose entry deadline => exact Step.write safe member rfl
  | script purpose entry deadline expiration =>
    exact Step.script safe member rfl fun final => accepted entry deadline expiration (by rw [final])
  | completed purpose entry deadline => exact Step.check safe member (Or.inl ⟨_, _, _, rfl⟩)
  | confirm purpose session => exact Step.check safe member (Or.inr ⟨_, _, rfl⟩)

end Scripts

end SessionSystem
end LLMHub
