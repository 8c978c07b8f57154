import LLMHub.Store.Table

namespace Store

/-- The error a driver reports for a statement it could not execute. -/
class DriverError (ε : Type) where
  failed : ε

/-- A database together with the driver's verdict on the statements to come:
`true` makes the next statement fail without effect. An exhausted list means
no further failures. -/
structure Session (σ : Type) where
  db : σ
  faults : List Bool

/-- Client code against a database. A failed action keeps the effects of the
statements it has already executed, unless it runs inside a transaction. -/
def Action (σ ε α : Type) : Type := Session σ → Except ε α × Session σ

namespace Action
variable {σ ε α β : Type}

protected def bind (x : Action σ ε α) (f : α → Action σ ε β) : Action σ ε β := fun s =>
  match x s with
  | (.ok a, s') => f a s'
  | (.error e, s') => (.error e, s')

instance : Monad (Action σ ε) where
  pure a := fun s => (.ok a, s)
  bind := Action.bind

def fail (e : ε) : Action σ ε α := fun s => (.error e, s)

def failIf (c : Prop) [Decidable c] (e : ε) : Action σ ε Unit := if c then fail e else pure ()

/-- A conditional step of a longer action. -/
def onlyIf (c : Prop) [Decidable c] (x : Action σ ε Unit) : Action σ ε Unit := if c then x else pure ()

def ofExcept (r : Except ε α) : Action σ ε α := fun s => (r, s)

/-- One statement. Its own error, like a driver failure, leaves the database
as it was. -/
def statement [DriverError ε] (f : σ → Except ε (α × σ)) : Action σ ε α := fun s =>
  if s.faults.headD false then (.error DriverError.failed, ⟨s.db, s.faults.tail⟩)
  else match f s.db with
    | .ok (a, db) => (.ok a, ⟨db, s.faults.tail⟩)
    | .error e => (.error e, ⟨s.db, s.faults.tail⟩)

/-- A failed transaction is rolled back. -/
def transaction (x : Action σ ε α) : Action σ ε α := fun s =>
  match x s with
  | (.ok a, s') => (.ok a, s')
  | (.error e, s') => (.error e, ⟨s.db, s'.faults⟩)

/-- The error as a value, for callers that inspect it and go on. -/
def attempt (x : Action σ ε α) : Action σ ε (Except ε α) := fun s =>
  match x s with
  | (r, s') => (.ok r, s')

/-- Wrapping of the reported error. -/
def mapError (f : ε → ε) (x : Action σ ε α) : Action σ ε α := fun s =>
  match x s with
  | (.ok a, s') => (.ok a, s')
  | (.error e, s') => (.error (f e), s')

def query [DriverError ε] (f : σ → α) : Action σ ε α := statement fun db => .ok (f db, db)

def require [DriverError ε] (f : σ → Option α) (e : ε) : Action σ ε α := statement fun db =>
  match f db with
  | some a => .ok (a, db)
  | none => .error e

def execute [DriverError ε] (f : σ → α × σ) : Action σ ε α := statement fun db => .ok (f db)

/-- The action may end with value `a` in database `db'`, under some choice of
driver failures. -/
def Returns (x : Action σ ε α) (db : σ) (a : α) (db' : σ) : Prop :=
  ∃ faults faults', x ⟨db, faults⟩ = (.ok a, ⟨db', faults'⟩)

def Fails (x : Action σ ε α) (db : σ) (e : ε) (db' : σ) : Prop :=
  ∃ faults faults', x ⟨db, faults⟩ = (.error e, ⟨db', faults'⟩)

/-- The action may end in `db'`, whatever it reports. -/
def Leaves (x : Action σ ε α) (db db' : σ) : Prop := (∃ a, x.Returns db a db') ∨ ∃ e, x.Fails db e db'

theorem query_run [DriverError ε] (f : σ → α) (db : σ) :
    (query f : Action σ ε α) ⟨db, []⟩ = (.ok (f db), ⟨db, []⟩) := rfl

variable {db db' : σ} {a : α} {x : Action σ ε α} {s : Session σ} {f : α → Action σ ε β} {e : ε} {c : Prop} {b : β}
  {r : Except ε α} {g : σ → β} {inv : σ → Prop}

theorem require_run [DriverError ε] {f : σ → Option α} (found : f db = some a) (e : ε) :
    require f e ⟨db, []⟩ = (.ok a, ⟨db, []⟩) := by
  simp [require, statement, found]

/-- Every execution is one of those that `Leaves` speaks about. -/
theorem leaves_run (x : Action σ ε α) (s : Session σ) : x.Leaves s.db (x s).2.db := by
  rcases result : x s with ⟨r | r, s'⟩
  · exact Or.inr ⟨r, s.faults, s'.faults, result⟩
  · exact Or.inl ⟨r, s.faults, s'.faults, result⟩

theorem returns_run (ok : (x s).1 = .ok a) : x.Returns s.db a (x s).2.db :=
  ⟨s.faults, (x s).2.faults, Prod.ext ok rfl⟩

theorem bind_apply (x : Action σ ε α) (f : α → Action σ ε β) (s : Session σ) :
    (x >>= f) s = match x s with
      | (.ok a, s') => f a s'
      | (.error e, s') => (.error e, s') := rfl

theorem bind_ok {s' : Session σ} (h : x s = (.ok a, s')) : (x >>= f) s = f a s' := by
  rw [bind_apply, h]

theorem bind_error {s' : Session σ} (h : x s = (.error e, s')) : (x >>= f) s = (.error e, s') := by
  rw [bind_apply, h]

theorem pure_apply (a : α) (s : Session σ) : (pure a : Action σ ε α) s = (.ok a, s) := rfl

theorem failIf_neg [Decidable c] (passes : ¬c) (e : ε) (s : Session σ) :
    (failIf c e : Action σ ε Unit) s = (.ok (), s) := by
  rw [failIf, if_neg passes, pure_apply]

theorem failIf_pos [Decidable c] (holds : c) (e : ε) (s : Session σ) :
    (failIf c e : Action σ ε Unit) s = (.error e, s) := by
  rw [failIf, if_pos holds, fail]

theorem Returns.bind (run : (x >>= f).Returns db b db') : ∃ a mid, x.Returns db a mid ∧ (f a).Returns mid b db' := by
  obtain ⟨faults, faults', run⟩ := run
  rw [bind_apply] at run
  split at run
  · rename_i a s head
    exact ⟨a, s.db, ⟨faults, s.faults, head⟩, ⟨s.faults, faults', run⟩⟩
  · simp at run

theorem Returns.pure {b : α} (run : (pure a : Action σ ε α).Returns db b db') : b = a ∧ db' = db := by
  obtain ⟨faults, faults', run⟩ := run
  rw [pure_apply] at run
  cases run
  exact ⟨rfl, rfl⟩

theorem Returns.fail (run : (Action.fail e : Action σ ε α).Returns db a db') : False := by
  obtain ⟨faults, faults', run⟩ := run
  simp [Action.fail] at run

theorem Returns.failIf [Decidable c] {u : Unit}
    (run : (Action.failIf c e : Action σ ε Unit).Returns db u db') : ¬c ∧ db' = db := by
  unfold Action.failIf at run
  split at run
  · exact absurd run Returns.fail
  · exact ⟨by assumption, run.pure.2⟩

theorem Returns.onlyIf [Decidable c] {x : Action σ ε Unit} {u : Unit}
    (run : (Action.onlyIf c x).Returns db u db') : (c ∧ x.Returns db u db') ∨ (¬c ∧ db' = db) := by
  unfold Action.onlyIf at run
  split at run
  · exact Or.inl ⟨by assumption, run⟩
  · exact Or.inr ⟨by assumption, run.pure.2⟩

theorem Returns.ofExcept (run : (Action.ofExcept r : Action σ ε α).Returns db a db') : r = .ok a ∧ db' = db := by
  obtain ⟨faults, faults', run⟩ := run
  simp only [Action.ofExcept, Prod.mk.injEq, Session.mk.injEq] at run
  exact ⟨run.1, run.2.1.symm⟩

theorem Returns.statement [DriverError ε] {f : σ → Except ε (α × σ)}
    (run : (Action.statement f).Returns db a db') : f db = .ok (a, db') := by
  obtain ⟨faults, faults', run⟩ := run
  unfold Action.statement at run
  split at run
  · simp at run
  · split at run
    · rename_i result
      cases run
      exact result
    · simp at run

theorem Returns.query [DriverError ε] {f : σ → α}
    (run : (Action.query f : Action σ ε α).Returns db a db') : a = f db ∧ db' = db := by
  cases run.statement
  exact ⟨rfl, rfl⟩

theorem Returns.require [DriverError ε] {f : σ → Option α}
    (run : (Action.require f e).Returns db a db') : f db = some a ∧ db' = db := by
  have result := run.statement
  split at result
  · rename_i value found
    cases result
    exact ⟨found, rfl⟩
  · simp at result

theorem Returns.execute [DriverError ε] {f : σ → α × σ}
    (run : (Action.execute f : Action σ ε α).Returns db a db') : f db = (a, db') := by
  have result := run.statement
  exact Except.ok.inj result

theorem Returns.failIf_bind [Decidable c] {f : Unit → Action σ ε β}
    (run : (Action.failIf c e >>= f).Returns db b db') : ¬c ∧ (f ()).Returns db b db' := by
  obtain ⟨_, mid, head, rest⟩ := run.bind
  obtain ⟨passed, same⟩ := head.failIf
  exact ⟨passed, same ▸ rest⟩

theorem Returns.ofExcept_bind
    (run : (Action.ofExcept r >>= f).Returns db b db') : ∃ a, r = .ok a ∧ (f a).Returns db b db' := by
  obtain ⟨a, mid, head, rest⟩ := run.bind
  obtain ⟨value, same⟩ := head.ofExcept
  exact ⟨a, value, same ▸ rest⟩

theorem Returns.query_bind [DriverError ε] {g : σ → α}
    (run : (Action.query g >>= f).Returns db b db') : (f (g db)).Returns db b db' := by
  obtain ⟨a, mid, head, rest⟩ := run.bind
  obtain ⟨rfl, same⟩ := head.query
  exact same ▸ rest

theorem Returns.require_bind [DriverError ε] {g : σ → Option α}
    (run : (Action.require g e >>= f).Returns db b db') : ∃ a, g db = some a ∧ (f a).Returns db b db' := by
  obtain ⟨a, mid, head, rest⟩ := run.bind
  obtain ⟨found, same⟩ := head.require
  exact ⟨a, found, same ▸ rest⟩

theorem Returns.transaction (run : (Action.transaction x).Returns db a db') : x.Returns db a db' := by
  obtain ⟨faults, faults', run⟩ := run
  unfold Action.transaction at run
  split at run
  · rename_i head
    exact ⟨faults, faults', head.trans run⟩
  · simp at run

theorem Returns.mapError {f : ε → ε} (run : (Action.mapError f x).Returns db a db') : x.Returns db a db' := by
  obtain ⟨faults, faults', run⟩ := run
  unfold Action.mapError at run
  split at run
  · rename_i head
    exact ⟨faults, faults', head.trans run⟩
  · simp at run

theorem Fails.mapError {f : ε → ε} (run : (Action.mapError f x).Fails db e db') : ∃ cause, x.Fails db cause db' := by
  obtain ⟨faults, faults', run⟩ := run
  unfold Action.mapError at run
  split at run
  · simp at run
  · rename_i cause s head
    cases run
    exact ⟨cause, faults, faults', head⟩

theorem Leaves.mapError {f : ε → ε} (run : (Action.mapError f x).Leaves db db') : x.Leaves db db' := by
  rcases run with ⟨a, run⟩ | ⟨e, run⟩
  · exact Or.inl ⟨a, run.mapError⟩
  · exact Or.inr run.mapError

theorem Returns.attempt (run : (Action.attempt x).Returns db r db') :
    (∃ a, r = .ok a ∧ x.Returns db a db') ∨ ∃ e, r = .error e ∧ x.Fails db e db' := by
  obtain ⟨faults, faults', run⟩ := run
  unfold Action.attempt at run
  split at run
  rename_i result s head
  cases run
  cases r with
  | ok a => exact Or.inl ⟨a, rfl, faults, faults', head⟩
  | error e => exact Or.inr ⟨e, rfl, faults, faults', head⟩

theorem Fails.attempt (run : (Action.attempt x).Fails db e db') : False := by
  obtain ⟨faults, faults', run⟩ := run
  unfold Action.attempt at run
  simp at run

theorem Fails.transaction (run : (Action.transaction x).Fails db e db') : db' = db := by
  obtain ⟨faults, faults', run⟩ := run
  unfold Action.transaction at run
  split at run
  · simp at run
  · cases run
    rfl

/-- A transaction leaves the database of a successful body, or the one it
started from. -/
theorem Leaves.transaction (run : (Action.transaction x).Leaves db db') : (∃ a, x.Returns db a db') ∨ db' = db := by
  rcases run with ⟨a, run⟩ | ⟨e, run⟩
  · exact Or.inl ⟨a, run.transaction⟩
  · exact Or.inr run.transaction

theorem Fails.bind (run : (x >>= f).Fails db e db') :
    x.Fails db e db' ∨ ∃ a mid, x.Returns db a mid ∧ (f a).Fails mid e db' := by
  obtain ⟨faults, faults', run⟩ := run
  rw [bind_apply] at run
  split at run
  · rename_i a s head
    exact Or.inr ⟨a, s.db, ⟨faults, s.faults, head⟩, ⟨s.faults, faults', run⟩⟩
  · rename_i s head
    cases run
    exact Or.inl ⟨faults, faults', head⟩

theorem Leaves.bind (run : (x >>= f).Leaves db db') :
    (∃ e, x.Fails db e db') ∨ ∃ a mid, x.Returns db a mid ∧ (f a).Leaves mid db' := by
  rcases run with ⟨b, run⟩ | ⟨e, run⟩
  · obtain ⟨a, mid, head, rest⟩ := run.bind
    exact Or.inr ⟨a, mid, head, Or.inl ⟨b, rest⟩⟩
  · rcases run.bind with failed | ⟨a, mid, head, rest⟩
    · exact Or.inl ⟨e, failed⟩
    · exact Or.inr ⟨a, mid, head, Or.inr ⟨e, rest⟩⟩

theorem Fails.statement [DriverError ε] {f : σ → Except ε (α × σ)}
    (run : (Action.statement f).Fails db e db') : db' = db := by
  obtain ⟨faults, faults', run⟩ := run
  unfold Action.statement at run
  split at run
  · cases run
    rfl
  · split at run
    · simp at run
    · cases run
      rfl

theorem Fails.execute [DriverError ε] {f : σ → α × σ}
    (run : (Action.execute f : Action σ ε α).Fails db e db') : db' = db :=
  Fails.statement run

theorem Fails.fail {e' : ε} (run : (Action.fail e : Action σ ε α).Fails db e' db') : e' = e ∧ db' = db := by
  obtain ⟨faults, faults', run⟩ := run
  cases run
  exact ⟨rfl, rfl⟩

theorem Fails.pure (run : (pure a : Action σ ε α).Fails db e db') : False := by
  obtain ⟨faults, faults', run⟩ := run
  simp [pure_apply] at run

theorem Fails.failIf [Decidable c] {e' : ε}
    (run : (Action.failIf c e : Action σ ε Unit).Fails db e' db') : c ∧ e' = e ∧ db' = db := by
  unfold Action.failIf at run
  split at run
  · exact ⟨by assumption, run.fail⟩
  · exact absurd run Fails.pure

/-- The action does not change what `f` sees of the database. -/
def Keeps (f : σ → β) (x : Action σ ε α) : Prop := ∀ s, f (x s).2.db = f s.db

/-- The action never writes. -/
abbrev ReadOnly (x : Action σ ε α) : Prop := x.Keeps id

theorem Keeps.pure (a : α) : (pure a : Action σ ε α).Keeps g := fun _ => rfl

theorem Keeps.fail (e : ε) : (Action.fail e : Action σ ε α).Keeps g := fun _ => rfl

theorem Keeps.failIf (c : Prop) [Decidable c] (e : ε) : (Action.failIf c e : Action σ ε Unit).Keeps g := by
  unfold Action.failIf
  split
  · exact .fail e
  · exact .pure ()

theorem Keeps.ofExcept (r : Except ε α) : (Action.ofExcept r : Action σ ε α).Keeps g := fun _ => rfl

theorem Keeps.query [DriverError ε] (f : σ → α) : (Action.query f : Action σ ε α).Keeps g := by
  intro s
  unfold Action.query Action.statement
  split <;> rfl

theorem Keeps.require [DriverError ε] (f : σ → Option α) (e : ε) : (Action.require f e : Action σ ε α).Keeps g := by
  intro s
  unfold Action.require Action.statement
  cases found : f s.db <;> simp only [found] <;> split <;> rfl

theorem Keeps.bind {γ : Type} {g : σ → γ} (head : x.Keeps g) (rest : ∀ a, (f a).Keeps g) : (x >>= f).Keeps g := by
  intro s
  have first := head s
  rw [bind_apply]
  split
  · rename_i a s' result
    rw [result] at first
    exact (rest a s').trans first
  · rename_i e s' result
    rw [result] at first
    exact first

theorem Keeps.ite [Decidable c] {y : Action σ ε α} (first : x.Keeps g) (second : y.Keeps g) :
    (if c then x else y).Keeps g := by
  split
  · exact first
  · exact second

theorem Keeps.onlyIf [Decidable c] {x : Action σ ε Unit} (keeps : x.Keeps g) : (Action.onlyIf c x).Keeps g :=
  keeps.ite (.pure ())

theorem Keeps.transaction (keeps : x.Keeps g) : (Action.transaction x).Keeps g := by
  intro s
  have same := keeps s
  unfold Action.transaction
  split
  · rename_i result
    rw [result] at same
    exact same
  · rfl

theorem Keeps.attempt (keeps : x.Keeps g) : (Action.attempt x).Keeps g :=
  fun s => keeps s

theorem Keeps.mapError (keeps : x.Keeps g) (f : ε → ε) : (Action.mapError f x).Keeps g := by
  intro s
  have same := keeps s
  unfold Action.mapError
  split <;> rename_i result <;> rw [result] at same <;> exact same

theorem Keeps.returns (keeps : x.Keeps g) (run : x.Returns db a db') : g db' = g db := by
  obtain ⟨faults, faults', run⟩ := run
  have same := keeps ⟨db, faults⟩
  rw [run] at same
  exact same

theorem Keeps.leaves (keeps : x.Keeps g) (run : x.Leaves db db') : g db' = g db := by
  rcases run with ⟨a, run⟩ | ⟨e, faults, faults', run⟩
  · exact keeps.returns run
  · have same := keeps ⟨db, faults⟩
    rw [run] at same
    exact same

theorem ReadOnly.returns (reads : x.ReadOnly) (run : x.Returns db a db') : db' = db :=
  Keeps.returns reads run

theorem ReadOnly.leaves (reads : x.ReadOnly) (run : x.Leaves db db') : db' = db :=
  Keeps.leaves reads run

/-- After a read either nothing was written or the continuation ran. -/
theorem Leaves.read (run : (x >>= f).Leaves db db')
    (reads : x.ReadOnly) : db' = db ∨ ∃ a, x.Returns db a db ∧ (f a).Leaves db db' := by
  rcases run.bind with ⟨e, failed⟩ | ⟨a, mid, head, rest⟩
  · exact Or.inl (reads.leaves (Or.inr ⟨e, failed⟩))
  · obtain rfl := reads.returns head
    exact Or.inr ⟨a, head, rest⟩

/-- Reads after an action add nothing to what it leaves behind. -/
theorem Leaves.then_readOnly (run : (x >>= f).Leaves db db') (reads : ∀ a, (f a).ReadOnly) : x.Leaves db db' := by
  rcases run.bind with failed | ⟨a, mid, head, rest⟩
  · exact Or.inr failed
  · rw [(reads a).leaves rest]
    exact Or.inl ⟨a, head⟩

/-- The action never reports the error `e`. -/
def Avoids (e : ε) (x : Action σ ε α) : Prop := ∀ s, (x s).1 ≠ .error e

theorem Avoids.pure (a : α) : (pure a : Action σ ε α).Avoids e := by
  intro s
  simp [pure_apply]

theorem Avoids.failIf {e' : ε} (c : Prop) [Decidable c] (other : e' ≠ e) :
    (Action.failIf c e' : Action σ ε Unit).Avoids e := by
  intro s
  by_cases holds : c
  · simp [failIf_pos holds, other]
  · simp [failIf_neg holds]

theorem Avoids.ofExcept (other : r ≠ .error e) : (Action.ofExcept r : Action σ ε α).Avoids e :=
  fun _ => other

theorem Avoids.statement [DriverError ε] {f : σ → Except ε (α × σ)} (driver : DriverError.failed ≠ e)
    (other : ∀ db, f db ≠ .error e) : (Action.statement f).Avoids e := by
  intro s
  unfold Action.statement
  split
  · simp [driver]
  · split
    · simp
    · rename_i e' failed
      have differs := other s.db
      rw [failed] at differs
      simpa using differs

theorem Avoids.bind (head : x.Avoids e) (rest : ∀ a, (f a).Avoids e) : (x >>= f).Avoids e := by
  intro s
  have first := head s
  rw [bind_apply]
  split
  · exact rest _ _
  · rename_i e' s' failed
    rw [failed] at first
    simpa using first

theorem Avoids.require [DriverError ε] {e' : ε} (f : σ → Option α) (driver : DriverError.failed ≠ e)
    (other : e' ≠ e) : (Action.require f e').Avoids e := by
  refine .statement driver fun db => ?_
  split <;> simp [other]

/-- What follows an action cannot add an error that it avoids. -/
theorem bind_error_iff (rest : ∀ a, (f a).Avoids e) : ((x >>= f) s).1 ≠ .error e ↔ (x s).1 ≠ .error e := by
  rw [bind_apply]
  split
  · rename_i a s' returned
    simpa [returned] using rest a s'
  · rename_i e' s' failed
    simp [failed]

/-- A body that wrote nothing needs no rollback. -/
theorem transaction_run {r : Except ε α × Session σ} (run : x s = r) (kept : r.2.db = s.db) : transaction x s = r := by
  obtain ⟨_ | _, s'⟩ := r
  · simp only at kept
    simp [transaction, run, ← kept]
  · simp [transaction, run]

/-- The outcome of a transaction is the outcome of its body. -/
theorem transaction_fst (x : Action σ ε α) (s : Session σ) : (transaction x s).1 = (x s).1 := by
  unfold transaction
  split <;> simp [*]

/-- A failure of the action leaves no trace. -/
def Atomic (x : Action σ ε α) : Prop := ∀ db e db', x.Fails db e db' → db' = db

theorem ReadOnly.atomic (reads : x.ReadOnly) : x.Atomic :=
  fun _ e _ failed => reads.leaves (Or.inr ⟨e, failed⟩)

theorem Atomic.transaction (x : Action σ ε α) : (Action.transaction x).Atomic := fun _ _ _ failed => failed.transaction

/-- Reads may precede an atomic action. -/
theorem Atomic.read (reads : x.ReadOnly) (rest : ∀ a, (f a).Atomic) : (x >>= f).Atomic := by
  intro db e db' failed
  rcases failed.bind with early | ⟨a, mid, head, late⟩
  · exact reads.atomic db e db' early
  · obtain rfl := reads.returns head
    exact rest a mid e db' late

theorem Atomic.pure (a : α) : (pure a : Action σ ε α).Atomic := fun _ _ _ failed => absurd failed Fails.pure

theorem Atomic.map (atomic : x.Atomic) (f : α → β) : (x >>= fun a => Pure.pure (f a)).Atomic := by
  intro db e db' failed
  rcases failed.bind with early | ⟨a, mid, -, late⟩
  · exact atomic db e db' early
  · exact absurd late Fails.pure

theorem Atomic.ite [Decidable c] {y : Action σ ε α} (first : x.Atomic) (second : y.Atomic) :
    (if c then x else y).Atomic := by
  split
  · exact first
  · exact second

theorem Atomic.leaves (atomic : x.Atomic) (run : x.Leaves db db') : db' = db ∨ ∃ a, x.Returns db a db' := by
  rcases run with returned | ⟨e, failed⟩
  · exact Or.inr returned
  · exact Or.inl (atomic db e db' failed)

/-- The action succeeds when every statement is executed. -/
def Completes (x : Action σ ε α) (db : σ) (a : α) (db' : σ) : Prop := x ⟨db, []⟩ = (.ok a, ⟨db', []⟩)

theorem Completes.returns (run : x.Completes db a db') : x.Returns db a db' :=
  ⟨[], [], run⟩

theorem Completes.pure (a : α) (db : σ) : (Pure.pure a : Action σ ε α).Completes db a db := rfl

theorem Completes.bind {mid : σ}
    (first : x.Completes db a mid) (rest : (f a).Completes mid b db') : (x >>= f).Completes db b db' :=
  (bind_ok first).trans rest

theorem Completes.failIf [Decidable c] (passes : ¬c) (e : ε) (db : σ) :
    (Action.failIf c e : Action σ ε Unit).Completes db () db :=
  failIf_neg passes e _

theorem Completes.onlyIf_pos [Decidable c] {x : Action σ ε Unit} (holds : c)
    (run : x.Completes db () db') : (Action.onlyIf c x).Completes db () db' := by
  unfold Action.onlyIf
  rw [if_pos holds]
  exact run

theorem Completes.onlyIf_neg [Decidable c] (x : Action σ ε Unit) (db : σ) (fails : ¬c) :
    (Action.onlyIf c x).Completes db () db := by
  unfold Action.onlyIf
  rw [if_neg fails]
  rfl

theorem Completes.mapError (run : x.Completes db a db') (f : ε → ε) : (Action.mapError f x).Completes db a db' := by
  unfold Completes Action.mapError
  rw [run]

theorem Completes.transaction (run : x.Completes db a db') : (Action.transaction x).Completes db a db' := by
  unfold Completes Action.transaction
  rw [run]

theorem Completes.attempt (run : x.Completes db a db') : (Action.attempt x).Completes db (.ok a) db' := by
  unfold Completes Action.attempt
  rw [run]

/-- The action keeps an invariant of the database, whether it succeeds or not. -/
def Maintains (inv : σ → Prop) (x : Action σ ε α) : Prop := ∀ s, inv s.db → inv (x s).2.db

theorem Maintains.of_leaves (step : ∀ db db', inv db → x.Leaves db db' → inv db') : x.Maintains inv :=
  fun s holds => step s.db _ holds (leaves_run x s)

/-- What an invariant does not look at may change. -/
theorem Keeps.maintains (keeps : x.Keeps g) (seen : ∀ db db', g db' = g db → inv db → inv db') : x.Maintains inv :=
  fun s holds => seen s.db _ (keeps s) holds

theorem Maintains.pure (a : α) : (pure a : Action σ ε α).Maintains inv := fun _ holds => holds

theorem Maintains.bind (head : x.Maintains inv) (rest : ∀ a, (f a).Maintains inv) : (x >>= f).Maintains inv := by
  intro s holds
  have first := head s holds
  rw [bind_apply]
  split
  · rename_i a s' result
    rw [result] at first
    exact rest a s' first
  · rename_i e s' result
    rw [result] at first
    exact first

theorem ReadOnly.maintains (reads : x.ReadOnly) : x.Maintains inv :=
  Keeps.maintains reads fun db db' (same : db' = db) holds => same ▸ holds

theorem Maintains.ofExcept_bind
    (rest : ∀ a, r = .ok a → (f a).Maintains inv) : (Action.ofExcept r >>= f).Maintains inv := by
  cases r with
  | error e => exact fun _ holds => holds
  | ok a => exact rest a rfl

/-- A transaction that is rolled back leaves everything as it was. -/
theorem Maintains.transaction (maintains : x.Maintains inv) : (Action.transaction x).Maintains inv := by
  intro s holds
  have after := maintains s holds
  unfold Action.transaction
  split
  · rename_i result
    rw [result] at after
    exact after
  · exact holds

end Action
end Store
