import LLMHub.Store.Statement

namespace Store

/-- How a database may develop: a relation that allows standing still and taking
one development after another. -/
structure Allowance (σ : Type) where
  rel : σ → σ → Prop
  refl : ∀ db, rel db db
  trans : ∀ {db mid db'}, rel db mid → rel mid db' → rel db db'

namespace Action
variable {σ ε α β : Type} {r : Allowance σ}

/-- Whatever the action does, failing included, it stays inside the allowance. -/
def Within (r : Allowance σ) (x : Action σ ε α) : Prop := ∀ db db', x.Leaves db db' → r.rel db db'

variable {x : Action σ ε α}

theorem Within.returns (within : x.Within r) {a : α} {db db' : σ} (run : x.Returns db a db') : r.rel db db' :=
  within db db' (Or.inl ⟨a, run⟩)

theorem Within.readOnly (reads : x.ReadOnly) : x.Within r := by
  intro db db' left
  rw [reads.leaves left]
  exact r.refl db

theorem Within.pure (a : α) : (pure a : Action σ ε α).Within r := .readOnly (.pure a)

theorem Within.fail (e : ε) : (Action.fail e : Action σ ε α).Within r := .readOnly (.fail e)

theorem Within.failIf (c : Prop) [Decidable c] (e : ε) : (Action.failIf c e : Action σ ε Unit).Within r :=
  .readOnly (.failIf c e)

theorem Within.ofExcept (result : Except ε α) : (Action.ofExcept result : Action σ ε α).Within r :=
  .readOnly (.ofExcept result)

theorem Within.bind {f : α → Action σ ε β} (head : x.Within r) (rest : ∀ a, (f a).Within r) : (x >>= f).Within r := by
  intro db db' left
  rcases left.bind with ⟨e, failed⟩ | ⟨a, mid, first, second⟩
  · exact head db db' (Or.inr ⟨e, failed⟩)
  · exact r.trans (head.returns first) (rest a mid db' second)

/-- A check that passes is known to the continuation. -/
theorem Within.failIf_bind {c : Prop} [Decidable c] {e : ε} {f : Unit → Action σ ε β} (rest : ¬c → (f ()).Within r) :
    (Action.failIf c e >>= f).Within r := by
  intro db db' left
  rcases left.bind with ⟨e, failed⟩ | ⟨_, mid, checked, second⟩
  · rw [failed.failIf.2.2]
    exact r.refl db
  · obtain ⟨passed, same⟩ := checked.failIf
    rw [same] at second
    exact rest passed db db' second

theorem Within.ite {c : Prop} [Decidable c] {y : Action σ ε α} (first : c → x.Within r) (second : ¬c → y.Within r) :
    (if c then x else y).Within r := by
  split
  · rename_i holds
    exact first holds
  · rename_i fails
    exact second fails

theorem Within.onlyIf {c : Prop} [Decidable c] {x : Action σ ε Unit} (within : c → x.Within r) :
    (Action.onlyIf c x).Within r := by
  unfold Action.onlyIf
  split
  · rename_i holds
    exact within holds
  · exact .pure ()

theorem Within.attempt (within : x.Within r) : (Action.attempt x).Within r := by
  rintro db db' (⟨result, run⟩ | ⟨e, failed⟩)
  · rcases run.attempt with ⟨a, -, returned⟩ | ⟨e, -, failed⟩
    · exact within.returns returned
    · exact within db db' (Or.inr ⟨e, failed⟩)
  · exact absurd failed Fails.attempt

theorem Within.mapError (within : x.Within r) (f : ε → ε) : (Action.mapError f x).Within r :=
  fun db db' left => within db db' left.mapError

theorem Within.transaction (within : x.Within r) : (Action.transaction x).Within r := by
  intro db db' left
  rcases left.transaction with ⟨a, returned⟩ | rfl
  · exact within.returns returned
  · exact r.refl _

theorem Within.updateWhere {γ : Type} [Record γ] [HasTable σ γ] [DriverError ε] {p : γ → Bool} {f : Table.Assignment γ}
    (allowed : ∀ db : σ, r.rel db (HasTable.withTable db ((HasTable.table db).update p f))) :
    (Action.updateWhere p f : Action σ ε Nat).Within r := by
  rintro db db' (⟨n, run⟩ | ⟨e, failed⟩)
  · rw [run.updateWhere.2]
    exact allowed db
  · rw [failed.updateWhere]
    exact r.refl db

theorem Within.insertRow {γ : Type} [Record γ] [HasTable σ γ] [DriverError ε] {x : γ}
    (allowed : ∀ (db : σ) y t, (HasTable.table db).insert x = some (y, t) → r.rel db (HasTable.withTable db t)) :
    (Action.insertRow x : Action σ ε (Option γ)).Within r := by
  rintro db db' (⟨result, run⟩ | ⟨e, failed⟩)
  · rcases run.insertRow with ⟨y, t, -, stored, rfl⟩ | ⟨-, -, rfl⟩
    · exact allowed db y t stored
    · exact r.refl _
  · rw [Fails.execute failed]
    exact r.refl db

theorem Within.create {γ : Type} [Record γ] [HasTable σ γ] [DriverError ε] {x : γ} {e : ε}
    (allowed : ∀ (db : σ) y t, (HasTable.table db).insert x = some (y, t) → r.rel db (HasTable.withTable db t)) :
    (Action.create x e : Action σ ε γ).Within r := by
  intro db db' left
  rcases left.create with rfl | ⟨y, t, stored, rfl⟩
  · exact r.refl _
  · exact allowed db y t stored

/-- What keeps a view of the database develops nothing that the view decides. -/
theorem Within.keeps {view : σ → β} (keeps : x.Keeps view)
    (allowed : ∀ db db', view db' = view db → r.rel db db') : x.Within r :=
  fun db db' left => allowed db db' (keeps.leaves left)

/-- A transaction whose failure is noted in a statement of its own: it took
place, or at most the note did. -/
theorem Leaves.noted {f : Except ε α → Action σ ε α} {note : ε → Action σ ε Unit} {db db' : σ}
    (left : (Action.attempt (Action.transaction x) >>= f).Leaves db db') (ok : ∀ a, f (.ok a) = Pure.pure a)
    (error : ∀ cause, f (.error cause) = note cause >>= fun _ => Action.fail cause) :
    (∃ a, x.Returns db a db') ∨ ∃ cause, (note cause).Leaves db db' := by
  rcases left.bind with ⟨e, failed⟩ | ⟨result, mid, tried, rest⟩
  · exact absurd failed Fails.attempt
  rcases tried.attempt with ⟨a, rfl, returned⟩ | ⟨cause, rfl, failed⟩
  · rw [ok] at rest
    rw [ReadOnly.leaves (.pure a) rest]
    exact Or.inl ⟨a, returned.transaction⟩
  · rw [failed.transaction, error] at rest
    exact Or.inr ⟨cause, rest.then_readOnly fun _ => .fail _⟩

theorem Within.noted {f : Except ε α → Action σ ε α} {note : ε → Action σ ε Unit} (body : x.Within r)
    (noting : ∀ cause, (note cause).Within r) (ok : ∀ a, f (.ok a) = Pure.pure a)
    (error : ∀ cause, f (.error cause) = note cause >>= fun _ => Action.fail cause) :
    (Action.attempt (Action.transaction x) >>= f).Within r := by
  refine .bind (.attempt (.transaction body)) fun result => ?_
  cases result with
  | ok a =>
    rw [ok]
    exact .pure a
  | error cause =>
    rw [error]
    exact .bind (noting cause) fun _ => .fail _

/-- A write whose own failure is only logged. -/
theorem Leaves.logged {γ : Type} [Record γ] [HasTable σ γ] [DriverError ε] {p : γ → Bool} {f : Table.Assignment γ}
    {db db' : σ}
    (left : (do
      let _ ← Action.attempt (Action.updateWhere p f)
      Pure.pure () : Action σ ε Unit).Leaves db db') :
    db' = db ∨ db' = HasTable.withTable db ((HasTable.table db).update p f) := by
  rcases left.bind with ⟨e, failed⟩ | ⟨result, mid, tried, rest⟩
  · exact absurd failed Fails.attempt
  rw [ReadOnly.leaves (.pure ()) rest]
  rcases tried.attempt with ⟨n, -, written⟩ | ⟨e, -, failed⟩
  · exact Or.inr written.updateWhere.2
  · exact Or.inl failed.updateWhere

end Action
end Store
