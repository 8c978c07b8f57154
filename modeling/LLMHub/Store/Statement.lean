import LLMHub.Store.Action

namespace Store

/-- A database that stores rows of type `α` in one of its tables. -/
class HasTable (σ α : Type) [Record α] where
  table : σ → Table α
  withTable : σ → Table α → σ
  table_withTable : ∀ db t, table (withTable db t) = t

open HasTable (table withTable)

namespace Action
variable {σ ε α : Type} [Record α] [HasTable σ α] [DriverError ε]

/-- `First` with the missing row as a value. -/
def find (p : α → Bool) : Action σ ε (Option α) := query fun db => (table db).first p

/-- `First` with the missing row as error `e`. -/
def findOr (p : α → Bool) (e : ε) : Action σ ε α := require (fun db => (table db).first p) e

/-- `Find` in primary-key order. -/
def findAll (p : α → Bool) : Action σ ε (List α) := query fun db => (table db).rows.filter p

def countWhere (p : α → Bool) : Action σ ε Nat := query fun db => (table db).count p

def sumWhere (p : α → Bool) (v : α → Int) : Action σ ε Int := query fun db => (table db).sum p v

/-- `Updates`, returning the number of matched rows. -/
def updateWhere (p : α → Bool) (f : Table.Assignment α) : Action σ ε Nat := execute fun db =>
  ((table db).count p, withTable db ((table db).update p f))

/-- `Create` under `ON CONFLICT DO NOTHING`: the stored row, or nothing when
the unique column is taken. -/
def insertRow (x : α) : Action σ ε (Option α) := execute fun db =>
  match (table db).insert x with
  | some (y, t) => (some y, withTable db t)
  | none => (none, db)

/-- `Create`, with a taken unique column as error `e`. -/
def create (x : α) (e : ε) : Action σ ε α := statement fun db =>
  match (table db).insert x with
  | some (y, t) => .ok (y, withTable db t)
  | none => .error e

variable {p : α → Bool} {db db' : σ} {x : α} {e : ε} {f : Table.Assignment α} {β : Type} {b : β} {g : σ → β}

theorem findOr_run (found : (table db).first p = some x) (e : ε) :
    (findOr p e : Action σ ε α) ⟨db, []⟩ = (.ok x, ⟨db, []⟩) :=
  require_run (f := fun db => (table db).first p) found e

theorem find_run (p : α → Bool) (db : σ) :
    (find p : Action σ ε (Option α)) ⟨db, []⟩ = (.ok ((table db).first p), ⟨db, []⟩) := rfl

theorem insertRow_taken (taken : (table db).insert x = none) :
    (insertRow x : Action σ ε (Option α)) ⟨db, []⟩ = (.ok none, ⟨db, []⟩) := by
  simp [insertRow, execute, statement, taken]

/-- A statement that is executed. -/
theorem updateWhere_executed {s : Session σ} (executed : s.faults.headD false = false) (p : α → Bool)
    (f : Table.Assignment α) :
    (updateWhere p f : Action σ ε Nat) s = (.ok ((table s.db).count p),
      ⟨withTable s.db ((table s.db).update p f), s.faults.tail⟩) := by
  rw [updateWhere, execute, statement, if_neg (by rw [executed]; decide)]

theorem Returns.find {r : Option α} (run : (Action.find p : Action σ ε (Option α)).Returns db r db') :
    r = (table db).first p ∧ db' = db :=
  run.query

theorem Returns.findOr (run : (Action.findOr p e : Action σ ε α).Returns db x db') :
    (table db).first p = some x ∧ db' = db :=
  run.require

theorem Returns.updateWhere {n : Nat} (run : (Action.updateWhere p f : Action σ ε Nat).Returns db n db') :
    n = (table db).count p ∧ db' = withTable db ((table db).update p f) := by
  have result := run.execute
  cases result
  exact ⟨rfl, rfl⟩

theorem Fails.updateWhere (run : (Action.updateWhere p f : Action σ ε Nat).Fails db e db') : db' = db :=
  run.execute

theorem Returns.insertRow {r : Option α} (run : (Action.insertRow x : Action σ ε (Option α)).Returns db r db') :
    (∃ y t, r = some y ∧ (table db).insert x = some (y, t) ∧ db' = withTable db t) ∨
      (r = none ∧ (table db).insert x = none ∧ db' = db) := by
  have result := run.execute
  split at result
  · rename_i y t stored
    cases result
    exact Or.inl ⟨y, t, rfl, stored, rfl⟩
  · rename_i refused
    cases result
    exact Or.inr ⟨rfl, refused, rfl⟩

theorem Returns.create {y : α} (run : (Action.create x e : Action σ ε α).Returns db y db') :
    ∃ t, (table db).insert x = some (y, t) ∧ db' = withTable db t := by
  have result := run.statement
  split at result
  · rename_i z t stored
    cases result
    exact ⟨t, stored, rfl⟩
  · simp at result

theorem Returns.findOr_bind {f : α → Action σ ε β} (run : (Action.findOr p e >>= f).Returns db b db') :
    ∃ x, (table db).first p = some x ∧ (f x).Returns db b db' :=
  run.require_bind

theorem Returns.find_bind {f : Option α → Action σ ε β}
    (run : (Action.find p >>= f).Returns db b db') : (f ((table db).first p)).Returns db b db' :=
  run.query_bind

theorem Returns.countWhere_bind {f : Nat → Action σ ε β}
    (run : (Action.countWhere p >>= f).Returns db b db') : (f ((table db).count p)).Returns db b db' :=
  run.query_bind

theorem Returns.sumWhere_bind {v : α → Int} {f : Int → Action σ ε β}
    (run : (Action.sumWhere p v >>= f).Returns db b db') : (f ((table db).sum p v)).Returns db b db' :=
  run.query_bind

theorem Returns.updateWhere_bind {g : Table.Assignment α} {f : Nat → Action σ ε β}
    (run : (Action.updateWhere p g >>= f).Returns db b db') :
    (f ((table db).count p)).Returns (withTable db ((table db).update p g)) b db' := by
  obtain ⟨n, mid, head, rest⟩ := run.bind
  obtain ⟨rfl, rfl⟩ := head.updateWhere
  exact rest

theorem Returns.create_bind {f : α → Action σ ε β} (run : (Action.create x e >>= f).Returns db b db') :
    ∃ y t, (table db).insert x = some (y, t) ∧ (f y).Returns (withTable db t) b db' := by
  obtain ⟨y, mid, head, rest⟩ := run.bind
  obtain ⟨t, stored, rfl⟩ := head.create
  exact ⟨y, t, stored, rest⟩

theorem Leaves.create (run : (Action.create x e : Action σ ε α).Leaves db db') :
    db' = db ∨ ∃ y t, (table db).insert x = some (y, t) ∧ db' = withTable db t := by
  rcases run with ⟨y, returned⟩ | ⟨_, failed⟩
  · exact Or.inr ⟨y, returned.create⟩
  · exact Or.inl failed.statement

theorem Atomic.updateWhere (p : α → Bool) (f : Table.Assignment α) : (Action.updateWhere p f : Action σ ε Nat).Atomic :=
  fun _ _ _ failed => failed.updateWhere

theorem Keeps.find (p : α → Bool) : (Action.find p : Action σ ε (Option α)).Keeps g := .query _

theorem Keeps.findOr (p : α → Bool) (e : ε) : (Action.findOr p e : Action σ ε α).Keeps g :=
  .require _ e

theorem Keeps.update (same : ∀ db : σ, g (withTable db ((table db).update p f)) = g db) :
    (Action.updateWhere p f : Action σ ε Nat).Keeps g := by
  intro s
  unfold Action.updateWhere Action.execute Action.statement
  split
  · rfl
  · exact same _

/-- Writing a table changes nothing for those who do not look at it. -/
theorem Keeps.updateWhere (p : α → Bool) (f : Table.Assignment α)
    (apart : ∀ db t, g (withTable db (t : Table α)) = g db) :
    (Action.updateWhere p f : Action σ ε Nat).Keeps g :=
  .update fun _ => apart _ _

theorem Keeps.insertRow (x : α) (apart : ∀ db t, g (withTable db (t : Table α)) = g db) :
    (Action.insertRow x : Action σ ε (Option α)).Keeps g := by
  intro s
  unfold Action.insertRow Action.execute Action.statement
  split
  · rfl
  · cases stored : (table s.db).insert x with
    | none => simp [stored]
    | some entry => simpa [stored] using apart _ _

theorem Keeps.create (x : α) (e : ε)
    (apart : ∀ db t, g (withTable db (t : Table α)) = g db) : (Action.create x e : Action σ ε α).Keeps g := by
  intro s
  unfold Action.create Action.statement
  split
  · rfl
  · cases stored : (table s.db).insert x with
    | none => simp [stored]
    | some entry => simpa [stored] using apart _ _

theorem Avoids.create {e' : ε} (x : α) (driver : DriverError.failed ≠ e) (other : e' ≠ e) :
    (Action.create x e' : Action σ ε α).Avoids e := by
  refine .statement driver fun db => ?_
  split <;> simp [other]

theorem Avoids.updateWhere (p : α → Bool) (f : Table.Assignment α) (driver : DriverError.failed ≠ e) :
    (Action.updateWhere p f : Action σ ε Nat).Avoids e :=
  .statement driver fun _ => by simp

theorem Completes.findOr (found : (table db).first p = some x) (e : ε) :
    (Action.findOr p e : Action σ ε α).Completes db x db :=
  findOr_run found e

theorem Completes.findAll (p : α → Bool) (db : σ) :
    (Action.findAll p : Action σ ε (List α)).Completes db ((table db).rows.filter p) db :=
  query_run _ db

theorem Completes.updateWhere (p : α → Bool) (f : Table.Assignment α) (db : σ) :
    (Action.updateWhere p f : Action σ ε Nat).Completes db ((table db).count p)
      (withTable db ((table db).update p f)) :=
  updateWhere_executed rfl p f

end Action
end Store
