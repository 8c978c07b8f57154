import LLMHub.Store.Statement

namespace Store

open HasTable (table withTable)

/-- A transaction as the statements it sends, each chosen from what the ones
before it have shown. A statement looks at the rows as its transaction sees
them; it takes locks, writes, and says how the transaction goes on. The write
is a function of the rows, to be replayed on top of what others have committed
in the meantime; the rows it concerns are fixed when the statement runs. -/
inductive Program (σ κ ε α : Type)
  | done (a : α)
  | fail (e : ε)
  | next (locks : σ → List κ) (effect : σ → σ → σ) (rest : σ → Program σ κ ε α)

namespace Program
variable {σ κ ε α β : Type}

protected def bind : Program σ κ ε α → (α → Program σ κ ε β) → Program σ κ ε β
  | done a, f => f a
  | fail e, _ => fail e
  | next locks effect rest, f => next locks effect fun view => (rest view).bind f

instance : Monad (Program σ κ ε) where
  pure := done
  bind := Program.bind

/-- The program alone on the database: the answer, and the rows as the
transaction sees them at its end. -/
def run : Program σ κ ε α → σ → Except ε α × σ
  | done a, view => (.ok a, view)
  | fail e, view => (.error e, view)
  | next _ effect rest, view => (rest view).run (effect view view)

theorem run_bind (p : Program σ κ ε α) (f : α → Program σ κ ε β) (view : σ) :
    (p >>= f).run view = match p.run view with
      | (.ok a, after) => (f a).run after
      | (.error e, after) => (.error e, after) := by
  induction p generalizing view with
  | done a => rfl
  | fail e => rfl
  | next locks effect rest ih => exact ih view (effect view view)

theorem bind_assoc {δ : Type} (p : Program σ κ ε α) (f : α → Program σ κ ε β) (g : β → Program σ κ ε δ) :
    p >>= f >>= g = p >>= fun a => f a >>= g := by
  induction p with
  | done a => rfl
  | fail e => rfl
  | next locks effect rest ih => exact congrArg _ (funext ih)

/-- The program may return `a`, and then leaves `after`. -/
def Gives (p : Program σ κ ε α) (view : σ) (a : α) (after : σ) : Prop := p.run view = (.ok a, after)

theorem Gives.bind {p : Program σ κ ε α} {f : α → Program σ κ ε β} {view after : σ} {b : β}
    (run : (p >>= f).Gives view b after) : ∃ a mid, p.Gives view a mid ∧ (f a).Gives mid b after := by
  unfold Gives at run
  rw [run_bind] at run
  split at run
  · rename_i a mid head
    exact ⟨a, mid, head, run⟩
  · simp at run

/-- A first part that writes nothing. -/
theorem Gives.read {p : Program σ κ ε α} {f : α → Program σ κ ε β} {view after : σ} {b : β} {Q : α → Prop}
    (run : (p >>= f).Gives view b after) (still : ∀ a mid, p.Gives view a mid → Q a ∧ mid = view) :
    ∃ a, Q a ∧ (f a).Gives view b after := by
  obtain ⟨a, mid, head, tail⟩ := run.bind
  obtain ⟨shown, same⟩ := still a mid head
  exact ⟨a, shown, same ▸ tail⟩

variable {a : α} {e : ε}

theorem Gives.pure {b : α} {view after : σ} (run : (pure a : Program σ κ ε α).Gives view b after) :
    b = a ∧ after = view := by
  cases run
  exact ⟨rfl, rfl⟩

theorem Gives.fail {view after : σ} (run : (Program.fail e : Program σ κ ε α).Gives view a after) : False := by
  cases run

def failIf (c : Prop) [Decidable c] (e : ε) : Program σ κ ε Unit := if c then fail e else pure ()

def onlyIf (c : Prop) [Decidable c] (p : Program σ κ ε Unit) : Program σ κ ε Unit := if c then p else pure ()

def ofExcept : Except ε α → Program σ κ ε α
  | .ok a => done a
  | .error e => fail e

theorem Gives.failIf {c : Prop} [Decidable c] {u : Unit} {view after : σ}
    (run : (Program.failIf c e : Program σ κ ε Unit).Gives view u after) : ¬c ∧ after = view := by
  unfold Program.failIf at run
  split at run
  · exact absurd run Gives.fail
  · exact ⟨by assumption, run.pure.2⟩

theorem Gives.onlyIf {c : Prop} [Decidable c] {p : Program σ κ ε Unit} {u : Unit} {view after : σ}
    (run : (Program.onlyIf c p).Gives view u after) : (c ∧ p.Gives view u after) ∨ (¬c ∧ after = view) := by
  unfold Program.onlyIf at run
  split at run
  · exact Or.inl ⟨by assumption, run⟩
  · exact Or.inr ⟨by assumption, run.pure.2⟩

theorem Gives.ofExcept {r : Except ε α} {view after : σ}
    (run : (Program.ofExcept r : Program σ κ ε α).Gives view a after) : r = .ok a ∧ after = view := by
  cases r with
  | error e => exact absurd run Gives.fail
  | ok b =>
    obtain ⟨rfl, rfl⟩ := Gives.pure run
    exact ⟨rfl, rfl⟩

def ofOption (e : ε) : Option α → Program σ κ ε α
  | some a => done a
  | none => fail e

theorem Gives.ofOption {r : Option α} {view after : σ}
    (run : (Program.ofOption e r : Program σ κ ε α).Gives view a after) : r = some a ∧ after = view := by
  cases r with
  | none => exact absurd run Gives.fail
  | some b =>
    obtain ⟨rfl, rfl⟩ := Gives.pure run
    exact ⟨rfl, rfl⟩

def query (f : σ → α) : Program σ κ ε α := next (fun _ => []) (fun _ db => db) fun view => done (f view)

/-- A query whose answer may be missing. -/
def require (f : σ → Option α) (e : ε) : Program σ κ ε α := next (fun _ => []) (fun _ db => db) fun view =>
  ofOption e (f view)

theorem Gives.query {f : σ → α} {view after : σ} (run : (Program.query f : Program σ κ ε α).Gives view a after) :
    a = f view ∧ after = view := by
  cases run
  exact ⟨rfl, rfl⟩

theorem Gives.require {f : σ → Option α} {view after : σ}
    (run : (Program.require f e : Program σ κ ε α).Gives view a after) : f view = some a ∧ after = view :=
  Gives.ofOption run

section Rows
variable [Record α] [HasTable σ α]

/-- `First` without a lock. -/
def findOr (p : α → Bool) (e : ε) : Program σ κ ε α := require (fun view => (table view).first p) e

def find (p : α → Bool) : Program σ κ ε (Option α) := query fun view => (table view).first p

def countWhere (p : α → Bool) : Program σ κ ε Nat := query fun view => (table view).count p

variable (key : α → κ)

/-- `FOR UPDATE` with `First`: the row that is found is locked. -/
def lockFirst (p : α → Bool) (e : ε) : Program σ κ ε α :=
  next (fun view => (((table view).first p).map key).toList) (fun _ db => db) fun view =>
    ofOption e ((table view).first p)

/-- `FOR UPDATE` with `Find`: all rows of the answer are locked. -/
def lockAll (p : α → Bool) : Program σ κ ε (List α) :=
  next (fun view => ((table view).rows.filter p).map key) (fun _ db => db) fun view =>
    done ((table view).rows.filter p)

/-- The rows a statement found are the ones with its ids. -/
def idsWhere (t : Table α) (p : α → Bool) : List Int := (t.rows.filter p).map Record.id

/-- An update locks the rows it matches, and changes those. -/
def updateWhere (p : α → Bool) (f : Table.Assignment α) : Program σ κ ε Unit :=
  next (fun view => ((table view).rows.filter p).map key)
    (fun view db => withTable db ((table db).update
      (fun x => decide (Record.id x ∈ idsWhere (table view) p)) f))
    fun _ => done ()

def deleteWhere (p : α → Bool) : Program σ κ ε Unit :=
  next (fun view => ((table view).rows.filter p).map key)
    (fun view db => withTable db ((table db).delete
      fun x : α => decide (Record.id x ∈ idsWhere (table view) p)))
    fun _ => done ()

def withRow (x : α) (db : σ) : σ :=
  match (table db).insert x with
  | some (_, t) => withTable db t
  | none => db

theorem withRow_of_insert {x y : α} {db : σ} {t : Table α} (stored : (table db).insert x = some (y, t)) :
    withRow x db = withTable db t := by
  simp only [withRow, stored]

theorem withRow_of_none {x : α} {db : σ} (taken : (table db).insert x = none) : withRow x db = db := by
  simp only [withRow, taken]

/-- An insert holds the locks of the unique values it claims. The answer is the
row as stored, or nothing when a unique value is taken. -/
def insertRow (keys : List κ) (x : α) : Program σ κ ε (Option α) :=
  next (fun _ => keys) (fun _ db => withRow x db) fun view =>
    done (((table view).insert x).map Prod.fst)

/-- `Create`, with a taken unique value as error `e`. -/
def create (keys : List κ) (x : α) (e : ε) : Program σ κ ε α := insertRow keys x >>= ofOption e

variable {key} {p : α → Bool} {view after : σ}

theorem mem_idsWhere {t : Table α} {x : α} (member : x ∈ t.rows) : decide (Record.id x ∈ idsWhere t p) = p x := by
  rw [Bool.eq_iff_iff, decide_eq_true_iff, idsWhere, List.mem_map]
  constructor
  · rintro ⟨y, inside, same⟩
    obtain ⟨stored, hit⟩ := List.mem_filter.mp inside
    exact Table.eq_of_id stored member same ▸ hit
  · intro hit
    exact ⟨x, List.mem_filter.mpr ⟨member, hit⟩, rfl⟩

theorem Gives.findOr {row : α} (run : (Program.findOr p e : Program σ κ ε α).Gives view row after) :
    (table view).first p = some row ∧ after = view :=
  run.require

theorem Gives.find {row : Option α} (run : (Program.find p : Program σ κ ε (Option α)).Gives view row after) :
    row = (table view).first p ∧ after = view :=
  run.query

theorem Gives.countWhere {n : Nat} (run : (Program.countWhere p : Program σ κ ε Nat).Gives view n after) :
    n = (table view).count p ∧ after = view :=
  run.query

theorem Gives.lockFirst {row : α} (run : (Program.lockFirst key p e : Program σ κ ε α).Gives view row after) :
    (table view).first p = some row ∧ after = view :=
  Gives.ofOption run

theorem Gives.lockAll {rows : List α} (run : (Program.lockAll key p : Program σ κ ε (List α)).Gives view rows after) :
    rows = (table view).rows.filter p ∧ after = view := by
  cases run
  exact ⟨rfl, rfl⟩

theorem Gives.updateWhere {f : Table.Assignment α} {u : Unit}
    (run : (Program.updateWhere key p f : Program σ κ ε Unit).Gives view u after) :
    after = withTable view ((table view).update p f) := by
  cases run
  exact congrArg _ (Table.update_congr f fun x member => mem_idsWhere member)

theorem Gives.deleteWhere {u : Unit} (run : (Program.deleteWhere key p : Program σ κ ε Unit).Gives view u after) :
    after = withTable view ((table view).delete p) := by
  cases run
  exact congrArg _ (Table.delete_congr fun x member => mem_idsWhere member)

theorem Gives.insertRow {keys : List κ} {x : α} {r : Option α}
    (run : (Program.insertRow keys x : Program σ κ ε (Option α)).Gives view r after) :
    (∃ y t, r = some y ∧ (table view).insert x = some (y, t) ∧ after = withTable view t) ∨
      (r = none ∧ (table view).insert x = none ∧ after = view) := by
  cases run
  change _ ∨ (_ ∧ _ ∧ withRow x view = view)
  cases stored : (table view).insert x with
  | none => exact Or.inr ⟨rfl, rfl, withRow_of_none stored⟩
  | some fresh => exact Or.inl ⟨fresh.1, fresh.2, rfl, rfl, withRow_of_insert stored⟩

theorem Gives.create {keys : List κ} {x y : α} (run : (Program.create keys x e : Program σ κ ε α).Gives view y after) :
    ∃ t, (table view).insert x = some (y, t) ∧ after = withTable view t := by
  obtain ⟨r, mid, stored, rest⟩ := run.bind
  obtain ⟨rfl, rfl⟩ := Gives.ofOption rest
  rcases stored.insertRow with ⟨z, t, same, inserted, written⟩ | ⟨none, -⟩
  · cases same
    exact ⟨t, inserted, written⟩
  · cases none

end Rows
end Program
end Store
