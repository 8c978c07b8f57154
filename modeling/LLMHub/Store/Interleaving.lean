import LLMHub.Store.Program
import LLMHub.Store.Machine

namespace Store

/-- A transaction under way: what it still has to do, what it has written and
not committed, and the locks it holds. -/
structure Call (σ κ ε α γ : Type) where
  request : γ
  program : Program σ κ ε α
  effect : σ → σ
  held : List κ

/-- Transactions on one database. Nobody sees what another one has not
committed. -/
structure Interleaved (σ κ ε α γ : Type) where
  committed : σ
  active : List (Call σ κ ε α γ) := []
  finished : List (γ × Except ε α) := []

/-- The scheduler's choices. A transaction that is aborted, by the driver or as
the victim of a deadlock, leaves nothing. -/
inductive Schedule (γ : Type)
  | start (request : γ)
  | proceed (position : Nat)
  | abort (position : Nat)

variable {σ κ ε α γ : Type}

def Call.start (program : γ → Program σ κ ε α) (request : γ) : Call σ κ ε α γ := ⟨request, program request, id, []⟩

def Call.advance (call : Call σ κ ε α γ) (locks : σ → List κ) (effect : σ → σ → σ) (rest : σ → Program σ κ ε α) (view : σ) :
    Call σ κ ε α γ :=
  { call with
    program := rest view
    effect := fun db => effect view (call.effect db)
    held := call.held ++ locks view }

variable [DecidableEq κ]

/-- The next statement of a transaction, or its end. A statement that needs a
lock of another transaction waits. -/
def Interleaved.proceed (s : Interleaved σ κ ε α γ) (position : Nat) : Interleaved σ κ ε α γ :=
  match s.active[position]? with
  | none => s
  | some call =>
    match call.program with
    | .done a => ⟨call.effect s.committed, s.active.eraseIdx position, s.finished ++ [(call.request, .ok a)]⟩
    | .fail e => ⟨s.committed, s.active.eraseIdx position, s.finished ++ [(call.request, .error e)]⟩
    | .next locks effect rest =>
      let view := call.effect s.committed
      if (s.active.eraseIdx position).any fun other => (locks view).any fun key => decide (key ∈ other.held) then s
      else { s with active := s.active.set position (call.advance locks effect rest view) }

def interleaving (program : γ → Program σ κ ε α) : Machine (Interleaved σ κ ε α γ) (Schedule γ) where
  step s
    | .start request => { s with active := s.active ++ [Call.start program request] }
    | .proceed position => s.proceed position
    | .abort position => { s with active := s.active.eraseIdx position }

/-- What one choice of the scheduler can do. -/
inductive Moves (program : γ → Program σ κ ε α) (s : Interleaved σ κ ε α γ) : Schedule γ → Interleaved σ κ ε α γ → Prop
  | idle (choice : Schedule γ) : Moves program s choice s
  | start (request : γ) : Moves program s (.start request) { s with active := s.active ++ [Call.start program request] }
  | commit {position : Nat} {before after : List (Call σ κ ε α γ)} {call : Call σ κ ε α γ} {a : α} :
      s.active[position]? = some call → s.active = before ++ call :: after → call.program = .done a →
      Moves program s (.proceed position)
        ⟨call.effect s.committed, before ++ after, s.finished ++ [(call.request, .ok a)]⟩
  | leave {choice : Schedule γ} {before after : List (Call σ κ ε α γ)} {call : Call σ κ ε α γ}
      (answers : List (γ × Except ε α)) :
      s.active = before ++ call :: after → (∀ answer ∈ answers, ∃ e, answer.2 = .error e) →
      Moves program s choice ⟨s.committed, before ++ after, s.finished ++ answers⟩
  | advance {position : Nat} {before after : List (Call σ κ ε α γ)} {call : Call σ κ ε α γ} {locks : σ → List κ}
      {effect : σ → σ → σ} {rest : σ → Program σ κ ε α} :
      s.active[position]? = some call → s.active = before ++ call :: after → call.program = .next locks effect rest →
      (∀ other ∈ before ++ after, (locks (call.effect s.committed)).Disjoint other.held) →
      Moves program s (.proceed position) { s with
        active := before ++ call.advance locks effect rest (call.effect s.committed) :: after }

theorem interleaving_moves (program : γ → Program σ κ ε α) (s : Interleaved σ κ ε α γ) (choice : Schedule γ) :
    Moves program s choice ((interleaving program).step s choice) := by
  cases choice with
  | start request => exact .start request
  | abort position =>
    change Moves program s _ { s with active := s.active.eraseIdx position }
    cases found : s.active[position]? with
    | none =>
      rw [List.eraseIdx_of_length_le (List.getElem?_eq_none_iff.mp found)]
      exact .idle _
    | some call =>
      obtain ⟨before, after, split, erased, -⟩ := split_position found
      rw [erased]
      have left : Moves program s (.abort position) ⟨s.committed, before ++ after, s.finished ++ []⟩ :=
        .leave [] split (by simp)
      rwa [List.append_nil] at left
  | proceed position =>
    change Moves program s _ (s.proceed position)
    unfold Interleaved.proceed
    cases found : s.active[position]? with
    | none => exact .idle _
    | some call =>
      obtain ⟨before, after, split, erased, replaced⟩ := split_position found
      simp only
      cases ends : call.program with
      | done a =>
        simp only [erased]
        exact .commit found split ends
      | fail e =>
        simp only [erased]
        exact .leave _ split (by simp)
      | next locks effect rest =>
        simp only [erased, replaced]
        split
        · exact .idle _
        · rename_i free
          refine .advance found split ends fun other member key here held => free ?_
          exact List.any_eq_true.mpr ⟨other, member, List.any_eq_true.mpr ⟨key, here, decide_eq_true held⟩⟩

/-- A proof about every interleaving, from what each transaction does between
its own statements. `good` is what a transaction knows of the committed rows; it
survives the commits of others, which hold other locks. `compatible` says which
requests may be under way together, `fits` which statements are looked at. -/
structure Protocol (program : γ → Program σ κ ε α) where
  compatible : γ → γ → Prop
  fits : Call σ κ ε α γ → σ → Prop
  inv : σ → Prop
  good : Call σ κ ε α γ → σ → Prop
  result : γ → α → σ → Prop
  symm : ∀ c d, compatible c d → compatible d c
  start : ∀ c db, inv db → good (Call.start program c) db
  advance : ∀ call locks effect rest db, inv db → good call db → fits call db → call.program = .next locks effect rest →
    good (call.advance locks effect rest (call.effect db)) db
  commit : ∀ call a db, inv db → good call db → call.program = .done a →
    inv (call.effect db) ∧ result call.request a (call.effect db)
  stable : ∀ call other a db, inv db → good call db → good other db → other.program = .done a →
    call.held.Disjoint other.held → compatible call.request other.request → good call (other.effect db)
  kept : ∀ c answer other a db, inv db → result c answer db → good other db → other.program = .done a →
    result c answer (other.effect db)

namespace Protocol
variable {program : γ → Program σ κ ε α} (p : Protocol program)

/-- What holds of the committed rows, of the transactions under way, and of the
answers given. -/
structure Sound (s : Interleaved σ κ ε α γ) : Prop where
  inv : p.inv s.committed
  good : ∀ call ∈ s.active, p.good call s.committed
  apart : s.active.Pairwise fun c d => c.held.Disjoint d.held ∧ p.compatible c.request d.request
  answered : ∀ c a, (c, .ok a) ∈ s.finished → p.result c a s.committed

def Admits (s : Interleaved σ κ ε α γ) : Schedule γ → Prop
  | .start c => ∀ d ∈ s.active, p.compatible c d.request
  | .proceed position => ∀ call, s.active[position]? = some call → p.fits call s.committed
  | .abort _ => True

variable {p} {s : Interleaved σ κ ε α γ}

omit [DecidableEq κ] in
theorem Sound.commits {before after : List (Call σ κ ε α γ)} {call : Call σ κ ε α γ} {a : α} (sound : p.Sound s)
    (split : s.active = before ++ call :: after) (ends : call.program = .done a) :
    p.Sound ⟨call.effect s.committed, before ++ after, s.finished ++ [(call.request, .ok a)]⟩ := by
  have own : p.good call s.committed := sound.good call (by simp [split])
  obtain ⟨inv, result⟩ := p.commit call a s.committed sound.inv own ends
  have apart := sound.apart
  rw [split, List.pairwise_append] at apart
  obtain ⟨early, late, across⟩ := apart
  refine ⟨inv, fun other member => ?_, List.pairwise_append.mpr ⟨early, late.tail, fun c hc d hd =>
    across c hc d (List.mem_cons_of_mem _ hd)⟩, fun c b member => ?_⟩
  · have here : p.good other s.committed := sound.good other (by
      rw [split]
      exact List.mem_append.mpr ((List.mem_append.mp member).imp_right (List.mem_cons_of_mem _)))
    rcases List.mem_append.mp member with first | last
    · obtain ⟨disjoint, together⟩ := across other first call List.mem_cons_self
      exact p.stable other call a s.committed sound.inv here own ends disjoint together
    · obtain ⟨disjoint, together⟩ := List.rel_of_pairwise_cons late last
      exact p.stable other call a s.committed sound.inv here own ends (List.disjoint_symm disjoint)
        (p.symm _ _ together)
  · rcases List.mem_append.mp member with old | new
    · exact p.kept c b call a s.committed sound.inv (sound.answered c b old) own ends
    · simp only [List.mem_singleton, Prod.mk.injEq, Except.ok.injEq] at new
      obtain ⟨rfl, rfl⟩ := new
      exact result

omit [DecidableEq κ] in
theorem Sound.advances {before after : List (Call σ κ ε α γ)} {call : Call σ κ ε α γ} {locks : σ → List κ}
    {effect : σ → σ → σ} {rest : σ → Program σ κ ε α} (sound : p.Sound s) (split : s.active = before ++ call :: after)
    (sends : call.program = .next locks effect rest) (fits : p.fits call s.committed)
    (free : ∀ other ∈ before ++ after, (locks (call.effect s.committed)).Disjoint other.held) :
    p.Sound { s with active := before ++ call.advance locks effect rest (call.effect s.committed) :: after } := by
  have own : p.good call s.committed := sound.good call (by simp [split])
  have next := p.advance call locks effect rest s.committed sound.inv own fits sends
  have apart := sound.apart
  rw [split, List.pairwise_append] at apart
  obtain ⟨early, late, across⟩ := apart
  obtain ⟨beside, late⟩ := List.pairwise_cons.mp late
  have more {other : Call σ κ ε α γ} (member : other ∈ before ++ after) (disjoint : call.held.Disjoint other.held) :
      (call.advance locks effect rest (call.effect s.committed)).held.Disjoint other.held :=
    List.disjoint_append_left.mpr ⟨disjoint, free other member⟩
  refine ⟨sound.inv, fun other member => ?_, List.pairwise_append.mpr ⟨early, List.pairwise_cons.mpr ⟨fun d hd => ?_, late⟩,
    fun c hc d hd => ?_⟩, sound.answered⟩
  · rcases List.mem_append.mp member with first | last
    · exact sound.good other (by simp [split, first])
    · rcases List.mem_cons.mp last with rfl | last
      · exact next
      · exact sound.good other (by simp [split, last])
  · exact ⟨more (List.mem_append_right _ hd) (beside d hd).1, (beside d hd).2⟩
  · rcases List.mem_cons.mp hd with rfl | hd
    · obtain ⟨disjoint, together⟩ := across c hc call List.mem_cons_self
      exact ⟨List.disjoint_symm (more (List.mem_append_left _ hc) (List.disjoint_symm disjoint)), together⟩
    · exact across c hc d (List.mem_cons_of_mem _ hd)

theorem Sound.step (sound : p.Sound s) {choice : Schedule γ} (admits : p.Admits s choice) :
    p.Sound ((interleaving program).step s choice) := by
  have moves := interleaving_moves program s choice
  generalize (interleaving program).step s choice = after at moves
  cases moves with
  | idle => exact sound
  | start request =>
    refine ⟨sound.inv, fun call member => ?_, List.pairwise_append.mpr ⟨sound.apart, List.pairwise_singleton _ _, ?_⟩,
      sound.answered⟩
    · rcases List.mem_append.mp member with old | new
      · exact sound.good call old
      · rw [List.mem_singleton.mp new]
        exact p.start request s.committed sound.inv
    · intro call old fresh new
      rw [List.mem_singleton.mp new]
      exact ⟨List.disjoint_nil_right _, p.symm _ _ (admits call old)⟩
  | commit _ split ends => exact sound.commits split ends
  | leave answers split errors =>
    refine ⟨sound.inv, fun call member => sound.good call ?_, ?_, fun c a member => ?_⟩
    · rw [split]
      exact List.mem_append.mpr ((List.mem_append.mp member).imp_right (List.mem_cons_of_mem _))
    · have apart := sound.apart
      rw [split] at apart
      exact apart.sublist (List.Sublist.append_left (List.sublist_cons_self _ _) _)
    · rcases List.mem_append.mp member with old | new
      · exact sound.answered c a old
      · obtain ⟨e, error⟩ := errors _ new
        cases error
  | advance found split sends free => exact sound.advances split sends (admits _ found) free

omit [DecidableEq κ] in
theorem sound_idle (p : Protocol program) {db : σ} (inv : p.inv db) : p.Sound ⟨db, [], []⟩ :=
  ⟨inv, by simp, List.Pairwise.nil, by simp⟩

end Protocol
end Store
