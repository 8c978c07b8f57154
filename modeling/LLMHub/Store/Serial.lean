import LLMHub.Store.Interleaving

namespace Store
variable {σ κ ε α β γ : Type}

/-- The program alone ends in a state with the property, if it ends well. -/
def Program.Keeps (P : σ → Prop) (p : Program σ κ ε α) (view : σ) : Prop := ∀ a after, p.Gives view a after → P after

variable {g : β → Program σ κ ε α}

namespace Program
variable {P : σ → Prop} {view : σ}

theorem Keeps.failIf {c : Prop} [Decidable c] {e : ε} {g : Unit → Program σ κ ε α} (rest : ¬c → (g ()).Keeps P view) :
    (failIf c e >>= g).Keeps P view := by
  intro a after run
  obtain ⟨_, passed, tail⟩ := run.read fun _ _ => Gives.failIf
  exact rest passed a after tail

theorem Keeps.ofExcept {r : Except ε β} (rest : ∀ b, r = .ok b → (g b).Keeps P view) :
    (ofExcept r >>= g).Keeps P view := by
  intro a after run
  obtain ⟨b, ok, tail⟩ := run.read fun _ _ => Gives.ofExcept
  exact rest b ok a after tail

theorem Keeps.pure_comp {p : Program σ κ ε α} {f : α → β} (keeps : p.Keeps P view) :
    (p >>= fun a => pure (f a)).Keeps P view := by
  intro b after run
  obtain ⟨a, _, head, last⟩ := run.bind
  obtain ⟨-, rfl⟩ := last.pure
  exact keeps a _ head

end Program

/-- The program takes the lock before it writes anything, or fails. From then on
it keeps the property, whatever it has read before. -/
inductive Program.Enters (P : σ → Prop) (key : κ) : Program σ κ ε α → Prop
  | fail (e : ε) : Enters P key (.fail e)
  | next {locks : σ → List κ} {rest : σ → Program σ κ ε α} :
      (∀ view, P view → key ∈ locks view → (rest view).Keeps P view) →
      (∀ view, P view → key ∉ locks view → Enters P key (rest view)) → Enters P key (.next locks (fun _ db => db) rest)

namespace Program
variable {P : σ → Prop} {key : κ}

theorem Enters.require {f : σ → Option β} {e : ε}
    (rest : ∀ view b, P view → f view = some b → Enters P key (g b)) : Enters P key (require f e >>= g) := by
  refine .next (fun _ _ none => nomatch none) fun view holds _ => ?_
  change Enters P key ((ofOption e (f view)).bind g)
  cases found : f view with
  | none => exact .fail e
  | some b => exact rest view b holds found

theorem Enters.failIf {c : Prop} [Decidable c] {e : ε} {g : Unit → Program σ κ ε α} (rest : ¬c → Enters P key (g ())) :
    Enters P key (failIf c e >>= g) := by
  unfold Program.failIf
  split
  · exact .fail e
  · exact rest (by assumption)

theorem Enters.ofExcept {r : Except ε β} (rest : ∀ b, r = .ok b → Enters P key (g b)) :
    Enters P key (ofExcept r >>= g) := by
  cases r with
  | error e => exact .fail e
  | ok b => exact rest b rfl

theorem Enters.lockFirst [Record β] [HasTable σ β] {of : β → κ} {p : β → Bool} {e : ε}
    (named : ∀ row, p row = true → of row = key)
    (rest : ∀ view row, P view → (HasTable.table view).first p = some row → (g row).Keeps P view) :
    Enters P key (lockFirst of p e >>= g) := by
  refine .next (fun view holds locked => ?_) fun view holds free => ?_
  · change Keeps P ((ofOption e ((HasTable.table view).first p)).bind g) view
    cases found : (HasTable.table view : Table β).first p with
    | none =>
      rw [found] at locked
      exact nomatch locked
    | some row => exact rest view row holds found
  · change Enters P key ((ofOption e ((HasTable.table view).first p)).bind g)
    cases found : (HasTable.table view : Table β).first p with
    | none => exact .fail e
    | some row =>
      refine absurd ?_ free
      rw [found, Option.map_some, named row (Table.holds_of_first found)]
      exact List.mem_singleton_self key

end Program

/-- Requests that take one lock first are executed one after the other; so are
requests of which only one is under way at a time. What each of them keeps
alone, every interleaving keeps. `guard` names the lock a request takes first. -/
def Protocol.serial (program : γ → Program σ κ ε α) (P : σ → Prop) (guard : γ → Option κ)
    (enters : ∀ c key, guard c = some key → (program c).Enters P key)
    (alone : ∀ c, guard c = none → ∀ db, P db → (program c).Keeps P db) : Protocol program where
  compatible c d := ∃ key, guard c = some key ∧ guard d = some key
  fits _ _ := True
  inv := P
  good call db := (∃ key, guard call.request = some key ∧ call.program.Enters P key ∧ call.effect = id) ∨
    ((∀ key, guard call.request = some key → key ∈ call.held) ∧ call.program.Keeps P (call.effect db))
  result _ _ _ := True
  symm _ _ := fun ⟨key, first, second⟩ => ⟨key, second, first⟩
  start c db holds := by
    cases guarded : guard c with
    | some key => exact Or.inl ⟨key, guarded, enters c key guarded, rfl⟩
    | none =>
      refine Or.inr ⟨fun key same => ?_, alone c guarded db holds⟩
      cases guarded.symm.trans same
  advance call locks effect rest db holds good _ sends := by
    rcases good with ⟨key, guarded, outside, nothing⟩ | ⟨inside, keeps⟩
    · rw [sends] at outside
      cases outside with
      | next enter stay =>
        rw [nothing]
        by_cases locked : key ∈ locks db
        · refine Or.inr ⟨fun other same => ?_, ?_⟩
          · cases guarded.symm.trans same
            exact List.mem_append_right _ locked
          · have kept := enter db holds locked
            simpa only [Call.advance, nothing, id] using kept
        · refine Or.inl ⟨key, guarded, stay db holds locked, ?_⟩
          simp only [Call.advance, nothing]
    · refine Or.inr ⟨fun key same => List.mem_append_left _ (inside key same), ?_⟩
      rw [sends] at keeps
      exact keeps
  commit call a db _ good ends := by
    rcases good with ⟨key, -, outside, -⟩ | ⟨-, keeps⟩
    · rw [ends] at outside
      cases outside
    · rw [ends] at keeps
      exact ⟨keeps a _ rfl, trivial⟩
  stable call other a db _ good goodOther ends disjoint both := by
    obtain ⟨key, own, others⟩ := both
    rcases goodOther with ⟨_, -, outside, -⟩ | ⟨held, -⟩
    · rw [ends] at outside
      cases outside
    · rcases good with outside | ⟨mine, -⟩
      · exact Or.inl outside
      · exact absurd (held key others) (disjoint (mine key own))
  kept _ _ _ _ _ _ _ _ _ := trivial

/-- No call begins while another is in progress. -/
def OneAtATime (s : Interleaved σ κ ε α γ) : Schedule γ → Prop
  | .start _ => s.active = []
  | _ => True

instance (s : Interleaved σ κ ε α γ) : ∀ choice, Decidable (OneAtATime s choice)
  | .start _ => inferInstanceAs (Decidable (s.active = []))
  | .proceed _ => isTrue trivial
  | .abort _ => isTrue trivial

/-- The run lemma of `Protocol.serial`: two calls in progress at a time take one
lock first. -/
theorem keeps_of_guarded [DecidableEq κ] {program : γ → Program σ κ ε α} {P : σ → Prop}
    {allowed : Interleaved σ κ ε α γ → Schedule γ → Prop} {db : σ} {choices : List (Schedule γ)} (guard : γ → Option κ)
    (enters : ∀ c key, guard c = some key → (program c).Enters P key)
    (alone : ∀ c, guard c = none → ∀ db, P db → (program c).Keeps P db)
    (overlap : ∀ s c, allowed s (.start c) → ∀ d ∈ s.active, ∃ key, guard c = some key ∧ guard d.request = some key)
    (permits : (interleaving program).Permits allowed ⟨db, [], []⟩ choices) (holds : P db) :
    P ((interleaving program).run ⟨db, [], []⟩ choices).committed := by
  let protocol := Protocol.serial program P guard enters alone
  refine (permits.keeps protocol.Sound (fun s choice admitted sound => sound.step ?_) (protocol.sound_idle holds)).inv
  cases choice with
  | start c => exact overlap s c admitted
  | proceed position => exact fun _ _ => trivial
  | abort position => exact trivial

end Store
