namespace Store

/-- A position of a list, and what is around it. -/
theorem split_position {α : Type} {l : List α} {position : Nat} {x : α} (found : l[position]? = some x) :
    ∃ before after, l = before ++ x :: after ∧ l.eraseIdx position = before ++ after ∧
      ∀ y, l.set position y = before ++ y :: after := by
  obtain ⟨inside, rfl⟩ := List.getElem?_eq_some_iff.mp found
  refine ⟨l.take position, l.drop (position + 1), ?_, List.eraseIdx_eq_take_drop_succ _ _, fun y => ?_⟩
  · rw [← List.drop_eq_getElem_cons inside, List.take_append_drop]
  · rw [List.set_eq_take_append_cons_drop, if_pos inside]

/-- A system that takes one event after another. Everything the environment
chooses is in the event. -/
structure Machine (σ ε : Type) where
  step : σ → ε → σ

namespace Machine

variable {σ ε : Type} {m : Machine σ ε} {s : σ} {events : List ε}

def run (m : Machine σ ε) (s : σ) (events : List ε) : σ := events.foldl m.step s

/-- Every event meets the condition in the state it happens in. -/
def Permits (m : Machine σ ε) (allowed : σ → ε → Prop) : σ → List ε → Prop
  | _, [] => True
  | s, e :: rest => allowed s e ∧ m.Permits allowed (m.step s e) rest

instance (allowed : σ → ε → Prop) [∀ s e, Decidable (allowed s e)] : ∀ s events, Decidable (m.Permits allowed s events)
  | _, [] => isTrue trivial
  | s, e :: rest =>
    have := instDecidablePermits allowed (m.step s e) rest
    inferInstanceAs (Decidable (allowed s e ∧ m.Permits allowed (m.step s e) rest))

theorem run_append (events rest : List ε) : m.run s (events ++ rest) = m.run (m.run s events) rest :=
  List.foldl_append

theorem permits_true (s : σ) (events : List ε) : m.Permits (fun _ _ => True) s events := by
  induction events generalizing s with
  | nil => trivial
  | cons e rest ih => exact ⟨trivial, ih (m.step s e)⟩

/-- What the permitted events keep, a whole run keeps. -/
theorem Permits.keeps {allowed : σ → ε → Prop} (permits : m.Permits allowed s events) (inv : σ → Prop)
    (step : ∀ s e, allowed s e → inv s → inv (m.step s e)) (start : inv s) : inv (m.run s events) := by
  induction events generalizing s with
  | nil => exact start
  | cons e rest ih => exact ih permits.2 (step s e permits.1 start)

end Machine
end Store
