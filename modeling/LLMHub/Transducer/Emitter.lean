namespace LLMHub.Transducer

/-- A piece of a converter: it changes the state and sends outputs. -/
abbrev Emitter (σ ο : Type) := σ → σ × List ο

namespace Emitter

variable {σ ι ο γ : Type}

def emit (outputs : List ο) : Emitter σ ο := fun s => (s, outputs)

def modify (f : σ → σ) : Emitter σ ο := fun s => (f s, [])

def andThen (first next : Emitter σ ο) : Emitter σ ο := fun s =>
  let sent := first s
  let rest := next sent.1
  (rest.1, sent.2 ++ rest.2)

/-- One step for each input, in order. -/
def forEach (step : ι → Emitter σ ο) : List ι → Emitter σ ο
  | [] => emit []
  | input :: rest => (step input).andThen (forEach step rest)

@[simp] theorem emit_apply (outputs : List ο) (s : σ) : emit outputs s = (s, outputs) := rfl

@[simp] theorem modify_apply (f : σ → σ) (s : σ) : (modify f : Emitter σ ο) s = (f s, []) := rfl

@[simp] theorem andThen_fst (first next : Emitter σ ο) (s : σ) : (first.andThen next s).1 = (next (first s).1).1 := rfl

@[simp] theorem andThen_snd (first next : Emitter σ ο) (s : σ) :
    (first.andThen next s).2 = (first s).2 ++ (next (first s).1).2 := rfl

variable (step : ι → Emitter σ ο)

@[simp] theorem forEach_nil (s : σ) : forEach step [] s = (s, []) := rfl

@[simp] theorem forEach_cons_fst (input : ι) (rest : List ι) (s : σ) :
    (forEach step (input :: rest) s).1 = (forEach step rest (step input s).1).1 := rfl

@[simp] theorem forEach_cons_snd (input : ι) (rest : List ι) (s : σ) :
    (forEach step (input :: rest) s).2 = (step input s).2 ++ (forEach step rest (step input s).1).2 := rfl

/-- An observer reads the outputs one by one. A relation between the state,
what the observer has seen and the inputs to come that every step keeps is
kept by the whole run. -/
theorem forEach_observed {step : ι → Emitter σ ο} {observe : γ → ο → Option γ} {related : σ → γ → List ι → Prop}
    (keeps : ∀ s seen input rest, related s seen (input :: rest) →
      ∃ seen', (step input s).2.foldlM observe seen = some seen' ∧ related (step input s).1 seen' rest)
    (inputs : List ι) (s : σ) (seen : γ) (holds : related s seen inputs) :
    ∃ seen', (forEach step inputs s).2.foldlM observe seen = some seen' ∧ related (forEach step inputs s).1 seen' [] := by
  induction inputs generalizing s seen with
  | nil => exact ⟨seen, rfl, holds⟩
  | cons input rest ih =>
    obtain ⟨seen', read, next⟩ := keeps s seen input rest holds
    obtain ⟨last, readRest, final⟩ := ih (step input s).1 seen' next
    refine ⟨last, ?_, final⟩
    rw [forEach_cons_snd, List.foldlM_append, read]
    exact readRest

end Emitter

end LLMHub.Transducer
