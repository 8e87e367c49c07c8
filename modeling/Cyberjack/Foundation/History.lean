import Mathlib.Data.List.Basic

namespace Cyberjack.Foundation

/-! # Histories

A component that answers one request after the other, each of them in one step.
What holds of every step of a history follows from what is known of a single
step in a state that keeps the invariant.
-/

universe u v w

variable {σ : Type u} {ι : Type v} {ω : Type w}

/-- One step of a history. -/
structure Entry (σ : Type u) (ι : Type v) (ω : Type w) where
  before : σ
  input : ι
  answer : ω
  after : σ

/-- How a request is answered, and the state it leaves. -/
abbrev Machine (σ : Type u) (ι : Type v) (ω : Type w) := σ → ι → ω × σ

def Machine.entry (step : Machine σ ι ω) (state : σ) (input : ι) : Entry σ ι ω :=
  ⟨state, input, (step state input).1, (step state input).2⟩

def history (step : Machine σ ι ω) : σ → List ι → List (Entry σ ι ω)
  | _, [] => []
  | state, input :: rest => step.entry state input :: history step (step state input).2 rest

/-- The state behind a list of requests. -/
def final (step : Machine σ ι ω) : σ → List ι → σ
  | state, [] => state
  | state, input :: rest => final step (step state input).2 rest

@[simp] theorem history_nil (step : Machine σ ι ω) (state : σ) : history step state [] = [] := rfl

@[simp] theorem history_cons (step : Machine σ ι ω) (state : σ) (input : ι) (rest : List ι) :
    history step state (input :: rest) =
      step.entry state input :: history step (step state input).2 rest := rfl

@[simp] theorem final_nil (step : Machine σ ι ω) (state : σ) : final step state [] = state := rfl

@[simp] theorem final_cons (step : Machine σ ι ω) (state : σ) (input : ι) (rest : List ι) :
    final step state (input :: rest) = final step (step state input).2 rest := rfl

/-- Every step of a history meets a condition on the state before it and its request. -/
def Keeps (allowed : σ → ι → Prop) (entries : List (Entry σ ι ω)) : Prop :=
  ∀ entry ∈ entries, allowed entry.before entry.input

instance {allowed : σ → ι → Prop} [∀ state input, Decidable (allowed state input)]
    (entries : List (Entry σ ι ω)) : Decidable (Keeps allowed entries) :=
  inferInstanceAs (Decidable (∀ entry ∈ entries, allowed entry.before entry.input))

variable {step : Machine σ ι ω} {invariant : σ → Prop} {allowed : σ → ι → Prop}

/-- Where every allowed step is good and keeps the invariant, a history is good. -/
theorem history_good {good : Entry σ ι ω → Prop}
    (sound : ∀ state input, invariant state → allowed state input →
      good (step.entry state input) ∧ invariant (step state input).2)
    {state : σ} (start : invariant state) {inputs : List ι}
    (kept : Keeps allowed (history step state inputs)) : ∀ entry ∈ history step state inputs, good entry := by
  induction inputs generalizing state with
  | nil => simp
  | cons input rest ih =>
      rw [history_cons, Keeps, List.forall_mem_cons] at kept
      have here := sound state input start kept.1
      rw [history_cons, List.forall_mem_cons]
      exact ⟨here.1, ih here.2 kept.2⟩

/-- Where a step that keeps the invariant is good exactly when it is allowed, a history is. -/
theorem history_iff {good : Entry σ ι ω → Prop}
    (sound : ∀ state input, invariant state → (good (step.entry state input) ↔ allowed state input))
    (keep : ∀ state input, invariant state → allowed state input → invariant (step state input).2)
    {state : σ} (start : invariant state) (inputs : List ι) :
    (∀ entry ∈ history step state inputs, good entry) ↔ Keeps allowed (history step state inputs) := by
  induction inputs generalizing state with
  | nil => simp [Keeps]
  | cons input rest ih =>
      rw [history_cons, Keeps, List.forall_mem_cons, List.forall_mem_cons]
      have here := sound state input start
      constructor
      · intro all
        have permitted := here.mp all.1
        exact ⟨permitted, (ih (keep state input start permitted)).mp all.2⟩
      · intro all
        exact ⟨here.mpr all.1, (ih (keep state input start all.1)).mpr all.2⟩

end Cyberjack.Foundation
