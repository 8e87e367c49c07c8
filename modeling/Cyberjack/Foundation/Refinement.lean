import Cyberjack.Foundation.History

namespace Cyberjack.Foundation

/-! # Machines and what is known of them

Beside a machine runs an observer that sees the requests and the answers only.
It says which answers are right for what it knows, and what it knows next.  A
machine whose steps agree with the observer refines it over whole histories.
-/

universe u v w x

variable {σ : Type u} {ι : Type v} {ω : Type w} {τ : Type x}

structure Observer (τ : Type x) (ι : Type v) (ω : Type w) where
  right : τ → ι → ω → Prop
  learn : τ → ι → ω → τ

/-- The machine with its observer. -/
def observed (step : Machine σ ι ω) (observer : Observer τ ι ω) : Machine (σ × τ) ι ω :=
  fun state input =>
    ((step state.1 input).1, (step state.1 input).2, observer.learn state.2 input (step state.1 input).1)

variable {step : Machine σ ι ω} {observer : Observer τ ι ω}

/-- Every allowed step gives a right answer and leaves what the observer then knows. -/
structure Agrees (step : Machine σ ι ω) (observer : Observer τ ι ω) (represents : σ → τ → Prop)
    (allowed : σ → ι → Prop) : Prop where
  answers : ∀ state known input, represents state known → allowed state input →
    observer.right known input (step state input).1
  follows : ∀ state known input, represents state known → allowed state input →
    represents (step state input).2 (observer.learn known input (step state input).1)

variable {represents : σ → τ → Prop} {allowed : σ → ι → Prop} {state : σ} {known : τ}

theorem Agrees.history (agrees : Agrees step observer represents allowed) (start : represents state known)
    {inputs : List ι}
    (kept : Keeps (fun both => allowed both.1) (history (observed step observer) (state, known) inputs)) :
    ∀ entry ∈ history (observed step observer) (state, known) inputs,
      observer.right entry.before.2 entry.input entry.answer := by
  have here : ∀ (both : σ × τ) input, represents both.1 both.2 → allowed both.1 input →
      observer.right both.2 input (observed step observer both input).1 ∧
        represents (observed step observer both input).2.1 (observed step observer both input).2.2 := by
    intro both input holds permitted
    exact ⟨agrees.answers both.1 both.2 input holds permitted, agrees.follows both.1 both.2 input holds permitted⟩
  exact @history_good _ _ _ (observed step observer) (fun both => represents both.1 both.2)
    (fun both => allowed both.1) (fun entry => observer.right entry.before.2 entry.input entry.answer)
    here (state, known) start inputs kept

theorem Agrees.final (agrees : Agrees step observer represents allowed) (start : represents state known)
    {inputs : List ι}
    (kept : Keeps (fun both => allowed both.1) (Foundation.history (observed step observer) (state, known) inputs)) :
    represents (Foundation.final (observed step observer) (state, known) inputs).1
      (Foundation.final (observed step observer) (state, known) inputs).2 := by
  induction inputs generalizing state known with
  | nil => exact start
  | cons input rest ih =>
      rw [history_cons, Keeps, List.forall_mem_cons] at kept
      exact ih (agrees.follows state known input start kept.1) kept.2

/-! ## Two machines with the same requests -/

/-- Where related states answer the same exactly to certain requests, and stay related behind them, two histories
have the same answers exactly if all requests are such. -/
theorem answers_eq_iff {first : Machine σ ι ω} {second : Machine τ ι ω} {related : σ → τ → Prop} {alike : ι → Prop}
    (same : ∀ state other input, related state other → ((first state input).1 = (second other input).1 ↔ alike input))
    (keep : ∀ state other input, related state other → alike input →
      related (first state input).2 (second other input).2)
    {state : σ} {other : τ} (start : related state other) (inputs : List ι) :
    (Foundation.history first state inputs).map Entry.answer =
        (Foundation.history second other inputs).map Entry.answer ↔ ∀ input ∈ inputs, alike input := by
  induction inputs generalizing state other with
  | nil => simp
  | cons input rest ih =>
      rw [history_cons, history_cons, List.map_cons, List.map_cons, List.cons.injEq, List.forall_mem_cons]
      constructor
      · intro answered
        have here := (same state other input start).mp answered.1
        exact ⟨here, (ih (keep state other input start here)).mp answered.2⟩
      · intro all
        exact ⟨(same state other input start).mpr all.1, (ih (keep state other input start all.1)).mpr all.2⟩

end Cyberjack.Foundation
