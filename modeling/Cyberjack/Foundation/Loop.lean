import Mathlib.Data.List.Basic

namespace Cyberjack.Foundation

/-! # Loops driven by their inputs

A driver talks to a device in a loop: every pass takes one input, does a few
things in order and goes on or returns.  The loop itself is a function of the
inputs, so a run over a finite list of them is a list of turns; an infinite
sequence of inputs is the set of its finite prefixes.
-/

universe u v w x

variable {σ : Type u} {ι : Type v} {ω : Type w} {ρ : Type x}

inductive Next (σ : Type u) (ρ : Type x) where
  | again (state : σ)
  | done (result : ρ)
deriving Repr, DecidableEq

structure Turn (σ : Type u) (ι : Type v) (ω : Type w) where
  before : σ
  input : ι
  output : List ω

structure Run (σ : Type u) (ι : Type v) (ω : Type w) (ρ : Type x) where
  turns : List (Turn σ ι ω)
  outcome : Next σ ρ

abbrev Body (σ : Type u) (ι : Type v) (ω : Type w) (ρ : Type x) := σ → ι → List ω × Next σ ρ

def run (body : Body σ ι ω ρ) : σ → List ι → Run σ ι ω ρ
  | state, [] => ⟨[], .again state⟩
  | state, input :: rest =>
      match body state input with
      | (output, .done result) => ⟨[⟨state, input, output⟩], .done result⟩
      | (output, .again next) =>
          let later := run body next rest
          ⟨⟨state, input, output⟩ :: later.turns, later.outcome⟩

def outputs (turns : List (Turn σ ι ω)) : List ω := turns.flatMap Turn.output

@[simp] theorem outputs_nil : outputs ([] : List (Turn σ ι ω)) = [] := rfl

theorem outputs_cons (turn : Turn σ ι ω) (turns : List (Turn σ ι ω)) :
    outputs (turn :: turns) = turn.output ++ outputs turns := List.flatMap_cons

@[simp] theorem outputs_append (first second : List (Turn σ ι ω)) :
    outputs (first ++ second) = outputs first ++ outputs second := by
  simp [outputs]

@[simp] theorem outputs_singleton (turn : Turn σ ι ω) : outputs [turn] = turn.output := by
  simp [outputs]

@[simp] theorem run_nil (body : Body σ ι ω ρ) (state : σ) :
    run body state [] = ⟨[], .again state⟩ := rfl

theorem run_again {body : Body σ ι ω ρ} {state next : σ} {input : ι} {output : List ω}
    (stepped : body state input = (output, .again next)) (rest : List ι) :
    run body state (input :: rest) =
      ⟨⟨state, input, output⟩ :: (run body next rest).turns, (run body next rest).outcome⟩ := by
  simp [run, stepped]

theorem run_done {body : Body σ ι ω ρ} {state : σ} {input : ι} {output : List ω} {result : ρ}
    (stepped : body state input = (output, .done result)) (rest : List ι) :
    run body state (input :: rest) = ⟨[⟨state, input, output⟩], .done result⟩ := by
  simp [run, stepped]

theorem run_ends {body : Body σ ι ω ρ} {state : σ} {input : ι} {result : ρ}
    (ends : (body state input).2 = .done result) (rest : List ι) :
    run body state (input :: rest) = ⟨[⟨state, input, (body state input).1⟩], .done result⟩ :=
  run_done (show body state input = ((body state input).1, .done result) from Prod.ext rfl ends) rest

theorem run_append_of_done {body : Body σ ι ω ρ} {state : σ} {first : List ι} {result : ρ}
    (ended : (run body state first).outcome = .done result) (second : List ι) :
    run body state (first ++ second) = run body state first := by
  induction first generalizing state with
  | nil => cases ended
  | cons input rest ih =>
      cases stepped : body state input with
      | mk output next =>
          cases next with
          | done result => rw [List.cons_append, run_done stepped, run_done stepped]
          | again next =>
              rw [run_again stepped] at ended
              rw [List.cons_append, run_again stepped, run_again stepped, ih ended]

theorem run_output {body : Body σ ι ω ρ} {state : σ} {inputs : List ι} {turn : Turn σ ι ω}
    (made : turn ∈ (run body state inputs).turns) : turn.output = (body turn.before turn.input).1 := by
  induction inputs generalizing state with
  | nil => contradiction
  | cons input rest ih =>
      cases stepped : body state input with
      | mk output next =>
          cases next with
          | done result =>
              rw [run_done stepped, List.mem_singleton] at made
              rw [made, stepped]
          | again next =>
              rw [run_again stepped] at made
              cases made with
              | head => rw [stepped]
              | tail _ later => exact ih later

theorem run_input {body : Body σ ι ω ρ} {state : σ} {inputs : List ι} {turn : Turn σ ι ω}
    (made : turn ∈ (run body state inputs).turns) : turn.input ∈ inputs := by
  induction inputs generalizing state with
  | nil => contradiction
  | cons input rest ih =>
      cases stepped : body state input with
      | mk output next =>
          cases next with
          | done result =>
              rw [run_done stepped, List.mem_singleton] at made
              rw [made]
              exact List.mem_cons_self
          | again next =>
              rw [run_again stepped] at made
              cases made with
              | head => exact List.mem_cons_self
              | tail _ later => exact List.mem_cons_of_mem _ (ih later)

theorem length_turns_of_again {body : Body σ ι ω ρ} {state last : σ} {inputs : List ι}
    (goesOn : (run body state inputs).outcome = .again last) :
    (run body state inputs).turns.length = inputs.length := by
  induction inputs generalizing state with
  | nil => rfl
  | cons input rest ih =>
      cases stepped : body state input with
      | mk output next =>
          cases next with
          | done result =>
              rw [run_done stepped] at goesOn
              contradiction
          | again next =>
              rw [run_again stepped] at goesOn ⊢
              simp only [List.length_cons, ih goesOn]

/-- What every pass that goes on preserves holds in front of every pass. -/
theorem run_before {body : Body σ ι ω ρ} {invariant : σ → Prop}
    (step : ∀ state input next, invariant state → (body state input).2 = .again next → invariant next)
    {state : σ} (start : invariant state) {inputs : List ι} {turn : Turn σ ι ω}
    (made : turn ∈ (run body state inputs).turns) : invariant turn.before := by
  induction inputs generalizing state with
  | nil => contradiction
  | cons input rest ih =>
      cases stepped : body state input with
      | mk output next =>
          cases next with
          | done result =>
              rw [run_done stepped, List.mem_singleton] at made
              rw [made]
              exact start
          | again next =>
              rw [run_again stepped] at made
              cases made with
              | head => exact start
              | tail _ later => exact ih (step state input next start (by rw [stepped])) later

/-- A position in two traces one after the other lies in one of them. -/
theorem split_append {first second front back : List ω} {event : ω}
    (split : first ++ second = front ++ event :: back) :
    (∃ rest, first = front ++ event :: rest) ∨
      ∃ rest, front = first ++ rest ∧ second = rest ++ event :: back := by
  rcases List.append_eq_append_iff.mp split with ⟨rest, fronts, seconds⟩ | ⟨rest, firsts, backs⟩
  · exact .inr ⟨rest, fronts, seconds⟩
  · cases rest with
    | nil =>
        rw [List.append_nil] at firsts
        exact .inr ⟨[], by simp [firsts], by simpa using backs.symm⟩
    | cons head tail =>
        rw [List.cons_append, List.cons.injEq] at backs
        exact .inl ⟨tail, by rw [firsts, backs.1]⟩

/-- The invariant holds where the loop goes on, the postcondition where it ended. -/
def Next.Satisfies (invariant : σ → Prop) (post : ρ → Prop) : Next σ ρ → Prop
  | .again state => invariant state
  | .done result => post result

@[simp] theorem satisfies_again {invariant : σ → Prop} {post : ρ → Prop} {state : σ} :
    (Next.again state : Next σ ρ).Satisfies invariant post ↔ invariant state := Iff.rfl

@[simp] theorem satisfies_done {invariant : σ → Prop} {post : ρ → Prop} {result : ρ} :
    (Next.done result : Next σ ρ).Satisfies invariant post ↔ post result := Iff.rfl

/-- The loop goes on. -/
def Next.GoesOn : Next σ ρ → Prop := Next.Satisfies (fun _ => True) (fun _ => False)

instance (next : Next σ ρ) : Decidable next.GoesOn :=
  match next with
  | .again _ => .isTrue trivial
  | .done _ => .isFalse id

theorem Next.Satisfies.ended {post : ρ → Prop} {next : Next σ ρ} (ends : next.Satisfies (fun _ => False) post) :
    ∃ result, next = .done result ∧ post result := by
  cases next with
  | again state => exact absurd ends id
  | done result => exact ⟨result, rfl, ends⟩

theorem Next.Satisfies.imp {invariant invariant' : σ → Prop} {post post' : ρ → Prop}
    {next : Next σ ρ} (holds : next.Satisfies invariant post)
    (onState : ∀ state, invariant state → invariant' state)
    (onResult : ∀ result, post result → post' result) : next.Satisfies invariant' post' := by
  cases next with
  | again state => exact onState state holds
  | done result => exact onResult result holds

/-- The passes of a run all meet a condition on the state before the pass and its input. -/
def Meets (allowed : σ → ι → Prop) (turns : List (Turn σ ι ω)) : Prop :=
  ∀ turn ∈ turns, allowed turn.before turn.input

instance {allowed : σ → ι → Prop} [∀ state input, Decidable (allowed state input)]
    (turns : List (Turn σ ι ω)) : Decidable (Meets allowed turns) :=
  inferInstanceAs (Decidable (∀ turn ∈ turns, allowed turn.before turn.input))

@[simp] theorem meets_nil {allowed : σ → ι → Prop} : Meets allowed ([] : List (Turn σ ι ω)) := by
  simp [Meets]

@[simp] theorem meets_cons {allowed : σ → ι → Prop} {turn : Turn σ ι ω}
    {turns : List (Turn σ ι ω)} :
    Meets allowed (turn :: turns) ↔ allowed turn.before turn.input ∧ Meets allowed turns := by
  simp [Meets]

@[simp] theorem meets_append {allowed : σ → ι → Prop} {first second : List (Turn σ ι ω)} :
    Meets allowed (first ++ second) ↔ Meets allowed first ∧ Meets allowed second := by
  simp only [Meets, List.mem_append, or_imp, forall_and]

/-- The passes of a run all meet a condition that may also look at the passes before. -/
def MeetsAlong (allowed : List (Turn σ ι ω) → σ → ι → Prop) (turns : List (Turn σ ι ω)) : Prop :=
  ∀ front turn back, turns = front ++ turn :: back → allowed front turn.before turn.input

theorem meetsAlong_nil {allowed : List (Turn σ ι ω) → σ → ι → Prop} : MeetsAlong allowed [] := by
  intro front turn back split
  simp at split

theorem meetsAlong_cons {allowed : List (Turn σ ι ω) → σ → ι → Prop} {turn : Turn σ ι ω}
    {turns : List (Turn σ ι ω)} :
    MeetsAlong allowed (turn :: turns) ↔
      allowed [] turn.before turn.input ∧ MeetsAlong (fun past => allowed (turn :: past)) turns := by
  constructor
  · intro meets
    refine ⟨meets [] turn turns rfl, fun front later back split => ?_⟩
    exact meets (turn :: front) later back (by simp [split])
  · rintro ⟨here, meets⟩ front later back split
    cases front with
    | nil =>
        cases split
        exact here
    | cons first rest =>
        cases split
        exact meets rest later back rfl

theorem meetsAlong_snoc {allowed : List (Turn σ ι ω) → σ → ι → Prop} {past : List (Turn σ ι ω)}
    {last : Turn σ ι ω} :
    MeetsAlong allowed (past ++ [last]) ↔
      MeetsAlong allowed past ∧ allowed past last.before last.input := by
  constructor
  · intro meets
    refine ⟨fun front turn back split => ?_, meets past last [] rfl⟩
    exact meets front turn (back ++ [last]) (by simp [split])
  · rintro ⟨meets, here⟩ front turn back split
    rcases split_append split with ⟨rest, inside⟩ | ⟨rest, rfl, single⟩
    · exact meets front turn rest inside
    · cases rest with
      | nil =>
          simp only [List.nil_append, List.cons.injEq] at single
          rw [List.append_nil, ← single.1]
          exact here
      | cons head tail => simp at single

/-- What one allowed pass preserves, a run of allowed passes preserves.  Both
the invariant and the postcondition speak of the passes made so far. -/
theorem run_satisfies {body : Body σ ι ω ρ} {allowed : σ → ι → Prop}
    {invariant : List (Turn σ ι ω) → σ → Prop} {post : List (Turn σ ι ω) → ρ → Prop}
    (step : ∀ past state input, invariant past state → allowed state input →
      (body state input).2.Satisfies
        (invariant (past ++ [⟨state, input, (body state input).1⟩]))
        (post (past ++ [⟨state, input, (body state input).1⟩])))
    (past : List (Turn σ ι ω)) {state : σ} (start : invariant past state) {inputs : List ι}
    (meets : Meets allowed (run body state inputs).turns) :
    (run body state inputs).outcome.Satisfies
      (invariant (past ++ (run body state inputs).turns))
      (post (past ++ (run body state inputs).turns)) := by
  induction inputs generalizing past state with
  | nil => simpa using start
  | cons input rest ih =>
      cases stepped : body state input with
      | mk output next =>
          have here := step past state input start
          cases next with
          | done result =>
              rw [run_done stepped] at meets ⊢
              simpa [stepped] using here (meets_cons.mp meets).1
          | again next =>
              rw [run_again stepped] at meets ⊢
              have now : invariant (past ++ [⟨state, input, output⟩]) next := by
                simpa [stepped] using here (meets_cons.mp meets).1
              have later := ih (past ++ [⟨state, input, output⟩]) now (meets_cons.mp meets).2
              simpa only [List.append_assoc, List.singleton_append] using later

/-- The rule without a condition on the passes. -/
theorem run_invariant {body : Body σ ι ω ρ}
    {invariant : List (Turn σ ι ω) → σ → Prop} {post : List (Turn σ ι ω) → ρ → Prop}
    (step : ∀ past state input, invariant past state →
      (body state input).2.Satisfies
        (invariant (past ++ [⟨state, input, (body state input).1⟩]))
        (post (past ++ [⟨state, input, (body state input).1⟩])))
    (past : List (Turn σ ι ω)) {state : σ} (start : invariant past state) (inputs : List ι) :
    (run body state inputs).outcome.Satisfies
      (invariant (past ++ (run body state inputs).turns))
      (post (past ++ (run body state inputs).turns)) :=
  have meets : Meets (fun _ _ => True) (run body state inputs).turns := fun _ _ => trivial
  run_satisfies (fun past state input holds _ => step past state input holds) past start meets

/-- A run begins in its state. -/
theorem run_begins (body : Body σ ι ω ρ) (state : σ) (inputs : List ι) :
    ((run body state inputs).turns = [] ∧ (run body state inputs).outcome = .again state) ∨
      ∃ turn back, (run body state inputs).turns = turn :: back ∧ turn.before = state := by
  cases inputs with
  | nil => exact .inl ⟨rfl, rfl⟩
  | cons input rest =>
      cases stepped : body state input with
      | mk output next =>
          cases next with
          | done result =>
              rw [run_done stepped]
              exact .inr ⟨_, _, rfl, rfl⟩
          | again next =>
              rw [run_again stepped]
              exact .inr ⟨_, _, rfl, rfl⟩

/-- The invariant holds in front of every pass, and it or the postcondition behind the last. -/
structure Run.Holds (invariant : List (Turn σ ι ω) → σ → Prop) (post : List (Turn σ ι ω) → ρ → Prop)
    (past : List (Turn σ ι ω)) (made : Run σ ι ω ρ) : Prop where
  before : ∀ front turn back, made.turns = front ++ turn :: back → invariant (past ++ front) turn.before
  after : made.outcome.Satisfies (invariant (past ++ made.turns)) (post (past ++ made.turns))

section Holding

variable {invariant : List (Turn σ ι ω) → σ → Prop} {post : List (Turn σ ι ω) → ρ → Prop}
  {past : List (Turn σ ι ω)}

theorem Run.Holds.start {body : Body σ ι ω ρ} {state : σ} {inputs : List ι}
    (holds : (run body state inputs).Holds invariant post past) : invariant past state := by
  rcases run_begins body state inputs with ⟨none, ended⟩ | ⟨turn, back, turns, first⟩
  · have after := holds.after
    rwa [none, ended, List.append_nil] at after
  · have before := holds.before [] turn back turns
    rwa [first, List.append_nil] at before

theorem holds_cons {turn : Turn σ ι ω} {turns : List (Turn σ ι ω)} {outcome : Next σ ρ} :
    (⟨turn :: turns, outcome⟩ : Run σ ι ω ρ).Holds invariant post past ↔
      invariant past turn.before ∧ (⟨turns, outcome⟩ : Run σ ι ω ρ).Holds invariant post (past ++ [turn]) := by
  constructor
  · intro holds
    refine ⟨?_, ?_, ?_⟩
    · simpa using holds.before [] turn turns rfl
    · intro front later back split
      simpa using holds.before (turn :: front) later back (congrArg (turn :: ·) split)
    · simpa using holds.after
  · intro both
    obtain ⟨here, later⟩ := both
    constructor
    · intro front made back split
      cases front with
      | nil =>
          cases split
          simpa using here
      | cons first more =>
          rw [List.cons_append, List.cons.injEq] at split
          simpa [split.1] using later.before more made back split.2
    · simpa using later.after

/-- Where a pass preserves the invariant exactly if it is allowed, a run does. -/
theorem run_holds_iff {body : Body σ ι ω ρ} {allowed : σ → ι → Prop}
    (step : ∀ past state input, invariant past state →
      ((body state input).2.Satisfies
        (invariant (past ++ [⟨state, input, (body state input).1⟩]))
        (post (past ++ [⟨state, input, (body state input).1⟩])) ↔ allowed state input))
    (past : List (Turn σ ι ω)) {state : σ} (start : invariant past state) (inputs : List ι) :
    (run body state inputs).Holds invariant post past ↔ Meets allowed (run body state inputs).turns := by
  induction inputs generalizing past state with
  | nil =>
      constructor
      · exact fun _ => meets_nil
      · intro _
        exact ⟨fun front turn back split => by simp at split, by simpa using start⟩
  | cons input rest ih =>
      cases stepped : body state input with
      | mk output next =>
          have here := step past state input start
          rw [stepped] at here
          cases next with
          | done result =>
              rw [run_done stepped, meets_cons, holds_cons]
              constructor
              · intro holds
                exact ⟨here.mp (by simpa using holds.2.after), meets_nil⟩
              · intro meets
                exact ⟨start, fun front turn back split => by simp at split, by simpa using here.mpr meets.1⟩
          | again next =>
              rw [run_again stepped, meets_cons, holds_cons]
              constructor
              · intro holds
                have now : invariant (past ++ [⟨state, input, output⟩]) next := holds.2.start
                exact ⟨here.mp now, (ih (past ++ [⟨state, input, output⟩]) now).mp holds.2⟩
              · intro meets
                have now : invariant (past ++ [⟨state, input, output⟩]) next := here.mpr meets.1
                exact ⟨start, (ih (past ++ [⟨state, input, output⟩]) now).mpr meets.2⟩

theorem Run.Holds.and {invariant' : List (Turn σ ι ω) → σ → Prop} {post' : List (Turn σ ι ω) → ρ → Prop}
    {made : Run σ ι ω ρ} (first : made.Holds invariant post past) (second : made.Holds invariant' post' past) :
    made.Holds (fun past state => invariant past state ∧ invariant' past state)
      (fun past result => post past result ∧ post' past result) past where
  before := fun front turn back split => ⟨first.before front turn back split, second.before front turn back split⟩
  after := by
    have one := first.after
    have other := second.after
    cases ended : made.outcome with
    | again state =>
        rw [ended] at one other
        exact ⟨one, other⟩
    | done result =>
        rw [ended] at one other
        exact ⟨one, other⟩

/-- The postcondition on its own. -/
theorem holds_iff_and_ended {made : Run σ ι ω ρ} :
    made.Holds invariant post past ↔
      made.Holds invariant (fun _ _ => True) past ∧ ∀ result, made.outcome = .done result → post (past ++ made.turns) result := by
  constructor
  · intro holds
    refine ⟨⟨holds.before, holds.after.imp (fun _ kept => kept) fun _ _ => trivial⟩, fun result ended => ?_⟩
    have after := holds.after
    rwa [ended] at after
  · intro both
    obtain ⟨holds, ends⟩ := both
    refine ⟨holds.before, ?_⟩
    have after := holds.after
    cases ended : made.outcome with
    | again state =>
        rw [ended] at after
        exact after
    | done result => exact ends result ended

/-- The rule with a fact about the states that every pass preserves. -/
theorem run_holds_iff_of_shape {body : Body σ ι ω ρ} {allowed : σ → ι → Prop} {shape : List (Turn σ ι ω) → σ → Prop}
    (keeps : ∀ past state input, shape past state →
      (body state input).2.Satisfies (shape (past ++ [⟨state, input, (body state input).1⟩])) (fun _ => True))
    (step : ∀ past state input, shape past state → invariant past state →
      ((body state input).2.Satisfies
        (invariant (past ++ [⟨state, input, (body state input).1⟩]))
        (post (past ++ [⟨state, input, (body state input).1⟩])) ↔ allowed state input))
    (past : List (Turn σ ι ω)) {state : σ} (shaped : shape past state) (start : invariant past state) (inputs : List ι) :
    (run body state inputs).Holds invariant post past ↔ Meets allowed (run body state inputs).turns := by
  have always : (run body state inputs).Holds shape (fun _ _ => True) past :=
    (@run_holds_iff _ _ _ _ _ _ _ (fun _ _ => True)
      (fun past state input holds => ⟨fun _ => trivial, fun _ => keeps past state input holds⟩) past _ shaped inputs).mpr
      fun _ _ => trivial
  have stepped : ∀ past state input, shape past state ∧ invariant past state →
      ((body state input).2.Satisfies
        (fun next => shape (past ++ [⟨state, input, (body state input).1⟩]) next ∧
          invariant (past ++ [⟨state, input, (body state input).1⟩]) next)
        (fun result => True ∧ post (past ++ [⟨state, input, (body state input).1⟩]) result) ↔ allowed state input) := by
    intro past state input holds
    rw [← step past state input holds.1 holds.2]
    have kept := keeps past state input holds.1
    cases next : (body state input).2 with
    | again after =>
        rw [next] at kept
        exact ⟨fun satisfied => satisfied.2, fun satisfied => ⟨kept, satisfied⟩⟩
    | done result => exact ⟨fun satisfied => satisfied.2, fun satisfied => ⟨trivial, satisfied⟩⟩
  have both := @run_holds_iff _ _ _ _ (fun past state => shape past state ∧ invariant past state)
    (fun past result => True ∧ post past result) _ _ stepped past _ ⟨shaped, start⟩ inputs
  rw [← both]
  constructor
  · exact fun holds => always.and holds
  · intro holds
    exact {
      before := fun front turn back split => (holds.before front turn back split).2
      after := holds.after.imp (fun _ satisfied => satisfied.2) fun _ satisfied => satisfied.2 }

end Holding

/-- A call: what is done before the loop, the passes of the loop and where it led. -/
structure Call (σ : Type u) (ι : Type v) (ω : Type w) (ρ : Type x) where
  opening : List ω
  turns : List (Turn σ ι ω)
  outcome : Next σ ρ

def Call.trace (made : Call σ ι ω ρ) : List ω := made.opening ++ outputs made.turns

def call (body : Body σ ι ω ρ) (opened : List ω × Next σ ρ) (inputs : List ι) : Call σ ι ω ρ :=
  match opened with
  | (opening, .done result) => ⟨opening, [], .done result⟩
  | (opening, .again state) =>
      ⟨opening, (run body state inputs).turns, (run body state inputs).outcome⟩

@[simp] theorem call_opening (body : Body σ ι ω ρ) (opened : List ω × Next σ ρ) (inputs : List ι) :
    (call body opened inputs).opening = opened.1 := by
  rcases opened with ⟨opening, _ | _⟩ <;> rfl

theorem call_ends {body : Body σ ι ω ρ} {state : σ} {input : ι} {result : ρ}
    (ends : (body state input).2 = .done result) (opening : List ω) (rest : List ι) :
    call body (opening, .again state) (input :: rest) =
      ⟨opening, [⟨state, input, (body state input).1⟩], .done result⟩ := by
  rw [call, run_ends ends]

theorem call_continues {body : Body σ ι ω ρ} {state next : σ} {input : ι}
    (continues : (body state input).2 = .again next) (opening : List ω) (rest : List ι) :
    call body (opening, .again state) (input :: rest) =
      ⟨opening, ⟨state, input, (body state input).1⟩ :: (run body next rest).turns, (run body next rest).outcome⟩ := by
  have stepped : body state input = ((body state input).1, .again next) := Prod.ext rfl continues
  rw [call, run_again stepped]

/-- The rule of `run_satisfies` for a call. -/
theorem call_satisfies {body : Body σ ι ω ρ} {allowed : σ → ι → Prop}
    {invariant : List (Turn σ ι ω) → σ → Prop} {post : List (Turn σ ι ω) → ρ → Prop}
    (step : ∀ past state input, invariant past state → allowed state input →
      (body state input).2.Satisfies
        (invariant (past ++ [⟨state, input, (body state input).1⟩]))
        (post (past ++ [⟨state, input, (body state input).1⟩])))
    {opened : List ω × Next σ ρ} (start : opened.2.Satisfies (invariant []) (post []))
    {inputs : List ι} (meets : Meets allowed (call body opened inputs).turns) :
    (call body opened inputs).outcome.Satisfies
      (invariant (call body opened inputs).turns) (post (call body opened inputs).turns) := by
  rcases opened with ⟨opening, state | result⟩
  · have finished := run_satisfies step [] start meets
    rwa [List.nil_append] at finished
  · exact start

theorem call_invariant {body : Body σ ι ω ρ}
    {invariant : List (Turn σ ι ω) → σ → Prop} {post : List (Turn σ ι ω) → ρ → Prop}
    (step : ∀ past state input, invariant past state →
      (body state input).2.Satisfies
        (invariant (past ++ [⟨state, input, (body state input).1⟩]))
        (post (past ++ [⟨state, input, (body state input).1⟩])))
    {opened : List ω × Next σ ρ} (start : opened.2.Satisfies (invariant []) (post []))
    (inputs : List ι) :
    (call body opened inputs).outcome.Satisfies
      (invariant (call body opened inputs).turns) (post (call body opened inputs).turns) := by
  rcases opened with ⟨opening, state | result⟩
  · have finished := run_invariant step [] start inputs
    rwa [List.nil_append] at finished
  · exact start

/-- What every pass does from a state of the invariant, a call does from beginning to end. -/
theorem call_all {body : Body σ ι ω ρ} {allowed : ω → Prop} {invariant : σ → Prop}
    (step : ∀ state input, invariant state → (∀ event ∈ (body state input).1, allowed event) ∧
      ∀ next, (body state input).2 = .again next → invariant next)
    {opened : List ω × Next σ ρ} (opening : ∀ event ∈ opened.1, allowed event)
    (start : opened.2.Satisfies invariant fun _ => True) (inputs : List ι) :
    ∀ event ∈ (call body opened inputs).trace, allowed event := by
  intro event member
  obtain ⟨events, next⟩ := opened
  cases next with
  | done result =>
      rw [call, Call.trace, outputs_nil, List.append_nil] at member
      exact opening event member
  | again state =>
      rw [call, Call.trace, List.mem_append] at member
      cases member with
      | inl first => exact opening event first
      | inr later =>
          obtain ⟨turn, made, output⟩ := List.mem_flatMap.mp later
          have before := run_before (fun state input next holds => (step state input holds).2 next) start made
          rw [run_output made] at output
          exact (step turn.before turn.input before).1 event output

end Cyberjack.Foundation
