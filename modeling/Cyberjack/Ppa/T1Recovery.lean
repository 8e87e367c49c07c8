import Cyberjack.Foundation.Streak
import Cyberjack.Ppa.T1Delivery

namespace Cyberjack.Ppa

open Cyberjack.Foundation

/-! # Error recovery

The error counter bounds the replies that cannot be used, one after another,
except where the third of them asks for the last block of the command.
-/

variable {capacity : Nat} {trace : List Event} {state next : T1State capacity}
  {pass : Pass capacity}

/-- A reply that is erroneous or asks for a block again. -/
def Verdict.IsBad : Verdict → Prop
  | .accepted => False
  | .request => False
  | .acknowledged => False
  | _ => True

instance : DecidablePred Verdict.IsBad := fun judged => by
  cases judged <;> unfold Verdict.IsBad <;> infer_instance

abbrev T1Turn (capacity : Nat) := Turn (T1State capacity) Reply Event

/-- A bad reply that does not end the exchange. -/
def BadSurvived (turn : T1Turn capacity) : Prop :=
  (verdict (receive turn.input turn.before)).IsBad ∧
    (innerLoopBody turn.before turn.input).2.GoesOn

instance : DecidablePred fun turn : T1Turn capacity => BadSurvived turn := fun turn =>
  inferInstanceAs (Decidable ((verdict (receive turn.input turn.before)).IsBad ∧
    (innerLoopBody turn.before turn.input).2.GoesOn))

/-- Every new I-block carries something of the command. -/
def Progresses (trace : List Event) : Prop :=
  ∀ bwi block, .sentNew bwi block ∈ trace → field block ≠ []

structure Recovers (result : T1Run capacity) : Prop where
  errors : StreaksWithin BadSurvived 2 result.turns
  progress : Progresses result.trace

/-- The third reply in a row that cannot be used does not ask for the last block again. -/
def NoThirdRepeat (state : T1State capacity) (reply : Reply) : Prop :=
  verdict (receive reply state) = .repeats → state.error < 2

instance (state : T1State capacity) (reply : Reply) : Decidable (NoThirdRepeat state reply) := by
  unfold NoThirdRepeat
  infer_instance

theorem builtBlock_progresses {handle : Handle} (installed : Installed handle) {cmd : List UInt8}
    (unsent : cmd ≠ []) : field (builtBlock handle cmd) ≠ [] := by
  have low : 16 ≤ handle.IFSC.toNat := UInt8.le_iff_toNat_le.mp installed.low
  have some := List.length_pos_iff.mpr unsent
  rw [field_builtBlock, ← List.length_pos_iff, List.length_take, nextInf_eq_min]
  omega

theorem Moves.progresses {judged : Verdict} (moves : Moves state judged pass)
    (installed : Installed state.handle) (progress : Progresses trace) :
    Progresses (trace ++ pass.1) := by
  intro bwi block member
  rcases List.mem_append.mp member with member | member
  · exact progress bwi block member
  · have unsent : ∀ events, Quiet events → .sentNew bwi block ∉ events :=
      fun events quiet new => quiet _ new trivial
    cases moves with
    | ended silent failed unaccepted unrepeated room =>
        rcases silent with rfl | rfl
        · simp at member
        · simp at member
    | refused controls handle few error => exact absurd member (unsent _ controls.quiet.1)
    | overrun noRoom => simp at member
    | answered room controls installed error => exact absurd member (unsent _ controls.quiet.1)
    | resent keeps ready handle error =>
        rcases resent_events _ member with resent | resent
        · contradiction
        · contradiction
    | acknowledged builds _ more same =>
        rw [List.mem_singleton] at member
        cases member
        apply builtBlock_progresses
        · rw [same]
          exact ⟨installed.low, installed.high, installed.edc⟩
        · rw [same]
          exact more
    | acceptOverrun noRoom => simp at member
    | finished room accepts success last => simp at member
    | chained room accepts controls handle error last =>
        rcases List.mem_cons.mp member with accepted | member
        · contradiction
        · exact absurd member (unsent _ controls.quiet.1)

/-- The counter counts the bad replies at the end of the history, as long as
none of them was the third and asked for a block again. -/
def Tally (past : T1Turns capacity) (error : Int) : Prop :=
  (Meets NoThirdRepeat past ∧ StreaksWithin BadSurvived 2 past ∧
      error = trailing BadSurvived past ∧ error ≤ 2) ∨
    (¬ Meets NoThirdRepeat past ∧ ¬ StreaksWithin BadSurvived 2 past)

theorem Tally.iff {past : T1Turns capacity} {error : Int} (tally : Tally past error) :
    StreaksWithin BadSurvived 2 past ↔ Meets NoThirdRepeat past := by
  rcases tally with ⟨meets, within, _⟩ | ⟨unmet, streaks⟩
  · exact iff_of_true within meets
  · exact iff_of_false streaks unmet

theorem Moves.counts {judged : Verdict} (moves : Moves state judged pass)
    (again : pass.2 = .again next) :
    (judged.IsBad ∧ next.error = int32 (state.error + 1) ∧
        (judged ≠ .repeats → int32 (state.error + 1) ≤ 2)) ∨
      (¬ judged.IsBad ∧ next.error = 0) := by
  cases moves with
  | ended silent failed unaccepted unrepeated room => contradiction
  | refused controls handle few error =>
      obtain ⟨_, _, rfl, _⟩ := controls.sent
      cases again
      exact .inl ⟨trivial, error, fun _ => few⟩
  | overrun noRoom => contradiction
  | answered room controls installed error =>
      obtain ⟨_, _, rfl, _⟩ := controls.sent
      cases again
      exact .inr ⟨id, error⟩
  | resent keeps ready handle error =>
      cases again
      exact .inl ⟨trivial, error, fun other => absurd rfl other⟩
  | acknowledged builds installed more same =>
      cases again
      refine .inr ⟨id, ?_⟩
      rw [builds.error, same]
  | acceptOverrun noRoom => contradiction
  | finished room accepts success last => contradiction
  | chained room accepts controls handle error last =>
      obtain ⟨_, _, rfl, _⟩ := controls.sent
      cases again
      exact .inr ⟨id, error⟩

/-- A block is sent again, whatever the counter says. -/
theorem Moves.unrepeated {judged : Verdict} {outcome : Outcome capacity}
    (moves : Moves state judged pass) (done : pass.2 = .done outcome) : judged ≠ .repeats := by
  rintro rfl
  cases moves with
  | ended silent failed unaccepted unrepeated room => exact unrepeated rfl
  | resent keeps ready handle error => contradiction

theorem Tally.again {past : T1Turns capacity} {reply : Reply} (tally : Tally past state.error)
    (running : Running state) (stepped : (innerLoopBody state reply).2 = .again next) :
    Tally (past ++ [⟨state, reply, (innerLoopBody state reply).1⟩]) next.error := by
  have counts := (innerLoopBody_moves running reply).counts stepped
  change (_ ∧ next.error = int32 (state.error + 1) ∧ (_ → int32 (state.error + 1) ≤ 2)) ∨ _ at counts
  rcases tally with ⟨meets, within, counted, few⟩ | ⟨unmet, streaks⟩
  · rcases counts with ⟨bad, error, bounded⟩ | ⟨good, error⟩
    · have survived : BadSurvived (⟨state, reply, (innerLoopBody state reply).1⟩ : T1Turn capacity) :=
        ⟨bad, by rw [stepped]; trivial⟩
      have longer : trailing BadSurvived
          (past ++ [⟨state, reply, (innerLoopBody state reply).1⟩]) = trailing BadSurvived past + 1 := by
        rw [trailing_snoc, if_pos survived]
      rw [int32_of_range (by omega) (by omega)] at error bounded
      by_cases allowed : state.error < 2
      · refine .inl ⟨?_, within.snoc ?_, ?_, ?_⟩
        · rw [meets_append, meets_cons]
          exact ⟨meets, fun _ => allowed, meets_nil⟩
        · omega
        · omega
        · omega
      · refine .inr ⟨fun all => ?_, fun all => ?_⟩
        · have here : NoThirdRepeat state reply := (meets_cons.mp (meets_append.mp all).2).1
          have other : verdict (receive reply state) ≠ .repeats := fun repeats => allowed (here repeats)
          have bound := bounded other
          omega
        · have bound := all.trailing_le
          omega
    · have fresh : ¬ BadSurvived (⟨state, reply, (innerLoopBody state reply).1⟩ : T1Turn capacity) :=
        fun survived => good survived.1
      have none : trailing BadSurvived
          (past ++ [⟨state, reply, (innerLoopBody state reply).1⟩]) = 0 := by
        rw [trailing_snoc, if_neg fresh]
      refine .inl ⟨?_, within.snoc ?_, ?_, ?_⟩
      · rw [meets_append, meets_cons]
        refine ⟨meets, fun repeats => ?_, meets_nil⟩
        rw [repeats] at good
        exact absurd trivial good
      · omega
      · omega
      · omega
  · exact .inr ⟨fun all => unmet (meets_append.mp all).1, fun all => streaks all.front⟩

theorem Tally.done {past : T1Turns capacity} {reply : Reply} {outcome : Outcome capacity}
    (tally : Tally past state.error) (running : Running state)
    (stepped : (innerLoopBody state reply).2 = .done outcome) :
    Tally (past ++ [⟨state, reply, (innerLoopBody state reply).1⟩]) 0 := by
  have unrepeated := (innerLoopBody_moves running reply).unrepeated stepped
  rcases tally with ⟨meets, within, counted, few⟩ | ⟨unmet, streaks⟩
  · have ended : ¬ BadSurvived (⟨state, reply, (innerLoopBody state reply).1⟩ : T1Turn capacity) := by
      rintro ⟨_, again⟩
      rw [stepped] at again
      exact again
    have none : trailing BadSurvived
        (past ++ [⟨state, reply, (innerLoopBody state reply).1⟩]) = 0 := by
      rw [trailing_snoc, if_neg ended]
    refine .inl ⟨?_, within.snoc ?_, ?_, ?_⟩
    · rw [meets_append, meets_cons]
      exact ⟨meets, fun repeats => absurd repeats unrepeated, meets_nil⟩
    · omega
    · omega
    · omega
  · exact .inr ⟨fun all => unmet (meets_append.mp all).1, fun all => streaks all.front⟩

/-- The invariant of the inner loop, over the events since the opening. -/
structure Counting (opening : List Event) (past : T1Turns capacity) (state : T1State capacity) :
    Prop where
  running : Running state
  tally : Tally past state.error
  progress : Progresses (opening ++ outputs past)

/-- What is known where the function has returned. -/
def Counted (opening : List Event) (past : T1Turns capacity) (_ : Outcome capacity) : Prop :=
  (StreaksWithin BadSurvived 2 past ↔ Meets NoThirdRepeat past) ∧
    Progresses (opening ++ outputs past)

theorem innerLoopBody_counting (opening : List Event) (past : T1Turns capacity)
    (state : T1State capacity) (reply : Reply) (counting : Counting opening past state) :
    (innerLoopBody state reply).2.Satisfies
      (Counting opening (past ++ [⟨state, reply, (innerLoopBody state reply).1⟩]))
      (Counted opening (past ++ [⟨state, reply, (innerLoopBody state reply).1⟩])) := by
  obtain ⟨running, tally, progress⟩ := counting
  have moves := innerLoopBody_moves running reply
  have later : Progresses
      (opening ++ outputs (past ++ [⟨state, reply, (innerLoopBody state reply).1⟩])) := by
    rw [outputs_append, outputs_singleton, ← List.append_assoc]
    exact moves.progresses running.installed progress
  cases stepped : (innerLoopBody state reply).2 with
  | again next => exact ⟨moves.running (running.received reply) stepped, tally.again running stepped, later⟩
  | done outcome => exact ⟨(tally.done running stepped).iff, later⟩

theorem tally_nil : Tally ([] : T1Turns capacity) 0 :=
  .inl ⟨meets_nil, streaksWithin_nil, rfl, by decide⟩

theorem APDU2TPDU_T1_counted {handle : Handle} (installed : Installed handle) (cmd : List UInt8)
    (response : Buffer UInt8 capacity) (frame : Frame) (replies : List Reply) :
    (APDU2TPDU_T1 handle cmd response frame replies).outcome.Satisfies
      (Counting (APDU2TPDU_T1 handle cmd response frame replies).opening
        (APDU2TPDU_T1 handle cmd response frame replies).turns)
      (Counted (APDU2TPDU_T1 handle cmd response frame replies).opening
        (APDU2TPDU_T1 handle cmd response frame replies).turns) := by
  rw [APDU2TPDU_T1, call_opening]
  apply call_invariant (innerLoopBody_counting _)
  by_cases empty : cmd = []
  · subst empty
    rw [outerLoop_empty rfl]
    exact ⟨tally_nil.iff, fun _ _ member => by cases member⟩
  · obtain ⟨next, opens, builds⟩ := outerLoop_builds
      (initialState handle cmd response frame) installed empty
    rw [opens]
    refine ⟨builds.running (builds.handle ▸ installed), ?_, ?_⟩
    · rw [builds.error]
      exact tally_nil
    · intro bwi block member
      rw [outputs_nil, List.append_nil, List.mem_singleton] at member
      cases member
      exact builtBlock_progresses installed empty

/-- Recovery is bounded, and every new block carries something, exactly in the
runs in which no third bad reply in a row asks for the last block again. -/
theorem recovers_iff_noThirdRepeat {handle : Handle} (installed : Installed handle)
    (cmd : List UInt8) (response : Buffer UInt8 capacity) (frame : Frame) (replies : List Reply) :
    Recovers (APDU2TPDU_T1 handle cmd response frame replies) ↔
      Meets NoThirdRepeat (APDU2TPDU_T1 handle cmd response frame replies).turns := by
  have counted := APDU2TPDU_T1_counted installed cmd response frame replies
  generalize APDU2TPDU_T1 handle cmd response frame replies = result at counted ⊢
  cases ended : result.outcome with
  | again state =>
      rw [ended] at counted
      exact ⟨fun recovers => counted.tally.iff.mp recovers.errors,
        fun meets => ⟨counted.tally.iff.mpr meets, counted.progress⟩⟩
  | done outcome =>
      rw [ended] at counted
      exact ⟨fun recovers => counted.1.mp recovers.errors,
        fun meets => ⟨counted.1.mpr meets, counted.2⟩⟩

/-- Two parity errors, and the response comes in spite of them. -/
theorem parityErrors_recovers :
    Installed .opened ∧ Recovers
      (APDU2TPDU_T1 .opened [0x00, 0x84, 0x00, 0x00] (.filled 8 0 : Buffer UInt8 8) .zeroed
        [⟨.success, 0x40, 0xFD, []⟩, ⟨.success, 0x40, 0xFD, []⟩,
          .ofBlock [0x00, 0x00, 0x02, 0x90, 0x00, 0x92]]) :=
  ⟨by decide, (recovers_iff_noThirdRepeat (by decide) _ _ _ _).mpr (by decide +kernel)⟩

/-- The third R-block that asks for the command again does not end the exchange. -/
theorem endlessRepeat_not_recovers :
    ¬ Recovers
      (APDU2TPDU_T1 .opened [0x00, 0x84, 0x00, 0x00] (.filled 8 0 : Buffer UInt8 8) .zeroed
        (List.replicate 3 (.ofBlock [0x00, 0x81, 0x00, 0x81]))) := by
  intro recovers
  have bound := recovers.errors.trailing_le
  exact absurd bound (by decide +kernel)

end Cyberjack.Ppa
