import Cyberjack.Ppa.T1Delivery

namespace Cyberjack.Ppa

open Cyberjack.Foundation

/-! # Assembly of the response

The copies stay inside their arrays, and the response is the information fields
one after another, as long as each block is as long as it says.
-/

variable {capacity : Nat} {trace : List Event} {state next : T1State capacity}
  {pass : Pass capacity}

def Event.content : Event → Option (List UInt8)
  | .accepted field => some field
  | _ => none

/-- The information fields accepted from the card, one after another. -/
def acceptedFields (trace : List Event) : List UInt8 := (trace.filterMap Event.content).flatten

@[simp] theorem acceptedFields_append (front back : List Event) :
    acceptedFields (front ++ back) = acceptedFields front ++ acceptedFields back := by
  simp [acceptedFields]

theorem acceptedFields_singleton (field : List UInt8) : acceptedFields [.accepted field] = field := by
  simp [acceptedFields, Event.content]

theorem acceptedFields_nil_of {events : List Event} (unaccepted : ∀ event ∈ events, ¬ event.IsAccepted) :
    acceptedFields events = [] := by
  have none : events.filterMap Event.content = [] := by
    rw [List.filterMap_eq_nil_iff]
    intro event member
    cases event with
    | accepted field => exact absurd trivial (unaccepted _ member)
    | sentNew bwi block => rfl
    | sent bwi block => rfl
    | iccPowerOff => rfl
  rw [acceptedFields, none, List.flatten_nil]

/-- The function stays inside its arrays, and what it returns with success in
the caller's capacity is the response of the card. -/
structure Assembles (result : T1Run capacity) : Prop where
  inside : result.outcome ≠ .done .fault
  assembled : ∀ final, result.outcome = .done (.returned final) → final.Result = .success →
    final.lenr ≤ capacity → final.response.cells.take final.lenr = acceptedFields result.trace

/-- The block that arrives fits where it is copied to. -/
def InBounds (state : T1State capacity) (reply : Reply) : Prop :=
  (verdict (receive reply state) = .accepted → IBlockRoom (receive reply state)) ∧
    (verdict (receive reply state) = .request → SBlockRoom (receive reply state))

/-- An accepted block is as long as it says, and the length of the response so
far fits into an `unsigned short`. -/
def Exact (state : T1State capacity) (reply : Reply) : Prop :=
  verdict (receive reply state) = .accepted →
    (receive reply state).received = ((receive reply state).rbuffer.get 2).toNat ∧
      state.lenr + ((receive reply state).rbuffer.get 2).toNat < 65536

instance (state : T1State capacity) (reply : Reply) : Decidable (InBounds state reply) := by
  unfold InBounds
  infer_instance

instance (state : T1State capacity) (reply : Reply) : Decidable (Exact state reply) := by
  unfold Exact
  infer_instance

theorem Moves.fault_iff {judged : Verdict} (moves : Moves state judged pass) :
    pass.2 = .done .fault ↔
      ¬ ((judged = .accepted → IBlockRoom state) ∧ (judged = .request → SBlockRoom state)) := by
  cases moves with
  | ended silent failed unaccepted unrepeated room =>
      refine iff_of_false ?_ (not_not.mpr ⟨fun accepted => absurd accepted unaccepted, room⟩)
      intro fault
      cases fault
  | refused controls handle few error =>
      obtain ⟨_, _, rfl, _⟩ := controls.sent
      exact iff_of_false (by simp) (by simp)
  | overrun noRoom => exact iff_of_true rfl fun both => noRoom (both.2 rfl)
  | answered room controls installed error =>
      obtain ⟨_, _, rfl, _⟩ := controls.sent
      exact iff_of_false (by simp) (by simpa using room)
  | resent keeps ready handle error => exact iff_of_false (by simp) (by simp)
  | acknowledged builds installed more same => exact iff_of_false (by simp) (by simp)
  | acceptOverrun noRoom => exact iff_of_true rfl fun both => noRoom (both.1 rfl)
  | finished room accepts success last =>
      refine iff_of_false ?_ (by simpa using room)
      intro fault
      cases fault
  | chained room accepts controls handle error last =>
      obtain ⟨_, _, rfl, _⟩ := controls.sent
      exact iff_of_false (by simp) (by simpa using room)

/-- The response so far, as long as it fits; the capacity left is that of the
caller without it. -/
structure Assembled (trace : List Event) (state : T1State capacity) : Prop where
  length : state.lenr = (acceptedFields trace).length
  copied : state.lenr ≤ capacity →
    state.response.cells.take state.lenr = acceptedFields trace ∧
      state.maxresp = capacity - state.lenr

theorem Assembled.same {events : List Event} (assembled : Assembled trace state)
    (unaccepted : ∀ event ∈ events, ¬ event.IsAccepted) (lenr : next.lenr = state.lenr)
    (maxresp : next.maxresp = state.maxresp) (response : next.response = state.response) :
    Assembled (trace ++ events) next := by
  obtain ⟨length, copied⟩ := assembled
  rw [← lenr] at length copied
  rw [← maxresp, ← response] at copied
  refine ⟨?_, ?_⟩
  · rwa [acceptedFields_append, acceptedFields_nil_of unaccepted, List.append_nil]
  · rwa [acceptedFields_append, acceptedFields_nil_of unaccepted, List.append_nil]

theorem length_inf (state : T1State capacity) : state.inf.length = (state.rbuffer.get 2).toNat := by
  have size := state.rbuffer.length_cells
  have byte := (state.rbuffer.get 2).toNat_lt
  rw [T1State.inf, List.length_take, List.length_drop]
  omega

/-- An accepted block that is as long as it says extends the response by its
information field. -/
theorem Assembled.accepts {after : T1State capacity} (assembled : Assembled trace state)
    (accepts : Accepts state after) (exact : state.received = (state.rbuffer.get 2).toNat)
    (short : state.lenr + (state.rbuffer.get 2).toNat < 65536) :
    Assembled (trace ++ [.accepted state.inf]) after := by
  have lenr : after.lenr = state.lenr + (state.rbuffer.get 2).toNat := by
    rw [accepts.lenr, exact, ← Int.natCast_add]
    exact uint16_of_range short
  refine ⟨?_, ?_⟩
  · rw [acceptedFields_append, acceptedFields_singleton, List.length_append, length_inf, lenr,
      assembled.length]
  · rw [lenr]
    intro fits
    obtain ⟨front, left⟩ := assembled.copied (by omega)
    have room : state.received ≤ state.maxresp := by omega
    refine ⟨?_, ?_⟩
    · have copied := accepts.copied room
      rw [exact, Int.toNat_natCast, front] at copied
      rw [copied, acceptedFields_append, acceptedFields_singleton]
      rfl
    · rw [accepts.maxresp, if_pos room]
      omega

theorem Assembled.controls {before : T1State capacity} (assembled : Assembled trace before)
    (controls : Controls before pass next) : Assembled (trace ++ pass.1) next :=
  assembled.same controls.quiet.2 controls.keeps.lenr controls.keeps.maxresp controls.keeps.response

/-- What is known of the response where the function has returned with success. -/
def Returns (trace : List Event) (outcome : Outcome capacity) : Prop :=
  ∀ final, outcome = .returned final → final.Result = .success → Assembled trace final

theorem Moves.assembled {judged : Verdict} (moves : Moves state judged pass)
    (assembled : Assembled trace state)
    (exact : judged = .accepted → state.received = (state.rbuffer.get 2).toNat ∧
      state.lenr + (state.rbuffer.get 2).toNat < 65536) :
    pass.2.Satisfies (Assembled (trace ++ pass.1)) (Returns (trace ++ pass.1)) := by
  cases moves with
  | ended silent failed unaccepted unrepeated room =>
      intro final returned success
      cases returned
      exact absurd success failed
  | refused controls handle few error =>
      have later := assembled.controls controls
      obtain ⟨_, _, rfl, _⟩ := controls.sent
      exact later
  | overrun noRoom =>
      intro final returned
      cases returned
  | answered room controls installed error =>
      have later := assembled.controls controls
      obtain ⟨_, _, rfl, _⟩ := controls.sent
      exact later
  | resent keeps ready handle error =>
      refine assembled.same ?_ keeps.lenr keeps.maxresp keeps.response
      intro event member
      rcases resent_events event member with rfl | rfl
      · exact id
      · exact id
  | acknowledged builds installed more same =>
      subst same
      exact assembled.same (by simp [Event.IsAccepted]) builds.lenr builds.maxresp builds.response
  | acceptOverrun noRoom =>
      intro final returned
      cases returned
  | finished room accepts success last =>
      intro final returned _
      cases returned
      exact assembled.accepts accepts (exact rfl).1 (exact rfl).2
  | chained room accepts controls handle error last =>
      have later := (assembled.accepts accepts (exact rfl).1 (exact rfl).2).controls controls
      obtain ⟨_, _, rfl, _⟩ := controls.sent
      rwa [List.append_assoc] at later

/-- The invariant of the inner loop, over the events since the opening. -/
structure Assembling (opening : List Event) (past : T1Turns capacity) (state : T1State capacity) :
    Prop where
  running : Running state
  inBounds : Meets InBounds past
  assembled : Meets Exact past → Assembled (opening ++ outputs past) state

/-- What is known where the function has returned. -/
structure Finished (opening : List Event) (past : T1Turns capacity) (outcome : Outcome capacity) :
    Prop where
  inBounds : outcome ≠ .fault ↔ Meets InBounds past
  returns : Meets Exact past → Returns (opening ++ outputs past) outcome

theorem innerLoopBody_assembling (opening : List Event) (past : T1Turns capacity)
    (state : T1State capacity) (reply : Reply) (assembling : Assembling opening past state) :
    (innerLoopBody state reply).2.Satisfies
      (Assembling opening (past ++ [⟨state, reply, (innerLoopBody state reply).1⟩]))
      (Finished opening (past ++ [⟨state, reply, (innerLoopBody state reply).1⟩])) := by
  obtain ⟨running, inBounds, assembled⟩ := assembling
  have moves := innerLoopBody_moves running reply
  have fault := moves.fault_iff
  have meets : Meets InBounds (past ++ [⟨state, reply, (innerLoopBody state reply).1⟩]) ↔
      InBounds state reply := by
    rw [meets_append, meets_cons]
    exact ⟨fun all => all.2.1, fun here => ⟨inBounds, here, meets_nil⟩⟩
  have later : Meets Exact (past ++ [⟨state, reply, (innerLoopBody state reply).1⟩]) →
      (innerLoopBody state reply).2.Satisfies
        (Assembled (opening ++ outputs (past ++ [⟨state, reply, (innerLoopBody state reply).1⟩])))
        (Returns (opening ++ outputs (past ++ [⟨state, reply, (innerLoopBody state reply).1⟩]))) := by
    intro exact
    obtain ⟨before, last⟩ := meets_append.mp exact
    have here : Exact state reply := (meets_cons.mp last).1
    have received : Assembled (opening ++ outputs past) (receive reply state) :=
      ⟨(assembled before).length, (assembled before).copied⟩
    rw [outputs_append, outputs_singleton, ← List.append_assoc]
    exact moves.assembled received here
  cases stepped : (innerLoopBody state reply).2 with
  | again next =>
      rw [stepped] at fault later
      refine ⟨moves.running (running.received reply) stepped, meets.mpr ?_, later⟩
      by_contra outside
      have impossible := fault.mpr outside
      cases impossible
  | done outcome =>
      rw [stepped] at fault later
      refine ⟨?_, later⟩
      rw [meets, InBounds, ← not_not (a := _ ∧ _), ← fault, Next.done.injEq]

theorem APDU2TPDU_T1_finished {handle : Handle} (installed : Installed handle) (cmd : List UInt8)
    (response : Buffer UInt8 capacity) (frame : Frame) (replies : List Reply) :
    (APDU2TPDU_T1 handle cmd response frame replies).outcome.Satisfies
      (Assembling (APDU2TPDU_T1 handle cmd response frame replies).opening
        (APDU2TPDU_T1 handle cmd response frame replies).turns)
      (Finished (APDU2TPDU_T1 handle cmd response frame replies).opening
        (APDU2TPDU_T1 handle cmd response frame replies).turns) := by
  rw [APDU2TPDU_T1, call_opening]
  apply call_invariant (innerLoopBody_assembling _)
  have start : Assembled [] (initialState handle cmd response frame) :=
    ⟨rfl, fun _ => ⟨rfl, by simp [initialState]⟩⟩
  by_cases empty : cmd = []
  · subst empty
    rw [outerLoop_empty rfl]
    refine ⟨iff_of_true (by simp) meets_nil, ?_⟩
    intro _ final returned _
    cases returned
    exact start
  · obtain ⟨next, opens, builds⟩ := outerLoop_builds
      (initialState handle cmd response frame) installed empty
    rw [opens]
    refine ⟨builds.running (builds.handle ▸ installed), meets_nil, fun _ => ?_⟩
    exact start.same (by simp [Event.IsAccepted]) builds.lenr builds.maxresp builds.response

/-- The function stays inside its arrays exactly in the runs whose blocks fit
where they are copied to; it then assembles the response if each block is as
long as it says. -/
theorem assembles_of_inBounds {handle : Handle} (installed : Installed handle) (cmd : List UInt8)
    (response : Buffer UInt8 capacity) (frame : Frame) (replies : List Reply) :
    ((APDU2TPDU_T1 handle cmd response frame replies).outcome ≠ .done .fault ↔
        Meets InBounds (APDU2TPDU_T1 handle cmd response frame replies).turns) ∧
      (Meets InBounds (APDU2TPDU_T1 handle cmd response frame replies).turns →
        Meets Exact (APDU2TPDU_T1 handle cmd response frame replies).turns →
        Assembles (APDU2TPDU_T1 handle cmd response frame replies)) := by
  have finished := APDU2TPDU_T1_finished installed cmd response frame replies
  generalize APDU2TPDU_T1 handle cmd response frame replies = result at finished ⊢
  cases ended : result.outcome with
  | again state =>
      rw [ended] at finished
      refine ⟨iff_of_true (by simp) finished.inBounds, fun _ _ => ⟨by simp [ended], ?_⟩⟩
      intro final returned
      rw [ended] at returned
      contradiction
  | done outcome =>
      rw [ended] at finished
      refine ⟨?_, fun inBounds exact => ⟨?_, ?_⟩⟩
      · rw [← finished.inBounds, Ne, Next.done.injEq]
      · rw [ended, Ne, Next.done.injEq]
        exact finished.inBounds.mpr inBounds
      · intro final returned success fits
        rw [ended] at returned
        cases returned
        exact ((finished.returns exact final rfl success).copied fits).1

/-- A response in two blocks is assembled in the caller's array. -/
theorem chainedResponse_assembles :
    Installed .opened ∧ Assembles
      (APDU2TPDU_T1 .opened [0x00, 0x84, 0x00, 0x00] (.filled 8 0 : Buffer UInt8 8) .zeroed
        [.ofBlock [0x00, 0x20, 0x01, 0x11, 0x30], .ofBlock [0x00, 0x40, 0x02, 0x90, 0x00, 0xD2]]) :=
  ⟨by decide, (assembles_of_inBounds (by decide) _ _ _ _).2 (by decide +kernel) (by decide +kernel)⟩

/-- A block that does not fit followed by one that does, an S-request longer
than `rblock`, and a block that is longer than it says. -/
theorem wrongLengths_not_assembles :
    ¬ Assembles (APDU2TPDU_T1 .opened [0x00, 0x84, 0x00, 0x00] (.filled 3 0 : Buffer UInt8 3) .zeroed
        [.ofBlock [0x00, 0x20, 0x04, 0x11, 0x22, 0x33, 0x44, 0x60],
          .ofBlock [0x00, 0x40, 0x02, 0x90, 0x00, 0xD2]]) ∧
      ¬ Assembles (APDU2TPDU_T1 .opened [0x00, 0x84, 0x00, 0x00] (.filled 8 0 : Buffer UInt8 8)
        .zeroed [.ofBlock [0x00, 0xC1, 0x01, 0x20, 0x00, 0x00, 0xE0]]) ∧
      ¬ Assembles (APDU2TPDU_T1 .opened [0x00, 0x84, 0x00, 0x00] (.filled 8 0 : Buffer UInt8 8)
        .zeroed [.ofBlock [0x00, 0x00, 0x01, 0x90, 0x00, 0x91]]) := by
  refine ⟨fun assembles => assembles.inside rfl, fun assembles => assembles.inside rfl, ?_⟩
  intro assembles
  have wrong := assembles.assembled _ rfl rfl (by decide)
  exact absurd wrong (by decide +kernel)

end Cyberjack.Ppa
