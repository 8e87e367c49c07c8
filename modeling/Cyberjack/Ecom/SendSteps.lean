import Cyberjack.Ecom.SendCmd

namespace Cyberjack.Ecom

open Cyberjack.Foundation

/-! # What a pass does to the sending half

A pass either answers with a supervisory block and leaves the sending half
alone, or sends the stored I-block again, or builds the next one.
-/

variable {maxRspLen : Nat} {before state after : SendState maxRspLen} {block rblock : List UInt8}

/-- A property of the state a pass leaves, wherever that state is known. -/
def Reaches (property : SendState maxRspLen → Prop) :
    Next (SendState maxRspLen) (Outcome maxRspLen) → Prop
  | .again state => property state
  | .done (.returned _ final) => property final
  | .done .fault => True

instance {property : SendState maxRspLen → Prop} [DecidablePred property] :
    (next : Next (SendState maxRspLen) (Outcome maxRspLen)) → Decidable (Reaches property next)
  | .again state => inferInstanceAs (Decidable (property state))
  | .done (.returned _ final) => inferInstanceAs (Decidable (property final))
  | .done .fault => inferInstanceAs (Decidable True)

@[simp] theorem reaches_again {property : SendState maxRspLen → Prop} :
    Reaches property (.again state) ↔ property state := Iff.rfl

@[simp] theorem reaches_returned {property : SendState maxRspLen → Prop} {ret : Exit} :
    Reaches property (.done (.returned ret state)) ↔ property state := Iff.rfl

theorem Reaches.imp {property weaker : SendState maxRspLen → Prop}
    {next : Next (SendState maxRspLen) (Outcome maxRspLen)} (reached : Reaches property next)
    (implied : ∀ state, property state → weaker state) : Reaches weaker next := by
  rcases next with state | ⟨ret, final⟩ | _
  · exact implied state reached
  · exact implied final reached
  · trivial

theorem Reaches.and {first second : SendState maxRspLen → Prop}
    {next : Next (SendState maxRspLen) (Outcome maxRspLen)} (one : Reaches first next)
    (other : Reaches second next) : Reaches (fun state => first state ∧ second state) next := by
  rcases next with state | ⟨ret, final⟩ | _
  · exact ⟨one, other⟩
  · exact ⟨one, other⟩
  · trivial

def SameSender (before after : SendState maxRspLen) : Prop :=
  after.apdu.cmd = before.apdu.cmd ∧ after.sendptr = before.sendptr ∧
    after.more = before.more ∧ after.block = before.block ∧
    (before.lastiicc = true → after.lastiicc = true)

theorem SameSender.refl (state : SendState maxRspLen) : SameSender state state := ⟨rfl, rfl, rfl, rfl, id⟩

theorem SameSender.trans (first : SameSender before state) (second : SameSender state after) :
    SameSender before after := by
  obtain ⟨cmd, sendptr, more, block, turn⟩ := first
  obtain ⟨cmd', sendptr', more', block', turn'⟩ := second
  exact ⟨cmd'.trans cmd, sendptr'.trans sendptr, more'.trans more, block'.trans block,
    fun card => turn' (turn card)⟩

/-- No I-block was sent. -/
def Supervisory (events : List Event) : Prop :=
  ∀ event ∈ events, match event with
    | .sentNew _ _ => False
    | .sent _ block => WellFormed block ∧ ¬ IsIBlock block
    | .accepted _ => True
    | .keycb _ => True

@[simp] theorem supervisory_nil : Supervisory [] := by simp [Supervisory]

theorem Supervisory.append {front back : List Event} (first : Supervisory front)
    (second : Supervisory back) : Supervisory (front ++ back) := by
  intro event member
  rcases List.mem_append.mp member with member | member
  · exact first event member
  · exact second event member

structure Answers (before : SendState maxRspLen) (pass : Pass maxRspLen) : Prop where
  supervisory : Supervisory pass.1
  same : Reaches (SameSender before) pass.2

theorem Answers.trans {pass : Pass maxRspLen} (same : SameSender before state)
    (answers : Answers state pass) : Answers before pass :=
  ⟨answers.supervisory, answers.same.imp fun _ later => same.trans later⟩

theorem Answers.append {pass : Pass maxRspLen} {events : List Event} (front : Supervisory events)
    (answers : Answers before pass) : Answers before (events ++ pass.1, pass.2) :=
  ⟨front.append answers.supervisory, answers.same⟩

theorem giveUp_answers (ret : Exit) (same : SameSender before state) :
    Answers before (giveUp ret state) :=
  ⟨supervisory_nil, same⟩

theorem transmit_answers (io : Io) (control : WellFormed block ∧ ¬ IsIBlock block)
    (here : SameSender before state) (later : SameSender before after) :
    Answers before (transmit block io state after) := by
  refine ⟨by simpa [transmit, Supervisory] using control, ?_⟩
  simp only [transmit]
  split
  · exact later
  · exact here

theorem rBlock_control (t1 : T1Info) (type : RType) :
    WellFormed (cjT1RBlock t1 type) ∧ ¬ IsIBlock (cjT1RBlock t1 type) :=
  ⟨cjT1RBlock_wellFormed t1 type, cjT1RBlock_not_iBlock t1 type⟩

theorem sBlock_control (type : SType) (dir : Direction) (param : UInt8) :
    WellFormed (cjT1SBlock type dir param) ∧ ¬ IsIBlock (cjT1SBlock type dir param) :=
  ⟨cjT1SBlock_wellFormed type dir param, cjT1SBlock_not_iBlock type dir param⟩

theorem onReceiveError_answers (io : Io) (state : SendState maxRspLen) :
    Answers state (onReceiveError io state) := by
  simp only [onReceiveError]
  split
  · exact giveUp_answers _ (.refl state)
  · split
    · exact giveUp_answers _ ⟨rfl, rfl, rfl, rfl, id⟩
    · exact transmit_answers io (rBlock_control _ _) ⟨rfl, rfl, rfl, rfl, id⟩ ⟨rfl, rfl, rfl, rfl, id⟩

theorem onBadBlock_answers (io : Io) (state : SendState maxRspLen) :
    Answers state (onBadBlock io state) := by
  simp only [onBadBlock]
  split
  · exact giveUp_answers _ ⟨rfl, rfl, rfl, rfl, id⟩
  · exact transmit_answers io (rBlock_control _ _) ⟨rfl, rfl, rfl, rfl, id⟩ ⟨rfl, rfl, rfl, rfl, id⟩

theorem acceptIBlock_answers (rblock : List UInt8) (io : Io) (state : SendState maxRspLen) :
    Answers state (acceptIBlock rblock io state) := by
  have accepting : Supervisory [Event.accepted rblock] := by simp [Supervisory]
  simp only [acceptIBlock]
  split
  · exact ⟨accepting, trivial⟩
  · split
    · exact .append accepting
        (transmit_answers io (rBlock_control _ .ok) ⟨rfl, rfl, rfl, rfl, id⟩ ⟨rfl, rfl, rfl, rfl, id⟩)
    · split
      · exact ⟨accepting, rfl, rfl, rfl, rfl, id⟩
      · split
        · exact ⟨accepting, rfl, rfl, rfl, rfl, id⟩
        · exact ⟨accepting, rfl, rfl, rfl, rfl, id⟩

theorem cardTakesTurn_same (rblock : List UInt8) (state : SendState maxRspLen) :
    SameSender state (cardTakesTurn rblock state) := by
  unfold cardTakesTurn
  split
  · exact .refl state
  · exact ⟨rfl, rfl, rfl, rfl, fun _ => rfl⟩

theorem cardTakesTurn_lastiicc (rblock : List UInt8) (state : SendState maxRspLen) :
    (cardTakesTurn rblock state).lastiicc = true := by
  unfold cardTakesTurn
  split
  · assumption
  · rfl

theorem onIBlock_answers_turn (rblock : List UInt8) (io : Io) (state : SendState maxRspLen) :
    Answers (cardTakesTurn rblock state) (onIBlock rblock io state) := by
  simp only [onIBlock]
  split
  · exact transmit_answers io (rBlock_control _ _) (.refl _) (.refl _)
  · exact acceptIBlock_answers rblock io (cardTakesTurn rblock state)

theorem onIBlock_answers (rblock : List UInt8) (io : Io) (state : SendState maxRspLen) :
    Answers state (onIBlock rblock io state) :=
  .trans (cardTakesTurn_same rblock state) (onIBlock_answers_turn rblock io state)

/-- An I-block of the card, whatever its number, ends the sending half. -/
theorem onIBlock_lastiicc (rblock : List UInt8) (io : Io) (state : SendState maxRspLen) :
    Reaches (fun after => after.lastiicc = true) (onIBlock rblock io state).2 :=
  (onIBlock_answers_turn rblock io state).same.imp fun _ same =>
    same.2.2.2.2 (cardTakesTurn_lastiicc rblock state)

theorem onWtx_answers (rblock : List UInt8) (io : Io) (state : SendState maxRspLen) :
    Answers state (onWtx rblock io state) := by
  simp only [onWtx]
  split
  · split
    · split
      · exact giveUp_answers _ ⟨rfl, rfl, rfl, rfl, id⟩
      · exact giveUp_answers _ ⟨rfl, rfl, rfl, rfl, id⟩
    · exact transmit_answers io (sBlock_control _ _ _) ⟨rfl, rfl, rfl, rfl, id⟩ ⟨rfl, rfl, rfl, rfl, id⟩
  · split
    · exact giveUp_answers _ ⟨rfl, rfl, rfl, rfl, id⟩
    · exact transmit_answers io (sBlock_control _ _ _) ⟨rfl, rfl, rfl, rfl, id⟩ ⟨rfl, rfl, rfl, rfl, id⟩

theorem onSBlock_answers (rblock : List UInt8) (io : Io) (state : SendState maxRspLen) :
    Answers state (onSBlock rblock io state) := by
  simp only [onSBlock]
  split
  · exact transmit_answers io (sBlock_control _ _ _) ⟨rfl, rfl, rfl, rfl, id⟩ ⟨rfl, rfl, rfl, rfl, id⟩
  · split
    · exact ⟨by simpa [Supervisory] using sBlock_control _ _ _, .refl state⟩
    · split
      · exact onWtx_answers rblock io state
      · split
        · exact transmit_answers io (sBlock_control _ _ _) ⟨rfl, rfl, rfl, rfl, id⟩ ⟨rfl, rfl, rfl, rfl, id⟩
        · split
          · refine .append ?_ (transmit_answers io (sBlock_control _ _ _) (.refl state) (.refl state))
            intro event called
            split at called <;> simp_all
          · split
            · exact ⟨supervisory_nil, .refl state⟩
            · split
              · exact transmit_answers io (sBlock_control _ _ _) (.refl state) (.refl state)
              · exact ⟨supervisory_nil, .refl state⟩

/-- An R-block that asks for the last I-block again, and is answered. -/
def NakArrives (state : SendState maxRspLen) (io : Io) : Prop :=
  RBlockArrives io ∧ state.rerrcntr < 3 ∧ state.lastiicc = false ∧
    io.received.rblock.getD 1 0 &&& 0x0F ≠ 0x00

instance (state : SendState maxRspLen) (io : Io) : Decidable (NakArrives state io) := by
  unfold NakArrives
  infer_instance

structure Resends (before : SendState maxRspLen) (pass : Pass maxRspLen) : Prop where
  ours : before.lastiicc = false
  events : pass.1 = [.sent before.t1.ns (updatePcb before.t1.ns before.block)]
  same : Reaches (SameSender { before with block := updatePcb before.t1.ns before.block }) pass.2

theorem length_nextPiece (state : SendState maxRspLen) :
    (nextPiece state).length = sendlen state := by
  simp only [nextPiece, sendlen, List.length_take, List.length_drop]
  omega

theorem nextPiece_fits (state : SendState maxRspLen) :
    (nextPiece state).length ≤ state.t1.ifsc.toNat := by
  rw [length_nextPiece]
  exact Nat.min_le_right _ _

structure Continues (before : SendState maxRspLen) (block : List UInt8) (pass : Pass maxRspLen) :
    Prop where
  ours : before.lastiicc = false
  unfinished : before.more = true
  built : BuiltBlock (before.t1.ns ^^^ 1) (nextMore before) (nextPiece before) block
  events : pass.1 = [.sentNew (before.t1.ns ^^^ 1) block]
  same : Reaches (SameSender (storeIBlock block before)) pass.2

theorem resendIBlock_resends (io : Io) (ours : state.lastiicc = false) :
    Resends state (resendIBlock io state) := by
  refine ⟨ours, rfl, ?_⟩
  simp only [resendIBlock, transmit]
  split
  · exact .refl _
  · exact .refl _

theorem sendNextIBlock_continues (io : Io) (ours : state.lastiicc = false)
    (unfinished : state.more = true) : ∃ block, Continues state block (sendNextIBlock io state) := by
  obtain ⟨block, built⟩ : ∃ block,
      cjT1IBlock state.t1.flipNs (nextMore state) (nextPiece state) = .ok block :=
    cjT1IBlock_of_room (nextPiece_fits state)
  have equation : sendNextIBlock io state =
      ([.sentNew (state.t1.ns ^^^ 1) block],
        if io.sendRet = .ok then
          .again { storeIBlock block { state with t1 := state.t1.flipNs } with rerrcntr := 0 }
        else
          .done (.returned io.sendRet (storeIBlock block { state with t1 := state.t1.flipNs }))) := by
    have continued : cjT1IBlock state.t1.flipNs (nextMore { state with t1 := state.t1.flipNs })
        (nextPiece { state with t1 := state.t1.flipNs }) = .ok block := built
    simp only [sendNextIBlock, continued]
    rfl
  refine ⟨block, ours, unfinished, cjT1IBlock_built built, by rw [equation], ?_⟩
  rw [equation]
  split
  · exact ⟨rfl, rfl, rfl, rfl, id⟩
  · exact ⟨rfl, rfl, rfl, rfl, id⟩

/-- The opening of a command always gets its block built. -/
theorem sendFirstIBlock_opens (state : SendState maxRspLen) (sendRet : Exit) :
    ∃ block, BuiltBlock state.t1.ns (nextMore state) (nextPiece state) block ∧
      sendFirstIBlock state sendRet = ([.sentNew state.t1.ns block],
        if sendRet = .ok then .again (storeIBlock block state)
        else .done (.returned sendRet (storeIBlock block state))) := by
  obtain ⟨block, built⟩ : ∃ block,
      cjT1IBlock state.t1 (nextMore state) (nextPiece state) = .ok block :=
    cjT1IBlock_of_room (nextPiece_fits state)
  refine ⟨block, cjT1IBlock_built built, ?_⟩
  unfold sendFirstIBlock
  rw [built]
  rfl

/-- A command is its first I-block followed by the receive loop. -/
theorem cjT1SendCmd_opens (t1 : T1Info) (hasKeycb : Bool) (apdu : Apdu maxRspLen)
    (sendRet : Exit) (ios : List Io) :
    ∃ block, BuiltBlock t1.ns (nextMore (initialState t1 hasKeycb apdu))
        (nextPiece (initialState t1 hasKeycb apdu)) block ∧
      cjT1SendCmd t1 hasKeycb apdu sendRet ios =
        if sendRet = .ok then
          ⟨[.sentNew t1.ns block],
            (run sendCmdBody (storeIBlock block (initialState t1 hasKeycb apdu)) ios).turns,
            (run sendCmdBody (storeIBlock block (initialState t1 hasKeycb apdu)) ios).outcome⟩
        else
          ⟨[.sentNew t1.ns block], [],
            .done (.returned sendRet (storeIBlock block (initialState t1 hasKeycb apdu)))⟩ := by
  obtain ⟨block, built, opens⟩ := sendFirstIBlock_opens (initialState t1 hasKeycb apdu) sendRet
  refine ⟨block, built, ?_⟩
  unfold cjT1SendCmd
  rw [opens]
  by_cases sent : sendRet = .ok
  · simp only [if_pos sent]
    rfl
  · simp only [if_neg sent]
    rfl

theorem onRBlock_sender (rblock : List UInt8) (io : Io) (state : SendState maxRspLen) :
    Answers state (onRBlock rblock io state) ∨
      ((state.rerrcntr < 3 ∧ state.lastiicc = false ∧ rblock.getD 1 0 &&& 0x0F ≠ 0x00) ∧
        Resends state (onRBlock rblock io state)) ∨
      ∃ block, Continues state block (onRBlock rblock io state) := by
  simp only [onRBlock]
  split
  · exact .inl (giveUp_answers _ ⟨rfl, rfl, rfl, rfl, id⟩)
  · rename_i counted
    split
    · exact .inl (transmit_answers io (rBlock_control _ _) ⟨rfl, rfl, rfl, rfl, id⟩ ⟨rfl, rfl, rfl, rfl, id⟩)
    · rename_i turn
      have ours : state.lastiicc = false := by simpa using turn
      split
      · rename_i nak
        obtain ⟨_, events, same⟩ := resendIBlock_resends io
          (show ({ state with rerrcntr := state.rerrcntr + 1 } : SendState maxRspLen).lastiicc = false
            from ours)
        exact .inr (.inl ⟨⟨by omega, ours, nak⟩, ours, events, same⟩)
      · split
        · exact .inl (giveUp_answers _ ⟨rfl, rfl, rfl, rfl, id⟩)
        · rename_i _ more
          have unfinished : state.more = true := by simpa using more
          obtain ⟨block, _, _, built, events, same⟩ := sendNextIBlock_continues io
            (show ({ state with rerrcntr := state.rerrcntr + 1 } : SendState maxRspLen).lastiicc = false
              from ours) unfinished
          exact .inr (.inr ⟨block, ours, unfinished, built, events, same⟩)

theorem onRBlock_resends (rblock : List UInt8) (io : Io) (state : SendState maxRspLen)
    (few : state.rerrcntr < 3) (ours : state.lastiicc = false)
    (asked : rblock.getD 1 0 &&& 0x0F ≠ 0x00) : Resends state (onRBlock rblock io state) := by
  have counted : ¬ state.rerrcntr + 1 > 3 := by omega
  have turn : ¬ state.lastiicc = true := by simp [ours]
  simp only [onRBlock]
  rw [if_neg counted, if_neg turn, if_pos asked]
  obtain ⟨_, events, same⟩ := resendIBlock_resends io
    (show ({ state with rerrcntr := state.rerrcntr + 1 } : SendState maxRspLen).lastiicc = false
      from ours)
  exact ⟨ours, events, same⟩

theorem sendCmdBody_resends {io : Io} (nak : NakArrives state io) :
    Resends state (sendCmdBody state io) := by
  obtain ⟨arrives, few, ours, asked⟩ := nak
  rw [sendCmdBody_rBlock arrives]
  obtain ⟨_, events, same⟩ := onRBlock_resends io.received.rblock io
    { waited state with errcntr := 0 } few ours asked
  exact ⟨ours, events, same⟩

/-- One pass of the receive loop, seen from the sending half. -/
theorem sendCmdBody_sender (io : Io) (state : SendState maxRspLen) :
    Answers state (sendCmdBody state io) ∨
      (NakArrives state io ∧ Resends state (sendCmdBody state io)) ∨
      ∃ block, Continues state block (sendCmdBody state io) := by
  cases input_cases io with
  | failed failed =>
      rw [sendCmdBody_failed failed]
      obtain ⟨supervisory, same⟩ := onReceiveError_answers io (waited state)
      exact .inl ⟨supervisory, same⟩
  | bad received bad =>
      rw [sendCmdBody_bad received bad]
      obtain ⟨supervisory, same⟩ := onBadBlock_answers io (waited state)
      exact .inl ⟨supervisory, same⟩
  | rBlock arrives =>
      rw [sendCmdBody_rBlock arrives]
      rcases onRBlock_sender io.received.rblock io
        { waited state with errcntr := 0 } with
        ⟨supervisory, same⟩ | ⟨nak, ours, events, same⟩ |
        ⟨block, ours, unfinished, built, events, same⟩
      · exact .inl ⟨supervisory, same⟩
      · exact .inr (.inl ⟨⟨arrives, nak⟩, ours, events, same⟩)
      · exact .inr (.inr ⟨block, ours, unfinished, built, events, same⟩)
  | iBlock arrives =>
      rw [sendCmdBody_iBlock arrives]
      obtain ⟨supervisory, same⟩ := onIBlock_answers io.received.rblock io
        { waited state with errcntr := 0, rerrcntr := 0 }
      exact .inl ⟨supervisory, same⟩
  | sBlock arrives =>
      rw [sendCmdBody_sBlock arrives]
      obtain ⟨supervisory, same⟩ := onSBlock_answers io.received.rblock io
        { waited state with errcntr := 0, rerrcntr := 0 }
      exact .inl ⟨supervisory, same⟩

end Cyberjack.Ecom
