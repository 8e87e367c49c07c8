import Cyberjack.Ppa.T1Steps

namespace Cyberjack.Ppa

open Cyberjack.Foundation

/-! # The moves of the inner loop

Every pass is one of a few moves, and every move keeps the loop in a state from
which the last block can be sent again and the next one can be built.
-/

variable {capacity : Nat} {state next : T1State capacity} {reply : Reply} {pass : Pass capacity}

/-- The invariant of the inner loop. -/
structure Running (state : T1State capacity) : Prop extends Ready state where
  installed : Installed state.handle
  moreBit : state.sbuffer.get 1 &&& 0x20 ≠ 0 ↔ state.cmd.drop state.INF ≠ []

theorem Running.keeps (running : Running state) (keeps : Keeps state next) (ready : Ready next)
    (installed : Installed next.handle) : Running next where
  toReady := ready
  installed := installed
  moreBit := by
    rw [keeps.get (by decide), keeps.cmd, keeps.INF]
    exact running.moreBit

theorem receive_rlen (reply : Reply) (state : T1State capacity) : (receive reply state).rlen ≤ 259 := by
  simp only [receive, cjccid_XfrBlock]
  split
  · exact Nat.le_refl _
  · split
    · exact Nat.le_refl _
    · split
      · exact Nat.le_refl _
      · split
        · exact Nat.le_refl _
        · split
          · assumption
          · exact Nat.le_refl _

theorem Running.received (running : Running state) (reply : Reply) : Running (receive reply state) :=
  ⟨⟨⟨running.room, running.iBlock⟩, running.noRequest⟩, running.installed, running.moreBit⟩

theorem verdict_bad {code : UInt8} (bad : verdict state = .bad code) : Refuses code := by
  simp only [verdict, iBlockVerdict, rBlockVerdict] at bad
  split at bad
  · split at bad
    · cases bad
      exact refuses_other
    · split at bad
      · split at bad
        · cases bad
          exact refuses_other
        · contradiction
      · split at bad
        · contradiction
        · split at bad
          · contradiction
          · split at bad
            · contradiction
            · cases bad
              exact refuses_other
  · split at bad
    · cases bad
      exact refuses_parity
    · split at bad
      · contradiction
      · contradiction

theorem verdict_lost (lost : verdict state = .lost) : state.Result ≠ .success := by
  intro success
  simp only [verdict, iBlockVerdict, rBlockVerdict] at lost
  rw [if_pos success] at lost
  repeat' split at lost
  all_goals contradiction

/-- What is known of a reply with a usable block. -/
structure Usable (state : T1State capacity) : Prop where
  success : state.Result = .success
  sound : ¬ Malformed state.rbuffer

theorem verdict_accepted (accepted : verdict state = .accepted) :
    Usable state ∧ state.rbuffer.get 1 &&& 0x80 = 0 ∧
      state.sbuffer.get 1 &&& 0x20 = 0 ∧ state.rbuffer.get 2 ≠ 0 ∧ state.rbuffer.get 2 ≠ 255 := by
  simp only [verdict, rBlockVerdict] at accepted
  split at accepted
  · rename_i success
    split at accepted
    · contradiction
    · rename_i sound
      split at accepted
      · rename_i iBlock
        rw [iBlockVerdict] at accepted
        split at accepted
        · contradiction
        · rename_i good
          simp only [not_or, not_not] at good
          have bits : ∀ byte : UInt8, ¬ byte &&& 0x20 = 0x20 → byte &&& 0x20 = 0 := by decide
          exact ⟨⟨success, sound⟩, iBlock, bits _ good.2.1, good.2.2.1, good.2.2.2⟩
      · split at accepted
        · contradiction
        · repeat' split at accepted
          all_goals contradiction
  · repeat' split at accepted
    all_goals contradiction

theorem verdict_request (request : verdict state = .request) :
    Usable state ∧ state.rbuffer.get 1 &&& 0xE0 = 0xC0 := by
  simp only [verdict, iBlockVerdict, rBlockVerdict] at request
  split at request
  · rename_i success
    split at request
    · contradiction
    · rename_i sound
      split at request
      · split at request
        · contradiction
        · contradiction
      · split at request
        · rename_i sBlock
          exact ⟨⟨success, sound⟩, sBlock⟩
        · repeat' split at request
          all_goals contradiction
  · repeat' split at request
    all_goals contradiction

theorem verdict_acknowledged (acknowledged : verdict state = .acknowledged) :
    Usable state ∧ state.rbuffer.get 1 &&& 0x80 ≠ 0 ∧ state.sbuffer.get 1 &&& 0x20 ≠ 0 := by
  simp only [verdict, iBlockVerdict, rBlockVerdict] at acknowledged
  split at acknowledged
  · rename_i success
    split at acknowledged
    · contradiction
    · rename_i sound
      split at acknowledged
      · split at acknowledged
        · contradiction
        · contradiction
      · rename_i rBlock
        split at acknowledged
        · contradiction
        · split at acknowledged
          · contradiction
          · split at acknowledged
            · rename_i more
              exact ⟨⟨success, sound⟩, rBlock, more⟩
            · contradiction
  · repeat' split at acknowledged
    all_goals contradiction

/-- What a pass can do, by the verdict on the reply. -/
inductive Moves (state : T1State capacity) : Verdict → Pass capacity → Prop where
  | ended {verdict : Verdict} {events : List Event} {final : T1State capacity}
      (silent : events = [] ∨ events = [.iccPowerOff]) (failed : final.Result ≠ .success)
      (unaccepted : verdict ≠ .accepted) (unrepeated : verdict ≠ .repeats) (room : verdict = .request → SBlockRoom state) :
      Moves state verdict (events, .done (.returned final))
  | refused {code : UInt8} {pass : Pass capacity} {next : T1State capacity}
      (controls : Controls state pass next) (handle : next.handle = state.handle)
      (few : int32 (state.error + 1) ≤ 2) (error : next.error = int32 (state.error + 1)) :
      Moves state (.bad code) pass
  | overrun (noRoom : ¬ SBlockRoom state) : Moves state .request ([], .done .fault)
  | answered {pass : Pass capacity} {next : T1State capacity} (room : SBlockRoom state)
      (controls : Controls state pass next) (installed : Installed next.handle)
      (error : next.error = 0) : Moves state .request pass
  | resent {next : T1State capacity} (keeps : Keeps state next) (ready : Ready next)
      (handle : next.handle = state.handle) (error : next.error = int32 (state.error + 1)) :
      Moves state .repeats
        ((if int32 (state.error + 1) > 2 then [.iccPowerOff] else []) ++
          [.sent state.xwt state.stored], .again next)
  | acknowledged {acknowledged next : T1State capacity} (builds : Builds acknowledged next)
      (installed : Installed next.handle) (more : state.cmd.drop state.INF ≠ [])
      (same : acknowledged = { state with
        error := 0
        handle := { state.handle with PCB_seq := state.handle.PCB_seq ^^^ 0x01 }
        cmd := state.cmd.drop state.INF }) :
      Moves state .acknowledged
        ([.sentNew state.xwt (builtBlock acknowledged.handle acknowledged.cmd)], .again next)
  | acceptOverrun (noRoom : ¬ IBlockRoom state) :
      Moves state .accepted ([.accepted state.inf], .done .fault)
  | finished {after : T1State capacity} (room : IBlockRoom state) (accepts : Accepts state after)
      (success : after.Result = .success) (last : state.cmd.drop state.INF = []) :
      Moves state .accepted ([.accepted state.inf], .done (.returned after))
  | chained {after next : T1State capacity} {pass : Pass capacity} (room : IBlockRoom state)
      (accepts : Accepts state after) (controls : Controls after pass next)
      (handle : next.handle = after.handle) (error : next.error = 0)
      (last : state.cmd.drop state.INF = []) :
      Moves state .accepted (.accepted state.inf :: pass.1, pass.2)

/-- The card can only ask for information fields that leave room for the rest of a block. -/
theorem obeySRequest_installed (usable : Usable state)
    (request : state.rbuffer.get 1 &&& 0xE0 = 0xC0) (installed : Installed state.handle)
    (copied : Buffer UInt8 6) : Installed (obeySRequest (putSResponse copied state)).handle := by
  obtain ⟨low, high, edc⟩ := installed
  have sound := usable.sound
  simp only [Malformed, not_or, not_and, not_not] at sound
  have range := (sound.2.2.2 request).2.1
  simp only [obeySRequest]
  split
  · exact ⟨low, high, edc⟩
  · split
    · rename_i _ ifs
      have within := range ifs
      exact ⟨UInt8.not_lt.mp within.2.1, within.2.2, edc⟩
    · split
      · exact ⟨low, high, edc⟩
      · exact ⟨low, high, edc⟩

theorem act_moves (running : Running state) (arrived : state.rlen ≤ 259) :
    Moves state (verdict state) (act state (verdict state)) := by
  have prot : Cjpp.prot ≠ .success := by decide
  cases judged : verdict state with
  | lost =>
      exact .ended (.inl rfl) (verdict_lost judged) (by decide) (by decide) (fun request => by cases request)
  | mute =>
      rw [act, leaveInnerLoop_prot]
      exact .ended (.inl rfl) prot (by decide) (by decide) (fun request => by cases request)
  | bad code =>
      rcases refuse_cases running.toReady (verdict_bad judged) with
        ⟨_, excess⟩ | ⟨few, next, controls, handle, error⟩
      · rw [act, excess]
        exact .ended (.inr rfl) prot (by simp) (by simp) (fun request => by cases request)
      · exact .refused controls handle few error
  | accepted =>
      obtain ⟨usable, iBlock, last, _⟩ := verdict_accepted judged
      have sent : state.cmd.drop state.INF = [] := by
        by_contra unsent
        exact running.moreBit.mpr unsent last
      rcases acceptIBlock_cases running.toReady usable.success iBlock arrived with
        ⟨noRoom, overrun⟩ | ⟨room, after, accepts, ⟨finished, success⟩ |
          ⟨next, pass, controls, handle, error, chained⟩⟩
      · rw [act, overrun]
        exact .acceptOverrun noRoom
      · rw [act, finished]
        exact .finished room accepts success sent
      · rw [act, chained]
        exact .chained room accepts controls handle error sent
  | request =>
      obtain ⟨usable, request⟩ := verdict_request judged
      have nad : state.rbuffer.get 0 = 0 := by
        by_contra nonzero
        exact usable.sound (.inl nonzero)
      rcases onSBlock_cases running.toReady request nad arrived with
        ⟨noRoom, overrun⟩ | ⟨room, ⟨_, final, aborted, failed⟩ |
          ⟨next, copied, controls, error, handle⟩⟩
      · rw [act, overrun]
        exact .overrun noRoom
      · rw [act, aborted]
        exact .ended (.inr rfl) (failed ▸ prot) (by decide) (by decide) (fun _ => room)
      · refine .answered room controls ?_ error
        rw [handle]
        exact obeySRequest_installed usable request running.installed copied
  | repeats =>
      obtain ⟨next, resends, keeps, ready, handle, error⟩ := repeatIBlock_resends running.toReady
      rw [act, resends]
      exact .resent keeps ready handle error
  | acknowledged =>
      obtain ⟨usable, rBlock, more⟩ := verdict_acknowledged judged
      have unsent := running.moreBit.mp more
      obtain ⟨acknowledged, next, sends, builds, same⟩ :=
        onAcknowledged_builds running.installed usable.success rBlock unsent
      rw [act, sends]
      refine .acknowledged builds ?_ unsent same
      rw [builds.handle, same]
      exact ⟨running.installed.low, running.installed.high, running.installed.edc⟩

theorem innerLoopBody_moves (running : Running state) (reply : Reply) :
    Moves (receive reply state) (verdict (receive reply state)) (innerLoopBody state reply) := by
  rw [innerLoopBody_eq running.noRequest]
  exact act_moves (running.received reply) (receive_rlen reply state)

theorem Builds.running {before : T1State capacity} (builds : Builds before next)
    (installed : Installed next.handle) : Running next where
  toReady := builds.ready
  installed := installed
  moreBit := by
    rw [builds.pcb, nextPcb_more, builds.cmd, builds.INF, Ne, List.drop_eq_nil_iff]
    omega

theorem Accepts.installed {after : T1State capacity} (accepts : Accepts state after)
    (installed : Installed state.handle) : Installed after.handle where
  low := by
    rw [accepts.IFSC]
    exact installed.low
  high := by
    rw [accepts.IFSC]
    exact installed.high
  edc := by
    rw [accepts.EDC]
    exact installed.edc

theorem Accepts.stored {after : T1State capacity} (accepts : Accepts state after) :
    after.stored = state.stored := by
  simp only [T1State.stored]
  rw [accepts.sbuffer, epilogue_congr accepts.EDC]

theorem Moves.running {judged : Verdict} (moves : Moves state judged pass) (running : Running state)
    (again : pass.2 = .again next) : Running next := by
  cases moves with
  | ended silent failed unaccepted unrepeated room => contradiction
  | refused controls handle few error =>
      obtain ⟨_, _, rfl, _⟩ := controls.sent
      cases again
      exact running.keeps controls.keeps controls.ready (handle ▸ running.installed)
  | overrun noRoom => contradiction
  | answered room controls installed error =>
      obtain ⟨_, _, rfl, _⟩ := controls.sent
      cases again
      exact running.keeps controls.keeps controls.ready installed
  | resent keeps ready handle error =>
      cases again
      exact running.keeps keeps ready (handle ▸ running.installed)
  | acknowledged builds installed more same =>
      cases again
      exact builds.running installed
  | acceptOverrun noRoom => contradiction
  | finished room accepts success last => contradiction
  | chained room accepts controls handle error last =>
      obtain ⟨_, _, rfl, _⟩ := controls.sent
      cases again
      refine ⟨controls.ready, handle ▸ accepts.installed running.installed, ?_⟩
      have moreBit := running.moreBit
      rw [last] at moreBit
      rw [controls.keeps.get (by decide), accepts.sbuffer, moreBit, controls.keeps.cmd, accepts.cmd,
        last, List.drop_nil]

end Cyberjack.Ppa
