import Cyberjack.Eca.T0Endless
import Cyberjack.Ppa.T0Response

namespace Cyberjack.Ppa.T0

open Cyberjack.Foundation Cyberjack.Eca

/-! # How long the loop of APDU2TPDU_T0 goes on -/

variable {lenr : UInt16} {memory : Memory lenr} {cla le : UInt8} {inner : Case4State} {reply : Reply}

/-- A status word 61xx or 6Cxx in the loop of case 4. -/
def Idle : State → Reply → Prop
  | .case4 _ _ inner, reply => ∃ data, cjccid_XfrBlock reply inner.rlen = .ok data ∧ inner.Idle data
  | _, _ => False

/-- A reply in case 4 is stored inside `rbuffer`. -/
def Fits : State → Reply → Prop
  | .case4 _ _ inner, reply => ∀ data, cjccid_XfrBlock reply inner.rlen = .ok data → inner.Fits data
  | _, _ => True

/-- The state is one of case 4. -/
def Counted : State → Prop
  | .case4 _ _ inner => inner.Counted
  | _ => False

def measure : State → Nat
  | .case4 _ _ inner => inner.measure
  | _ => 0

theorem ofTpdu_received {data : List UInt8} (counted : inner.Counted) (small : data.length ≤ inner.rlen) :
    (CcidReply.ofTpdu data).Received inner :=
  congrArg (fun done : List Eca.Event × IfdResult × List UInt8 => done.2.1) (ccidTransmit_ofTpdu counted.short small)

theorem body_again {next : State} (again : (body memory (.case4 cla le inner) reply).2 = .again next) :
    ∃ data later, cjccid_XfrBlock reply inner.rlen = .ok data ∧ next = .case4 cla le later ∧
      GoesOnWith memory.beyond inner (.ofTpdu data) later := by
  cases received : cjccid_XfrBlock reply inner.rlen with
  | error result =>
      have refused : body memory (.case4 cla le inner) reply = failed memory result := body_refused received
      rw [refused] at again
      cases again
  | ok data =>
      rw [body_case4 received, passOf] at again
      cases stepped : (case4Body memory.beyond le memory.response inner (.ofTpdu data)).2 with
      | again later =>
          rw [stepped] at again
          cases again
          exact ⟨data, later, rfl, rfl, case4Body_again stepped⟩
      | done outcome =>
          rw [stepped] at again
          cases again

theorem idle_goesOn (counted : inner.Counted) (idle : Idle (.case4 cla le inner) reply) :
    (body memory (.case4 cla le inner) reply).2.GoesOn := by
  obtain ⟨data, received, idle⟩ := idle
  have small := (cjccid_XfrBlock_ok received).2
  rw [body_case4 received]
  exact passOf_satisfies.mpr
    (@Case4State.Idle.continues _ _ _ memory.response inner (.ofTpdu data) idle (ofTpdu_received counted small))

theorem body_fits (counted : inner.Counted) :
    (∀ outcome, (body memory (.case4 cla le inner) reply).2 = .done outcome → outcome ≠ .fault) ↔
      Fits (.case4 cla le inner) reply := by
  cases received : cjccid_XfrBlock reply inner.rlen with
  | error result =>
      have refused : body memory (.case4 cla le inner) reply = failed memory result := body_refused received
      rw [refused]
      constructor
      · intro _ data same
        rw [received] at same
        cases same
      · intro _ outcome ended fault
        rw [fault] at ended
        cases ended
  | ok data =>
      have small := (cjccid_XfrBlock_ok received).2
      have inside := case4Body_fits memory.beyond le memory.response inner (.ofTpdu data)
      rw [body_case4 received, passOf]
      constructor
      · intro good bytes same
        cases received.symm.trans same
        refine inside.mp ?_ (ofTpdu_received counted small)
        intro outcome ended fault
        rw [fault] at ended
        refine good .fault ?_ rfl
        rw [ended]
        rfl
      · intro fits outcome ended fault
        rw [fault] at ended
        cases stepped : (case4Body memory.beyond le memory.response inner (.ofTpdu data)).2 with
        | again later =>
            rw [stepped] at ended
            cases ended
        | done made =>
            rw [stepped] at ended
            cases made with
            | returned _ _ _ => cases ended
            | fault => exact inside.mpr (fun _ => fits data received) .fault stepped rfl

theorem falls (memory : Memory lenr) :
    Falls (body memory) Counted measure Idle Fits (fun outcome => outcome ≠ .fault) where
  keeps := by
    intro state reply next counted again
    cases state with
    | case4 cla le inner =>
        obtain ⟨_, later, _, rfl, continues⟩ := body_again again
        exact continues.counted counted
    | _ => exact counted.elim
  idles := by
    intro state reply counted idle
    cases state with
    | case4 cla le inner => exact idle_goesOn counted idle
    | _ => exact counted.elim
  measured := by
    intro state reply next counted again
    cases state with
    | case4 cla le inner =>
        obtain ⟨data, later, received, rfl, continues⟩ := body_again again
        obtain ⟨lower, active⟩ := continues.measured counted
        exact ⟨lower, fun other => active fun idle => other ⟨data, received, idle⟩⟩
    | _ => exact counted.elim
  fitting := by
    intro state reply counted
    cases state with
    | case4 cla le inner => exact body_fits counted
    | _ => exact counted.elim

theorem isCase4_apdu (apdu : Case4Apdu) : IsCase4 apdu.cmd := ⟨apdu.counted, apdu.nonempty⟩

theorem opened_case4 (memory : Memory lenr) (apdu : Case4Apdu) :
    opened memory apdu.cmd =
      ([.transmitted (case4Start apdu memory.rbuffer).tpdu],
        .again (.case4 (apdu.cmd.getD 0 0) apdu.le (case4Start apdu memory.rbuffer))) := by
  have counted := apdu.counted
  rw [opened, if_neg (by omega), if_neg (by omega), if_neg (by omega), dif_pos (isCase4_apdu apdu)]
  rfl

/-- The loops return, on every infinite sequence of replies, if and only if each reply is stored inside
`rbuffer` and there is no point from which on the card only announces data. -/
theorem loops_end_iff (response_len : UInt16) (m_ApduNorm : ApduNorm) (case2 : Case2.Apdu)
    (case2Response : Buffer UInt8 response_len.toNat) (capacity : Nat) (beyond : Int → UInt8) (case4 : Case4Apdu)
    (case4Response : Buffer UInt8 capacity) (rbuffer : Buffer UInt8 258) (memory : Memory lenr)
    (replies : Nat → CcidReply) (blocks : Nat → Reply) :
    let case2Outcome := fun count =>
      (Case2._IfdTransmit_case2 m_ApduNorm case2 case2Response rbuffer (firsts replies count)).outcome
    let case4Outcome := fun count => (_IfdTransmit_case4 beyond case4 case4Response rbuffer (firsts replies count)).outcome
    let t0Outcome := fun count => (APDU2TPDU_T0 memory case4.cmd (firsts blocks count)).outcome
    (EndsWith (fun result => result ≠ .fault) case2Outcome ↔ ¬ Stalls (Case2.Idle m_ApduNorm) case2Outcome replies) ∧
    (EndsWith (fun result => result ≠ .fault) case4Outcome ↔
      (∀ count state, case4Outcome count = .again state →
        (replies count).Received state → state.Fits (replies count).abData) ∧
      ¬ Stalls (fun state reply => reply.Received state ∧ state.Idle reply.abData) case4Outcome replies) ∧
    (EndsWith (fun result => result ≠ .fault) t0Outcome ↔
      (∀ count state, t0Outcome count = .again state → Fits state (blocks count)) ∧ ¬ Stalls Idle t0Outcome blocks) := by
  intro case2Outcome case4Outcome t0Outcome
  refine ⟨?_, ?_, ?_⟩
  · have begins : (Case2.start case2 case2Response rbuffer).ges_len ≤ response_len.toNat := Nat.zero_le _
    refine ((Case2.falls m_ApduNorm).endsWith_iff begins).trans ?_
    exact ⟨fun both => both.2, fun quiet => ⟨fun _ _ _ => trivial, quiet⟩⟩
  · exact (case4_falls beyond case4.le case4Response).endsWith_iff (case4Start_counted case4 rbuffer)
  · have counted : Counted (.case4 (case4.cmd.getD 0 0) case4.le (case4Start case4 memory.rbuffer)) :=
      case4Start_counted case4 memory.rbuffer
    simp only [t0Outcome, APDU2TPDU_T0, opened_case4]
    exact (falls memory).endsWith_iff counted

/-- SELECT FILE with a file identifier, and any length. -/
def selectFile : Case4Apdu where
  cmd := [0x00, 0xA4, 0x00, 0x00, 0x02, 0x3F, 0x00, 0x00]
  counted := rfl
  nonempty := by
    intro same
    contradiction

/-- The status word 61 00 for ever. -/
theorem announcing_endless :
    ¬ EndsWith (fun result => result ≠ .fault) (fun count => (@Case2._IfdTransmit_case2 16 .iso
        Case2.readBinary (.filled 16 0x00) (.filled 258 0x00) (firsts (fun _ => .ofTpdu [0x61, 0x00]) count)).outcome) ∧
      ¬ EndsWith (fun result => result ≠ .fault) (fun count => (_IfdTransmit_case4 (fun _ => 0x00) selectFile
        (.filled 16 0x00) (.filled 258 0x00) (firsts (fun _ => .ofTpdu [0x61, 0x00]) count)).outcome) ∧
      ¬ EndsWith (fun result => result ≠ .fault) (fun count => (APDU2TPDU_T0 (staleMemory 16 0x00) selectFile.cmd
        (firsts (fun _ => .ofBlock [0x61, 0x00]) count)).outcome) := by
  refine ⟨never_ends rfl rfl _, never_ends rfl rfl _, ?_⟩
  simp only [APDU2TPDU_T0, opened_case4]
  exact never_ends rfl rfl _

end Cyberjack.Ppa.T0
