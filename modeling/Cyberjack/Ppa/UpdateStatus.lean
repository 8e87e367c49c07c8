import Cyberjack.Ppa.WireUpdate

namespace Cyberjack.Ppa.WireUpdate

open Cyberjack.Foundation Cyberjack.Eca

/-! # The status of UPDATE BINARY

The status words of the protocols 6, 7 and 8 against the results of the single commands, and which of the protocols
a run comes to.
-/

/-- What is no 90 00: another status word, or an error that is returned. -/
def IsError : UpdateEnd → Prop
  | .returned Res => Res ≠ .success
  | .status Result => Result ≠ 0x9000

/-- The command was not carried out. -/
def Fails (reply : Reply) : Prop := transferred reply 0 ≠ .success

instance (reply : Reply) : Decidable (Fails reply) := inferInstanceAs (Decidable (_ ≠ _))

/-- A call that ends behind a command that has failed ends with an error. -/
def StatusRight (made : Call UpdateState Reply S7Command UpdateEnd) : Prop :=
  ∀ result, made.outcome = .done result → (∃ turn ∈ made.turns, Fails turn.input) → IsError result

/-- The pieces that the loop writes are all taken. -/
def LoopSucceeds (state : UpdateState) (reply : Reply) : Prop :=
  ∀ chunk, state = .chunk chunk → ¬ Fails reply

/-- The same for protocol 8. -/
def IicStatusRight (device : SyncDevice) (call : SyncCall) : Prop :=
  call.cmd 1 = UPDATEBINARY → (∃ turn ∈ (writeChunks device call).turns, Fails turn.input) →
    ∀ Res, (Ppa.SyncInterpreter device call).returned = some Res →
      Res ≠ .success ∨ (Ppa.SyncInterpreter device call).response ≠ [0x90, 0x00]

/-! ## Protocols 6 and 7 -/

variable {wire : Wire} {call : SyncCall} {state : UpdateState} {reply : Reply}

abbrev Turns := List (Turn UpdateState Reply S7Command)

/-- A command that fails ends the call, with an error unless the loop has sent it. -/
theorem updateBody_fails (fails : Fails reply) :
    ∃ result, (updateBody wire call state reply).2 = .done result ∧ (IsError result ↔ LoopSucceeds state reply) := by
  cases state with
  | select =>
      refine ⟨.returned (transferred reply 0), if_pos fails, ?_⟩
      exact iff_of_true fails nofun
  | short =>
      refine ⟨.returned (transferred reply 0), if_pos fails, ?_⟩
      exact iff_of_true fails nofun
  | chunk chunk =>
      refine ⟨.status 0x9000, if_pos fails, ?_⟩
      exact iff_of_false (fun error => error rfl) fun succeeds => succeeds chunk rfl fails

/-- All commands so far were carried out. -/
def Carried (past : Turns) : Prop := ∀ turn ∈ past, ¬ Fails turn.input

/-- Where a command has failed, the result shows whether the loop has sent it. -/
def Judged (past : Turns) (result : UpdateEnd) : Prop :=
  Carried past ∨ ((∃ turn ∈ past, Fails turn.input) ∧ (IsError result ↔ Meets LoopSucceeds past))

theorem meets_of_carried {past : Turns} (carried : Carried past) : Meets LoopSucceeds past :=
  fun turn made _ _ => carried turn made

theorem carried_snoc {past : Turns} {turn : Turn UpdateState Reply S7Command} (carried : Carried past)
    (succeeds : ¬ Fails turn.input) : Carried (past ++ [turn]) :=
  List.forall_mem_append.mpr ⟨carried, List.forall_mem_singleton.mpr succeeds⟩

theorem updateBody_judged (wire : Wire) (call : SyncCall) (past : Turns) (state : UpdateState) (reply : Reply)
    (carried : Carried past) :
    (updateBody wire call state reply).2.Satisfies
      (fun _ => Carried (past ++ [⟨state, reply, (updateBody wire call state reply).1⟩]))
      (Judged (past ++ [⟨state, reply, (updateBody wire call state reply).1⟩])) := by
  by_cases fails : Fails reply
  · obtain ⟨result, ended, error⟩ := @updateBody_fails wire call state reply fails
    rw [ended]
    refine .inr ⟨⟨_, List.mem_append_right _ (List.mem_singleton_self _), fails⟩, ?_⟩
    rw [error, meets_append, meets_cons]
    exact ⟨fun succeeds => ⟨meets_of_carried carried, succeeds, meets_nil⟩, fun meets => meets.2.1⟩
  · have all := @carried_snoc past ⟨state, reply, (updateBody wire call state reply).1⟩ carried fails
    cases (updateBody wire call state reply).2 with
    | again next => exact all
    | done result => exact .inl all

/-- The status of a call is right exactly if all pieces of the loop are taken. -/
theorem updateBinary_iff (wire : Wire) (call : SyncCall) (replies : List Reply) :
    StatusRight (updateBinary wire call replies) ↔ Meets LoopSucceeds (updateBinary wire call replies).turns := by
  have judged := @call_invariant _ _ _ _ (updateBody wire call) (fun past _ => Carried past) Judged
    (updateBody_judged wire call) ([], opening wire call)
  have start : (opening wire call).Satisfies (fun _ => Carried []) (Judged []) := by
    cases opening wire call with
    | again state => exact List.forall_mem_nil _
    | done result => exact .inl (List.forall_mem_nil _)
  have finished := judged start replies
  change (updateBinary wire call replies).outcome.Satisfies
    (fun _ => Carried (updateBinary wire call replies).turns) (Judged (updateBinary wire call replies).turns) at finished
  unfold StatusRight
  cases ended : (updateBinary wire call replies).outcome with
  | again state =>
      rw [ended] at finished
      exact iff_of_true nofun (meets_of_carried finished)
  | done result =>
      rw [ended] at finished
      simp only [Next.done.injEq, forall_eq']
      cases finished with
      | inl carried =>
          apply iff_of_true
          · intro failed
            obtain ⟨turn, made, fails⟩ := failed
            exact absurd fails (carried turn made)
          · exact meets_of_carried carried
      | inr failed => rw [← failed.2, forall_prop_of_true failed.1]

/-! ## Protocol 8 -/

/-- The results of the loop: none for a page size of zero, an error, or that of pieces that are all taken. -/
def IicJudged (past : List (Turn Ppa.WriteState Reply (List UInt8))) (result : Option Nat) : Prop :=
  result = none ∨ result = some 0x6F00 ∨ (result = some 0x9000 ∧ ∀ turn ∈ past, ¬ Fails turn.input)

theorem writeChunk_judged (device : SyncDevice) (cmd : Nat → UInt8) (past : List (Turn Ppa.WriteState Reply (List UInt8)))
    (state : Ppa.WriteState) (reply : Reply) (carried : ∀ turn ∈ past, ¬ Fails turn.input) :
    (writeChunk device cmd state reply).2.Satisfies
      (fun _ => ∀ turn ∈ past ++ [⟨state, reply, (writeChunk device cmd state reply).1⟩], ¬ Fails turn.input)
      (IicJudged (past ++ [⟨state, reply, (writeChunk device cmd state reply).1⟩])) := by
  have all (succeeds : ¬ Fails reply) (output : List (List UInt8)) :
      ∀ turn ∈ past ++ [(⟨state, reply, output⟩ : Turn Ppa.WriteState Reply (List UInt8))], ¬ Fails turn.input :=
    List.forall_mem_append.mpr ⟨carried, List.forall_mem_singleton.mpr succeeds⟩
  unfold writeChunk
  split
  · exact .inl rfl
  · dsimp only
    split
    · exact .inr (.inl rfl)
    · rename_i succeeds
      split
      · exact .inr (.inr ⟨rfl, all succeeds _⟩)
      · exact all succeeds _

theorem writeChunks_judged (device : SyncDevice) (call : SyncCall) :
    (writeChunks device call).outcome.Satisfies (fun _ => ∀ turn ∈ (writeChunks device call).turns, ¬ Fails turn.input)
      (IicJudged (writeChunks device call).turns) := by
  have start : (if dataLength call = 0 then ([], .done (some 0x9000)) else ([], .again ⟨call.addr, dataLength call, 5⟩) :
      List (List UInt8) × Next Ppa.WriteState (Option Nat)).2.Satisfies
      (fun _ => ∀ turn ∈ ([] : List (Turn Ppa.WriteState Reply (List UInt8))), ¬ Fails turn.input) (IicJudged []) := by
    split
    · exact .inr (.inr ⟨rfl, List.forall_mem_nil _⟩)
    · exact List.forall_mem_nil _
  exact @call_invariant _ _ _ _ (writeChunk device call.cmd) (fun past _ => ∀ turn ∈ past, ¬ Fails turn.input) IicJudged
    (writeChunk_judged device call.cmd) _ start ((List.range (dataLength call)).map call.replies)

theorem iic_status_right (device : SyncDevice) (call : SyncCall) : IicStatusRight device call := by
  intro ins failed Res returned
  obtain ⟨turn, made, fails⟩ := failed
  have judged := writeChunks_judged device call
  have select : call.cmd 1 ≠ SELECT := by
    rw [ins]
    decide
  have read : call.cmd 1 ≠ READBINARY := by
    rw [ins]
    decide
  right
  unfold Ppa.SyncInterpreter at returned ⊢
  rw [if_neg select, if_neg read, if_pos ins] at returned ⊢
  split at returned
  · rw [if_pos ‹_›]
    decide
  · rw [if_neg ‹_›]
    split at returned
    · rw [if_pos ‹_›]
      decide
    · rw [if_neg ‹_›]
      cases ended : (writeChunks device call).outcome with
      | again state =>
          simp only [ended] at returned
          contradiction
      | done result =>
          rw [ended] at judged
          obtain none | refused | ⟨_, carried⟩ := judged
          · rw [none] at ended
            simp only [ended] at returned
            contradiction
          · rw [refused] at ended
            simp only [ended]
            decide
          · exact absurd fails (carried turn made)

/-! ## The protocols of a run -/

/-- The cards of `SyncInterpreter`. -/
inductive SyncCard where
  | wire (wire : Wire)
  | iic
  | memory

/-- The `switch` of `SyncInterpreter`. -/
def interpreted (Protokoll : Nat) : Option SyncCard :=
  if Protokoll = 6 then some (.wire .three)
  else if Protokoll = 7 then some (.wire .two)
  else if Protokoll = 8 then some .iic
  else if Protokoll = 9 ∨ Protokoll = 10 then some .memory
  else none

/-- The cards that `ctapiData_inner` leaves to `SyncInterpreter`. -/
def dispatched (Protokoll : Nat) : Option SyncCard :=
  if Protokoll = 8 ∨ Protokoll = 9 ∨ Protokoll = 10 then interpreted Protokoll else none

/-- What `ctBcsReset` can have set. -/
def Given (Protokoll : Nat) : Prop := Protokoll ≤ 1 ∨ (8 ≤ Protokoll ∧ Protokoll ≤ 10)

theorem given_reset {device : SyncDevice} (given : Given device.Protokoll) (activation : Activation) :
    Given (ctBcsReset device activation).Protokoll := by
  cases activation with
  | failed => exact given
  | synchronous atr =>
      rw [ctBcsReset]
      split
      · exact given
      · split
        · change Given 10
          exact .inr (by decide)
        · split
          · change Given 9
            exact .inr (by decide)
          · split
            · change Given 8
              exact .inr (by decide)
            · exact given
  | asynchronous Protokoll =>
      cases Protokoll with
      | none => exact given
      | some Protokoll => exact .inl (Nat.le_of_lt_succ Protokoll.isLt)

theorem configure_protokoll (device : SyncDevice) (lenc : Nat) (cmd : Nat → UInt8) :
    (configure device lenc cmd).2.Protokoll = device.Protokoll := by
  simp only [configure]
  repeat' split
  all_goals rfl

theorem syncRequest_given {device : SyncDevice} (given : Given device.Protokoll) (request : SyncRequest) :
    Given (syncRequest device request).2.Protokoll := by
  cases request with
  | powerOn activation => exact given_reset given activation
  | configure lenc cmd =>
      rw [← configure_protokoll device lenc cmd] at given
      exact given
  | card call => exact given

theorem given_interpreted {Protokoll : Nat} (given : Given Protokoll) (wire : Wire) :
    interpreted Protokoll ≠ some (.wire wire) := by
  have three : Protokoll ≠ 6 := by
    rw [Given] at given
    omega
  have two : Protokoll ≠ 7 := by
    rw [Given] at given
    omega
  rw [interpreted, if_neg three, if_neg two]
  split
  · exact nofun
  · split
    · exact nofun
    · exact nofun

/-- No card of a run is a 3-wire or a 2-wire card for the driver. -/
def NoWire (entry : Entry SyncDevice SyncRequest (Option SyncAnswer)) : Prop :=
  ∀ wire, interpreted entry.before.Protokoll ≠ some (.wire wire)

theorem noWire_run (requests : List SyncRequest) : ∀ entry ∈ history syncRequest .initial requests, NoWire entry := by
  have start : Given SyncDevice.initial.Protokoll := .inl (Nat.zero_le 1)
  refine @history_good _ _ _ syncRequest (fun device => Given device.Protokoll) (fun _ _ => True) NoWire ?_ _ start
    requests fun _ _ => trivial
  intro device request given _
  exact ⟨given_interpreted given, syncRequest_given given request⟩

theorem dispatched_interpreted {Protokoll : Nat} {card : SyncCard} (sent : dispatched Protokoll = some card) :
    interpreted Protokoll = some card := by
  rw [dispatched] at sent
  split at sent
  · exact sent
  · contradiction

/-- An UPDATE BINARY that the driver takes for a card of the protocols 6, 7 and 8 has the right status. -/
def UpdateReported (entry : Entry SyncDevice SyncRequest (Option SyncAnswer)) : Prop :=
  ∀ call, entry.input = .card call →
    (∀ wire, dispatched entry.before.Protokoll = some (.wire wire) →
      ∀ replies, StatusRight (updateBinary wire call replies)) ∧
    (dispatched entry.before.Protokoll = some .iic → IicStatusRight entry.before call)

/-- In every run no UPDATE BINARY comes to the loops of the protocols 6 and 7, and none is answered with 90 00 behind a
failure; for a card of these two protocols every failure but that of a piece of the loop would be reported. -/
theorem update_status_run (requests : List SyncRequest) :
    (∀ entry ∈ history syncRequest .initial requests, NoWire entry ∧ UpdateReported entry) ∧
      ∀ wire call replies, Meets LoopSucceeds (updateBinary wire call replies).turns →
        StatusRight (updateBinary wire call replies) := by
  constructor
  · intro entry made
    have none_ := noWire_run requests entry made
    refine ⟨none_, fun call _ => ⟨?_, fun _ => iic_status_right entry.before call⟩⟩
    intro wire sent
    exact absurd (dispatched_interpreted sent) (none_ wire)
  · intro wire call replies succeeds
    exact (updateBinary_iff wire call replies).mpr succeeds

/-- Seventeen bytes for a card that refuses to be written. -/
def longUpdate (P1 : UInt8) : SyncCall where
  lenc := 22
  cmd := inMemory ([0x00, 0xD6, P1, 0x00, 0x11] ++ List.replicate 17 0xAA)
  lenr := 258
  response _ := 0
  replies _ := ⟨.writeDevice, 0, 0, []⟩

theorem update_status_not_right :
    (updateBinary .three (longUpdate 0x08) [⟨.writeDevice, 0, 0, []⟩]).outcome = .done (.status 0x9000) ∧
      ¬ StatusRight (updateBinary .three (longUpdate 0x08) [⟨.writeDevice, 0, 0, []⟩]) ∧
    (updateBinary .two (longUpdate 0x00) [⟨.writeDevice, 0, 0, []⟩]).outcome = .done (.status 0x9000) ∧
      ¬ StatusRight (updateBinary .two (longUpdate 0x00) [⟨.writeDevice, 0, 0, []⟩]) := by
  refine ⟨rfl, ?_, rfl, ?_⟩
  · intro right
    exact right _ rfl ⟨_, List.mem_singleton_self _, by decide⟩ rfl
  · intro right
    exact right _ rfl ⟨_, List.mem_singleton_self _, by decide⟩ rfl

end Cyberjack.Ppa.WireUpdate
