import Cyberjack.Foundation.Loop
import Cyberjack.Eca.Transfer

namespace Cyberjack.Eca

open Cyberjack.Foundation

/-! # Matching of responses

A run of calls of `Transfer`, over one connection to the reader after the other.  The
request of a call is known by the place of the call in the run; a response that is
read may answer any request made so far, be it late, a second time or never.
-/

structure TransferCall where
  inputBufferSize : Nat
  Message : CCID_Message
  exchange : Exchange
deriving DecidableEq

/-- A reader object, and whether its communicator still holds a device. -/
structure Connection where
  reader : CCCIDReader
  opened : Bool

/-- Nothing is connected. -/
def Connection.none : Connection := ⟨{ CCCIDReader.constructed with m_pCommunicator := false }, false⟩

/-- `CReader::Connect` opens a new communicator and makes a new reader object. -/
inductive ReaderStep where
  | connect
  | transfer (called : TransferCall)
deriving DecidableEq

namespace Connection

/-- A communicator that has closed its device fails in `Write`. -/
def exchange (connection : Connection) (called : TransferCall) : Exchange :=
  if connection.opened then called.exchange else ⟨some .deviceLost, []⟩

/-- The message of a call is written. -/
def Written (connection : Connection) (called : TransferCall) : Prop :=
  Eca.Written called.inputBufferSize called.Message (connection.exchange called) connection.reader

instance (connection : Connection) (called : TransferCall) : Decidable (connection.Written called) :=
  inferInstanceAs (Decidable (Eca.Written _ _ _ _))

/-- A step that puts a request on the line. -/
def Sends (connection : Connection) : ReaderStep → Prop
  | .connect => False
  | .transfer called => connection.Written called

instance (connection : Connection) : (step : ReaderStep) → Decidable (connection.Sends step)
  | .connect => inferInstanceAs (Decidable False)
  | .transfer called => inferInstanceAs (Decidable (connection.Written called))

def Usable (connection : Connection) : Prop := connection.opened = true ∧ connection.reader.m_pCommunicator = true

end Connection

/-- A call that still waits for a read ends the run. -/
def transferBody (connection : Connection) : ReaderStep → List Transferred × Next Connection Unit
  | .connect => ([], .again ⟨.constructed, true⟩)
  | .transfer called =>
      match Transfer called.inputBufferSize called.Message (connection.exchange called) connection.reader with
      | none => ([], .done ())
      | some (.received Response request, reader) => ([.received Response request], .again ⟨reader, connection.opened⟩)
      | some (.failed Res, reader) =>
          -- behind a write it is a read that fails, and `Read` closes the device
          ([.failed Res], .again ⟨reader, connection.opened && !decide (connection.Written called)⟩)

abbrev TransferTurn := Turn Connection ReaderStep Transferred

def transfers (steps : List ReaderStep) : List TransferTurn := (run transferBody .none steps).turns

/-- The reads up to the one that ends the waiting. -/
def upToMatch (m_SequenceNo : UInt8) : List Read → List Read
  | [] => []
  | .failed Res :: _ => [.failed Res]
  | .arrived Response request :: rest =>
      if m_SequenceNo = Response.bSeq then [.arrived Response request]
      else .arrived Response request :: upToMatch m_SequenceNo rest

def TransferTurn.Written (turn : TransferTurn) : Prop := turn.before.Sends turn.input

instance (turn : TransferTurn) : Decidable turn.Written :=
  inferInstanceAs (Decidable (turn.before.Sends turn.input))

/-- The reads that a step makes. -/
def Connection.readsMade (connection : Connection) : ReaderStep → List Read
  | .connect => []
  | .transfer called =>
      if connection.Written called then upToMatch connection.reader.m_SequenceNo (connection.exchange called).reads else []

def TransferTurn.readsMade (turn : TransferTurn) : List Read := turn.before.readsMade turn.input

/-- The reader answers requests that were made, under their numbers. -/
def Answered (turns : List TransferTurn) : Prop :=
  ∀ (index : Nat) (turn : TransferTurn) (Response : CCID_Response) (request : Nat),
    turns[index]? = some turn → Read.arrived Response request ∈ turn.readsMade →
      request ≤ index ∧ ∀ asked, turns[request]? = some asked →
        asked.Written ∧ Response.bSeq = asked.before.reader.m_SequenceNo

/-- A successful `Transfer` returns the response to its own request. -/
def Matches (turns : List TransferTurn) : Prop :=
  ∀ (index : Nat) (turn : TransferTurn) (Response : CCID_Response) (request : Nat),
    turns[index]? = some turn → Transferred.received Response request ∈ turn.output →
      request = index

def Transferred.isReceived : Transferred → Bool
  | .received _ _ => true
  | .failed _ => false

/-- A count of turns that begins anew with every connection. -/
def countFrom (weight : TransferTurn → Nat) : Nat → List TransferTurn → Nat
  | total, [] => total
  | total, turn :: rest => countFrom weight (if turn.input = .connect then 0 else total + weight turn) rest

/-- How many calls have succeeded on the connection. -/
def successes (turns : List TransferTurn) : Nat :=
  countFrom (fun turn => turn.output.countP Transferred.isReceived) 0 turns

/-- How many requests were written on the connection. -/
def requests (turns : List TransferTurn) : Nat := countFrom (fun turn => if turn.Written then 1 else 0) 0 turns

/-- Where a response to an earlier request is read, the calls that had succeeded on the connection of
that request are not as many, up to multiples of 256, as those that have on this one. -/
def Advanced (turns : List TransferTurn) : Prop :=
  ∀ (index : Nat) (turn : TransferTurn) (Response : CCID_Response) (request : Nat),
    turns[index]? = some turn → Read.arrived Response request ∈ turn.readsMade →
      request < index → successes (turns.take index) % 256 ≠ successes (turns.take request) % 256

/-- What is read was asked for on the same connection, with fewer than 256 requests since. -/
def Recent (turns : List TransferTurn) : Prop :=
  ∀ (index : Nat) (turn : TransferTurn) (Response : CCID_Response) (request : Nat),
    turns[index]? = some turn → Read.arrived Response request ∈ turn.readsMade →
      (∀ between ∈ (turns.take index).drop request, between.input ≠ .connect) ∧
        requests (turns.take index) < requests (turns.take request) + 256

variable {connection next : Connection} {called : TransferCall} {reads : List Read} {m_SequenceNo : UInt8}
  {Response : CCID_Response} {request : Nat} {weight : TransferTurn → Nat} {turn : TransferTurn}

/-! ## Counts -/

theorem countFrom_append (total : Nat) (first second : List TransferTurn) :
    countFrom weight total (first ++ second) = countFrom weight (countFrom weight total first) second := by
  induction first generalizing total with
  | nil => rfl
  | cons turn rest ih => exact ih _

/-- On one connection the count only grows. -/
theorem le_countFrom {turns : List TransferTurn} (connected : ∀ turn ∈ turns, turn.input ≠ .connect) (total : Nat) :
    total ≤ countFrom weight total turns := by
  induction turns generalizing total with
  | nil => exact Nat.le_refl total
  | cons turn rest ih =>
      rw [List.forall_mem_cons] at connected
      rw [countFrom, if_neg connected.1]
      exact Nat.le_trans (Nat.le_add_right _ _) (ih connected.2 _)

/-- Every turn on it counts. -/
theorem add_le_countFrom {turns : List TransferTurn} (connected : ∀ turn ∈ turns, turn.input ≠ .connect)
    (member : turn ∈ turns) (total : Nat) : total + weight turn ≤ countFrom weight total turns := by
  induction turns generalizing total with
  | nil => contradiction
  | cons first rest ih =>
      rw [List.forall_mem_cons] at connected
      rw [countFrom, if_neg connected.1]
      cases List.mem_cons.mp member with
      | inl here =>
          rw [here]
          exact le_countFrom connected.2 _
      | inr later =>
          have counted := ih connected.2 later (total + weight first)
          omega

section Snoc

variable (past : List TransferTurn) (connection : Connection) (output : List Transferred)

theorem successes_connect : successes (past ++ [⟨connection, .connect, output⟩]) = 0 := countFrom_append 0 past _

theorem requests_connect : requests (past ++ [⟨connection, .connect, output⟩]) = 0 := countFrom_append 0 past _

theorem successes_transfer (called : TransferCall) :
    successes (past ++ [⟨connection, .transfer called, output⟩]) = successes past + output.countP Transferred.isReceived :=
  countFrom_append 0 past _

theorem requests_transfer (called : TransferCall) :
    requests (past ++ [⟨connection, .transfer called, output⟩]) =
      requests past + if connection.Written called then 1 else 0 :=
  countFrom_append 0 past _

end Snoc

/-! ## Reads -/

theorem awaitSeq_received (received : awaitSeq m_SequenceNo reads = some (.received Response request)) :
    m_SequenceNo = Response.bSeq ∧ Read.arrived Response request ∈ upToMatch m_SequenceNo reads := by
  induction reads with
  | nil => contradiction
  | cons read rest ih =>
      cases read with
      | failed Res => simp [awaitSeq] at received
      | arrived Other other =>
          rw [awaitSeq] at received
          rw [upToMatch]
          split at received
          · rename_i same
            cases received
            rw [if_pos same]
            exact ⟨same, List.mem_singleton.mpr rfl⟩
          · rename_i different
            rw [if_neg different]
            exact ⟨(ih received).1, List.mem_cons_of_mem _ (ih received).2⟩

theorem awaitSeq_of_match (made : Read.arrived Response request ∈ upToMatch m_SequenceNo reads)
    (same : m_SequenceNo = Response.bSeq) :
    awaitSeq m_SequenceNo reads = some (.received Response request) := by
  induction reads with
  | nil => contradiction
  | cons read rest ih =>
      cases read with
      | failed Res => simp [upToMatch] at made
      | arrived Other other =>
          rw [upToMatch] at made
          rw [awaitSeq]
          split at made
          · rename_i here
            rw [List.mem_singleton] at made
            cases made
            rw [if_pos here]
          · rename_i different
            rw [if_neg different]
            cases made with
            | head => exact absurd same different
            | tail _ later => exact ih later

theorem readResponse_received :
    readResponse m_SequenceNo reads = some (.received Response request) ↔
      awaitSeq m_SequenceNo reads = some (.received Response request) := by
  cases reads with
  | nil => exact Iff.rfl
  | cons read rest =>
      cases read with
      | failed Res => simp [readResponse, awaitSeq]
      | arrived Other other => exact Iff.rfl

theorem readResponse_none (waits : readResponse m_SequenceNo reads = none) : awaitSeq m_SequenceNo reads = none := by
  cases reads with
  | nil => rfl
  | cons read rest =>
      cases read with
      | failed Res => contradiction
      | arrived Other other => exact waits

/-! ## Calls -/

/-- What is written goes over a connection that is open. -/
theorem Connection.Written.usable (written : connection.Written called) : connection.Usable := by
  refine ⟨?_, written.1⟩
  by_contra closed
  obtain ⟨_, sent⟩ := written
  rw [exchange, if_neg closed, write] at sent
  split at sent
  · contradiction
  · contradiction

/-- What a call does with its connection. -/
inductive CallMade (connection : Connection) (called : TransferCall) : List Transferred × Next Connection Unit → Prop
  | unwritten (Res : CjError) (reader : CCCIDReader) (unwritten : ¬ connection.Written called)
      (number : reader.m_SequenceNo = connection.reader.m_SequenceNo)
      (lost : reader.m_pCommunicator = true → connection.reader.m_pCommunicator = true) :
      CallMade connection called ([.failed Res], .again ⟨reader, connection.opened⟩)
  | waits (written : connection.Written called)
      (awaited : awaitSeq connection.reader.m_SequenceNo (connection.exchange called).reads = none) :
      CallMade connection called ([], .done ())
  | received (Response : CCID_Response) (request : Nat) (written : connection.Written called)
      (awaited : awaitSeq connection.reader.m_SequenceNo (connection.exchange called).reads =
        some (.received Response request)) :
      CallMade connection called
        ([.received Response request], .again ⟨acceptResponse Response connection.reader, connection.opened⟩)
  | failed (Res : CjError) (written : connection.Written called)
      (awaited : ∀ Response request, awaitSeq connection.reader.m_SequenceNo (connection.exchange called).reads ≠
        some (.received Response request)) :
      CallMade connection called ([.failed Res], .again ⟨connection.reader, false⟩)

theorem transferBody_made (connection : Connection) (called : TransferCall) :
    CallMade connection called (transferBody connection (.transfer called)) := by
  by_cases written : connection.Written called
  · have made := Transfer_written written
    rw [transferBody, made]
    cases reading : readResponse connection.reader.m_SequenceNo (connection.exchange called).reads with
    | none => exact .waits written (readResponse_none reading)
    | some result =>
        cases result with
        | failed Res =>
            simp only [written, decide_true, Bool.not_true, Bool.and_false]
            refine .failed Res written fun Response request awaited => ?_
            rw [readResponse_received.mpr awaited] at reading
            cases reading
        | received Response request => exact .received Response request written (readResponse_received.mp reading)
  · obtain ⟨Res, connected, failed⟩ := Transfer_unwritten written
    have lost : connected = true → connection.reader.m_pCommunicator = true := by
      intro stays
      by_contra gone
      rw [Transfer, if_pos (Bool.eq_false_iff.mpr gone), Option.some.injEq, Prod.mk.injEq] at failed
      exact gone ((congrArg CCCIDReader.m_pCommunicator failed.2).trans stays)
    rw [transferBody, failed]
    simp only [written, decide_false, Bool.not_false, Bool.and_true]
    exact .unwritten Res _ written rfl lost

theorem transferBody_received :
    Transferred.received Response request ∈ (transferBody connection (.transfer called)).1 ↔
      connection.Written called ∧
        awaitSeq connection.reader.m_SequenceNo (connection.exchange called).reads =
          some (.received Response request) := by
  have made := transferBody_made connection called
  generalize transferBody connection (.transfer called) = result at made ⊢
  cases made with
  | unwritten Res reader unwritten => simp [unwritten]
  | waits written awaited => simp [awaited]
  | received Other other written awaited =>
      rw [awaited, List.mem_singleton, and_iff_right written, Option.some.injEq]
      exact eq_comm
  | failed Res written awaited => simp [awaited]

/-! ## Numbers -/

/-- The number of a request counts the calls that have succeeded before it on its connection, and these are
all that were written as long as the connection is usable. -/
structure Counted (past : List TransferTurn) (connection : Connection) : Prop where
  number : connection.reader.m_SequenceNo = UInt8.ofNat (successes past)
  kept : connection.Usable → requests past = successes past

theorem counted_none : Counted [] .none := ⟨rfl, fun _ => rfl⟩

/-- A step leaves a connection whose number counts. -/
theorem transferBody_counted {past : List TransferTurn} {step : ReaderStep} (counted : Counted past connection)
    (made : (transferBody connection step).2 = .again next) :
    Counted (past ++ [⟨connection, step, (transferBody connection step).1⟩]) next := by
  cases step with
  | connect =>
      cases made
      exact ⟨by rw [successes_connect]; rfl, fun _ => by rw [requests_connect, successes_connect]⟩
  | transfer called =>
      have result := transferBody_made connection called
      have number := counted.number
      have kept := counted.kept
      constructor
      · rw [successes_transfer]
        generalize transferBody connection (.transfer called) = body at result made ⊢
        cases result with
        | unwritten Res reader unwritten same =>
            cases made
            exact same.trans number
        | waits => contradiction
        | received Response request =>
            cases made
            rw [UInt8.ofNat_add, ← number]
            exact acceptResponse_number Response connection.reader
        | failed Res =>
            cases made
            exact number
      · intro usable
        rw [requests_transfer, successes_transfer]
        generalize transferBody connection (.transfer called) = body at result made ⊢
        cases result with
        | unwritten Res reader unwritten same lost =>
            cases made
            rw [if_neg unwritten, kept ⟨usable.1, lost usable.2⟩]
            rfl
        | waits => contradiction
        | received Response request written =>
            cases made
            rw [if_pos written, kept written.usable]
            rfl
        | failed Res =>
            cases made
            exact absurd usable.1 nofun

/-- Every step of a run is made over a connection whose number counts. -/
structure Numbered (past : List TransferTurn) : Prop where
  counted : ∀ front turn back, past = front ++ turn :: back → Counted front turn.before
  output : ∀ turn ∈ past, turn.output = (transferBody turn.before turn.input).1

theorem Numbered.snoc {past : List TransferTurn} (numbered : Numbered past) (now : Counted past connection)
    (step : ReaderStep) :
    Numbered (past ++ [⟨connection, step, (transferBody connection step).1⟩]) where
  counted := by
    intro front turn back split
    rcases split_append split with ⟨rest, inside⟩ | ⟨rest, rfl, single⟩
    · exact numbered.counted front turn rest inside
    · cases rest with
      | nil =>
          simp only [List.nil_append, List.cons.injEq] at single
          rw [← single.1, List.append_nil]
          exact now
      | cons head tail => simp at single
  output := by
    intro turn member
    rw [List.mem_append, List.mem_singleton] at member
    cases member with
    | inl earlier => exact numbered.output turn earlier
    | inr last => rw [last]

/-- The invariant of a run. -/
def Counting (past : List TransferTurn) (connection : Connection) : Prop := Numbered past ∧ Counted past connection

theorem transferBody_counting (past : List TransferTurn) (connection : Connection) (step : ReaderStep)
    (counting : Counting past connection) :
    (transferBody connection step).2.Satisfies
      (Counting (past ++ [⟨connection, step, (transferBody connection step).1⟩]))
      (fun _ => Numbered (past ++ [⟨connection, step, (transferBody connection step).1⟩])) := by
  have later := counting.1.snoc counting.2 step
  cases made : (transferBody connection step).2 with
  | done result => exact later
  | again next => exact ⟨later, transferBody_counted counting.2 made⟩

theorem transfers_numbered (steps : List ReaderStep) : Numbered (transfers steps) := by
  have start : Counting [] .none := ⟨⟨by simp, by simp⟩, counted_none⟩
  have finished := @run_invariant _ _ _ _ transferBody Counting (fun past _ => Numbered past) transferBody_counting [] _
    start steps
  rw [List.nil_append] at finished
  cases ended : (run transferBody .none steps).outcome with
  | done result =>
      rw [ended] at finished
      exact finished
  | again next =>
      rw [ended] at finished
      exact finished.1

variable {turns : List TransferTurn} {index : Nat} {asked : TransferTurn}

theorem Numbered.at (numbered : Numbered turns) (here : turns[index]? = some turn) :
    Counted (turns.take index) turn.before := by
  obtain ⟨inside, same⟩ := List.getElem?_eq_some_iff.mp here
  apply numbered.counted (turns.take index) turn (turns.drop (index + 1))
  rw [← same, List.getElem_cons_drop, List.take_append_drop]

/-- Two requests have the same number where as many calls, up to multiples of 256, had succeeded before them. -/
theorem Numbered.same_iff (numbered : Numbered turns) (before : turns[request]? = some asked)
    (here : turns[index]? = some turn) :
    turn.before.reader.m_SequenceNo = asked.before.reader.m_SequenceNo ↔
      successes (turns.take index) % 256 = successes (turns.take request) % 256 := by
  rw [(numbered.at here).number, (numbered.at before).number, ← UInt8.toNat_inj, UInt8.toNat_ofNat', UInt8.toNat_ofNat']

theorem Numbered.received_iff (numbered : Numbered turns) (here : turns[index]? = some turn) :
    Transferred.received Response request ∈ turn.output ↔
      Read.arrived Response request ∈ turn.readsMade ∧ Response.bSeq = turn.before.reader.m_SequenceNo := by
  rw [numbered.output turn (List.mem_of_getElem? here), TransferTurn.readsMade]
  cases turn.input with
  | connect => exact iff_of_false List.not_mem_nil fun made => List.not_mem_nil made.1
  | transfer called =>
      rw [transferBody_received, Connection.readsMade]
      constructor
      · intro received
        obtain ⟨written, awaited⟩ := received
        obtain ⟨same, made⟩ := awaitSeq_received awaited
        rw [if_pos written]
        exact ⟨made, same.symm⟩
      · intro read
        obtain ⟨made, same⟩ := read
        split at made
        · case isTrue written => exact ⟨written, awaitSeq_of_match made same.symm⟩
        · contradiction

/-- A step that reads has written its request. -/
theorem written_of_read (made : Read.arrived Response request ∈ turn.readsMade) : turn.Written := by
  rw [TransferTurn.readsMade] at made
  rw [TransferTurn.Written]
  cases same : turn.input with
  | connect =>
      rw [same] at made
      contradiction
  | transfer called =>
      rw [same, Connection.readsMade] at made
      split at made
      · assumption
      · contradiction

theorem TransferTurn.Written.usable (written : turn.Written) : turn.before.Usable := by
  rw [TransferTurn.Written] at written
  cases same : turn.input with
  | connect =>
      rw [same] at written
      exact written.elim
  | transfer called =>
      rw [same] at written
      exact Connection.Written.usable written

/-- Behind a request that is written on the same connection more requests have been. -/
theorem requests_later (before : turns[request]? = some asked) (written : asked.Written) (earlier : request < index)
    (connected : ∀ between ∈ (turns.take index).drop request, between.input ≠ .connect) :
    requests (turns.take request) < requests (turns.take index) := by
  have cut := List.take_append_drop request (turns.take index)
  rw [List.take_take, Nat.min_eq_left (Nat.le_of_lt earlier)] at cut
  have member : asked ∈ (turns.take index).drop request := by
    apply List.mem_of_getElem? (i := 0)
    rw [List.getElem?_drop, Nat.add_zero, List.getElem?_take_of_lt earlier, before]
  have counted := @add_le_countFrom (fun turn => if turn.Written then 1 else 0) asked _ connected member
    (requests (turns.take request))
  rw [if_pos written] at counted
  rw [← cut, requests, requests, countFrom_append]
  exact counted

theorem advanced_of_recent (numbered : Numbered turns) (answered : Answered turns) (recent : Recent turns) :
    Advanced turns := by
  intro index turn Response request here made earlier
  obtain ⟨inside, _⟩ := List.getElem?_eq_some_iff.mp here
  have before : turns[request]? = some turns[request] := List.getElem?_eq_getElem (by omega)
  have written := ((answered index turn Response request here made).2 _ before).1
  obtain ⟨connected, few⟩ := recent index turn Response request here made
  have more := requests_later before written earlier connected
  rw [(numbered.at here).kept (written_of_read made).usable, (numbered.at before).kept written.usable] at few more
  omega

/-- Every response that is handed on answers the request of its own call exactly in the runs that read no response to
an earlier request with the number of this one, and so wherever what is read was asked for on the same connection with
fewer than 256 requests since. -/
theorem matches_iff_advanced (steps : List ReaderStep) (answered : Answered (transfers steps)) :
    (Matches (transfers steps) ↔ Advanced (transfers steps)) ∧ (Recent (transfers steps) → Matches (transfers steps)) := by
  have numbered := transfers_numbered steps
  generalize transfers steps = turns at *
  have exact_ : Matches turns ↔ Advanced turns := by
    constructor
    · intro agrees index turn Response request here made earlier multiple
      obtain ⟨inside, _⟩ := List.getElem?_eq_some_iff.mp here
      have before : turns[request]? = some turns[request] := List.getElem?_eq_getElem (by omega)
      have number := ((answered index turn Response request here made).2 _ before).2
      rw [← (numbered.same_iff before here).mpr multiple] at number
      have own := agrees index turn Response request here ((numbered.received_iff here).mpr ⟨made, number⟩)
      omega
    · intro advanced index turn Response request here received
      obtain ⟨made, same⟩ := (numbered.received_iff here).mp received
      obtain ⟨ordered, asked⟩ := answered index turn Response request here made
      by_contra different
      obtain ⟨inside, _⟩ := List.getElem?_eq_some_iff.mp here
      have before : turns[request]? = some turns[request] := List.getElem?_eq_getElem (by omega)
      rw [(asked _ before).2] at same
      exact advanced index turn Response request here made (by omega) ((numbered.same_iff before here).mp same.symm)
  exact ⟨exact_, fun recent => exact_.mpr (advanced_of_recent numbered answered recent)⟩

/-- The status of the slot under a number. -/
def CCID_Response.slotStatus (bSeq : UInt8) : CCID_Response := ⟨0x81, 0, bSeq, 0, 0, .filled 2038 0⟩

/-- A request for the status of the slot. -/
def ReaderStep.slotStatus (reads : List Read) : ReaderStep := .transfer ⟨1024, ⟨0x65, 0⟩, ⟨none, reads⟩⟩

/-- The first response comes a second time, in front of the second one. -/
theorem repeatedResponse_matches :
    Matches (transfers [.connect, .slotStatus [.arrived (.slotStatus 0) 1],
      .slotStatus [.arrived (.slotStatus 0) 1, .arrived (.slotStatus 1) 2]]) := by
  refine (matches_iff_advanced _ ?_).1.mpr ?_
  · intro index turn Response request here made
    rcases index with _ | _ | _ | index
    · cases here
      contradiction
    · cases here
      cases made with
      | head => exact ⟨Nat.le_refl _, fun asked found => by cases found; exact ⟨by decide, rfl⟩⟩
      | tail _ later => contradiction
    · cases here
      cases made with
      | head => exact ⟨by decide, fun asked found => by cases found; exact ⟨by decide, rfl⟩⟩
      | tail _ later =>
          cases later with
          | head => exact ⟨by decide, fun asked found => by cases found; exact ⟨by decide, rfl⟩⟩
          | tail _ later => contradiction
    · contradiction
  · intro index turn Response request here made earlier
    rcases index with _ | _ | _ | index
    · contradiction
    · cases here
      cases made with
      | head => contradiction
      | tail _ later => contradiction
    · cases here
      cases made with
      | head => decide
      | tail _ later =>
          cases later with
          | head => contradiction
          | tail _ later => contradiction
    · contradiction

/-- The response to a call whose read failed comes when the reader has been connected anew. -/
theorem lateResponse_not_matches :
    let turns := transfers
      [.connect, .slotStatus [.failed .deviceLost], .connect, .slotStatus [.arrived (.slotStatus 0) 1]]
    Answered turns ∧ ¬ Matches turns := by
  refine ⟨?_, ?_⟩
  · intro index turn Response request here made
    rcases index with _ | _ | _ | _ | index
    · cases here
      contradiction
    · cases here
      cases made with
      | tail _ later => contradiction
    · cases here
      contradiction
    · cases here
      cases made with
      | head => exact ⟨by decide, fun asked found => by cases found; exact ⟨by decide, rfl⟩⟩
      | tail _ later => contradiction
    · contradiction
  · intro agrees
    have own := agrees 3 _ (.slotStatus 0) 1 rfl (List.mem_singleton.mpr rfl)
    contradiction

end Cyberjack.Eca
