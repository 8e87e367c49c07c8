import Cyberjack.Libdialog.NetRecv

namespace Cyberjack.Libdialog

open Cyberjack.Foundation

/-! # Messages on the socket

`rsct_net_send` of `network.c` on one end and `rsct_net_recv` on the other.  Both ends cut the stream where
the kernel likes to.
-/

/-- What `send` returns: how much it takes, no more than it is given, or -1. -/
inductive SendReturn where
  | accepted (count : Nat)
  | failed (interrupted : Bool)
deriving Repr, DecidableEq

structure Sending where
  p : Int
  bytesLeft : Int
deriving DecidableEq

def bytesAtPointer (msg : Int → UInt8) (p : Int) (count : Nat) : List UInt8 :=
  (List.range count).map fun index => msg (p + (index : Nat))

/-- `while(bytesLeft)` -/
def sendHead (p bytesLeft : Int) : Next Sending Int :=
  if bytesLeft = 0 then .done 0 else .again ⟨p, bytesLeft⟩

def sendBody (msg : Int → UInt8) : Body Sending SendReturn UInt8 Int := fun state returned =>
  match returned with
  | .failed false => ([], .done (-1))
  | .failed true => ([], .again state)
  | .accepted count =>
      let i := min count (sizeT state.bytesLeft)
      (bytesAtPointer msg state.p i, sendHead (state.p + i) (state.bytesLeft - i))

def rsct_net_send (msg : Int → UInt8) (returns : List SendReturn) : Call Sending SendReturn UInt8 Int :=
  call (sendBody msg) ([], sendHead 0 (int32 (headerLen msg))) returns

/-- A message that `rsct_net_recv` does not refuse. -/
structure Message where
  memory : Int → UInt8
  least : headerSize ≤ headerLen memory
  short : headerLen memory < RSCT_MAX_MESSAGE_LEN

def Message.length (message : Message) : Nat := headerLen message.memory

def Message.bytes (message : Message) : List UInt8 := bytesOf message.memory message.length

/-- Messages are sent one after the other, until one of them fails. -/
def wire : List (Message × List SendReturn) → List UInt8
  | [] => []
  | (message, returns) :: rest =>
      let made := rsct_net_send message.memory returns
      if made.outcome = .done 0 then made.trace ++ wire rest else made.trace

def AllSent (sends : List (Message × List SendReturn)) : Prop :=
  ∀ send ∈ sends, (rsct_net_send send.1.memory send.2).outcome = .done 0

/-- The buffer and the reads of a call. -/
structure Receipt where
  buffer : Int → UInt8
  returns : List ReadReturn

def Receipt.made (receipt : Receipt) : Run Receiving ReadReturn Write Returned :=
  rsct_net_recv receipt.buffer receipt.returns

/-- What a call takes of the stream. -/
def Receipt.drawn (receipt : Receipt) : List UInt8 := received receipt.made.turns

/-- The messages that are received, until a call does not return one, and what is taken of the stream. -/
def receive : List Receipt → List (List UInt8) × List UInt8
  | [] => ([], [])
  | receipt :: rest =>
      match receipt.made.outcome with
      | .done returned =>
          if 0 < returned.value then
            (bytesOf returned.msg returned.value.toNat :: (receive rest).1, receipt.drawn ++ (receive rest).2)
          else ([], receipt.drawn)
      | .again _ => ([], receipt.drawn)

/-! ## Sending -/

variable {message : Message} {count : Nat} {data later : List UInt8}

theorem length_bytes (message : Message) : message.bytes.length = message.length := length_bytesOf _ _

theorem getElem_bytes {index : Nat} (inside : index < message.bytes.length) :
    message.bytes[index] = message.memory index := by
  simp [Message.bytes, bytesOf]

theorem bytesAtPointer_drop {asked : Nat} (inside : count + asked ≤ message.length) :
    bytesAtPointer message.memory count asked = (message.bytes.drop count).take asked := by
  apply List.ext_getElem
  · simp only [bytesAtPointer, List.length_map, List.length_range, List.length_take, List.length_drop, length_bytes]
    omega
  · intro index here there
    simp [bytesAtPointer, getElem_bytes]

theorem sendHead_left (left : count < message.length) :
    sendHead count ((message.length : Int) - count) = .again ⟨count, (message.length : Int) - count⟩ :=
  if_neg (by omega)

theorem sendHead_done : sendHead message.length ((message.length : Int) - message.length) = .done 0 :=
  if_pos (by omega)

/-- A failed send has sent less than the rest of the message, and one that succeeds all of it. -/
structure Sends (rest : List UInt8) (outcome : Next Sending Int) (sent : List UInt8) : Prop where
  begins : sent <+: rest
  whole : outcome = .done 0 → sent = rest

theorem run_sends (left : count < message.length) (returns : List SendReturn) :
    Sends (message.bytes.drop count)
      (run (sendBody message.memory) ⟨count, (message.length : Int) - count⟩ returns).outcome
      (outputs (run (sendBody message.memory) ⟨count, (message.length : Int) - count⟩ returns).turns) := by
  induction returns generalizing count with
  | nil => exact ⟨List.nil_prefix, nofun⟩
  | cons returned returns ih =>
      cases returned with
      | failed interrupted =>
          cases interrupted with
          | false => exact ⟨List.nil_prefix, nofun⟩
          | true => exact ih left
      | accepted asked =>
          have room : sizeT ((message.length : Int) - count) = message.length - count := by
            have limit : RSCT_MAX_MESSAGE_LEN = 66560 := rfl
            have short : message.length < RSCT_MAX_MESSAGE_LEN := message.short
            rw [sizeT]
            omega
          generalize taken : min asked (message.length - count) = i
          have stepped : sendBody message.memory ⟨count, (message.length : Int) - count⟩ (.accepted asked) =
              ((message.bytes.drop count).take i,
                sendHead ((count + i : Nat) : Int) ((message.length : Int) - (count + i : Nat))) := by
            simp only [sendBody, room, taken, bytesAtPointer_drop (show count + i ≤ message.length by omega)]
            rw [Int.natCast_add, Int.sub_sub]
          by_cases ends : count + i = message.length
          · rw [ends, sendHead_done] at stepped
            have all : (message.bytes.drop count).take i = message.bytes.drop count := by
              apply List.take_of_length_le
              simp only [List.length_drop, length_bytes]
              omega
            rw [run_done stepped, outputs_singleton, all]
            exact ⟨List.prefix_rfl, fun _ => rfl⟩
          · have further : count + i < message.length := by omega
            rw [sendHead_left further] at stepped
            rw [run_again stepped, outputs_cons]
            have behind := ih further
            rw [← List.drop_drop] at behind
            obtain ⟨begins, whole⟩ := behind
            have split := List.take_append_drop i (message.bytes.drop count)
            constructor
            · obtain ⟨rest, same⟩ := begins
              exact ⟨rest, by rw [List.append_assoc, same, split]⟩
            · intro ended
              rw [whole ended, split]

theorem send_sends (message : Message) (returns : List SendReturn) :
    Sends message.bytes (rsct_net_send message.memory returns).outcome
      (rsct_net_send message.memory returns).trace := by
  have length : int32 (headerLen message.memory) = message.length := by
    have limit : RSCT_MAX_MESSAGE_LEN = 66560 := rfl
    have short := message.short
    exact int32_of_range (by omega) (by omega)
  have some : 0 < message.length := Nat.lt_of_lt_of_le (by decide) message.least
  have started := sendHead_left some
  rw [Int.natCast_zero, Int.sub_zero] at started
  have made := @run_sends message 0 some returns
  rw [Int.natCast_zero, Int.sub_zero, List.drop_zero] at made
  rw [rsct_net_send, length, started]
  exact made

/-- What lies on the socket is the beginning of the messages, one after the other. -/
theorem wire_begins (sends : List (Message × List SendReturn)) :
    wire sends <+: (sends.map fun send => send.1.bytes).flatten := by
  induction sends with
  | nil => simp [wire]
  | cons send rest ih =>
      obtain ⟨message, returns⟩ := send
      have made := send_sends message returns
      simp only [wire, List.map_cons, List.flatten_cons]
      split
      · rename_i succeeded
        rw [made.whole succeeded]
        exact (List.prefix_append_right_inj _).mpr ih
      · exact made.begins.trans (List.prefix_append _ _)

theorem wire_whole {sends : List (Message × List SendReturn)} (all : AllSent sends) :
    wire sends = (sends.map fun send => send.1.bytes).flatten := by
  induction sends with
  | nil => simp [wire]
  | cons send rest ih =>
      obtain ⟨message, returns⟩ := send
      rw [AllSent, List.forall_mem_cons] at all
      have made := send_sends message returns
      simp only [wire, if_pos all.1, List.map_cons, List.flatten_cons, ih all.2, made.whole all.1]

/-! ## Receiving -/

variable {payload : Bool} {buffer : Int → UInt8}

/-- The first `count` bytes of a message are in the buffer, and the loop is where it reads the next one. -/
structure At (message : Message) (payload : Bool) (buffer : Int → UInt8) (count : Nat) : Prop where
  agrees : ∀ index < count, buffer (index : Nat) = message.memory (index : Nat)
  header : payload = false → count < headerSize
  behind : payload = true → headerSize ≤ count ∧ count < message.length

theorem At.inside (place : At message payload buffer count) : count < message.length := by
  cases payload with
  | false => exact Nat.lt_of_lt_of_le (place.header rfl) message.least
  | true => exact (place.behind rfl).2

theorem agrees_overwrite (agrees : ∀ index < count, buffer (index : Nat) = message.memory (index : Nat))
    (inside : count + data.length ≤ message.length) (next : data <+: message.bytes.drop count ++ later) :
    ∀ index < count + data.length, overwrite buffer count data (index : Nat) = message.memory (index : Nat) := by
  intro index below
  obtain ⟨rest, same⟩ := next
  by_cases front : index < count
  · rw [overwrite, if_neg (by omega)]
    exact agrees index front
  · have place : ((index : Int) - count).toNat = index - count := by omega
    have here : index - count < data.length := by omega
    have there : index < message.bytes.length := by
      rw [length_bytes]
      omega
    have byte : (data ++ rest)[index - count]? = (message.bytes.drop count ++ later)[index - count]? := by
      rw [same]
    rw [List.getElem?_append_left here, List.getElem?_append_left (by rw [List.length_drop]; omega),
      List.getElem?_drop, Nat.add_sub_cancel' (Nat.not_lt.mp front), List.getElem?_eq_getElem there,
      getElem_bytes] at byte
    rw [overwrite, if_pos (by omega), place, List.getD_eq_getElem?_getD, byte, Option.getD_some]

theorem headerLen_agrees (agrees : ∀ index < count, buffer (index : Nat) = message.memory (index : Nat))
    (least : headerSize ≤ count) : headerLen buffer = message.length := by
  have same (index : Nat) (below : index < 5) : buffer index = message.memory index :=
    agrees index (Nat.lt_of_lt_of_le below least)
  have first : buffer 1 = message.memory 1 := same 1 (by decide)
  have second : buffer 2 = message.memory 2 := same 2 (by decide)
  have third : buffer 3 = message.memory 3 := same 3 (by decide)
  have fourth : buffer 4 = message.memory 4 := same 4 (by decide)
  rw [Message.length, headerLen, headerLen, first, second, third, fourth]

theorem bytesOf_agrees
    (agrees : ∀ index < message.length, buffer (index : Nat) = message.memory (index : Nat)) :
    bytesOf buffer message.length = message.bytes := by
  apply List.map_congr_left
  intro index inside
  exact agrees index (List.mem_range.mp inside)

/-- What the head of a loop does behind `count` bytes of a message. -/
structure Goes (message : Message) (buffer : Int → UInt8) (count : Nat) (next : Next Receiving Returned) : Prop where
  further : count < message.length → ∃ payload, next = .again ⟨payload, buffer, count, count⟩ ∧
    At message payload buffer count
  ends : count = message.length → next = .done ⟨count, buffer⟩

theorem headerHead_goes (agrees : ∀ index < count, buffer (index : Nat) = message.memory (index : Nat))
    (header : count ≤ headerSize) : Goes message buffer count (headerHead buffer count count) := by
  have least := message.least
  have short := message.short
  have length : message.length = headerLen message.memory := rfl
  by_cases more : count < headerSize
  · constructor
    · intro _
      exact ⟨false, headerHead_more more, agrees, fun _ => more, nofun⟩
    · omega
  · have whole : count = headerSize := Nat.le_antisymm header (Nat.not_lt.mp more)
    have announced := headerLen_agrees agrees (Nat.not_lt.mp more)
    rw [headerHead_whole whole, announced, if_neg (by omega)]
    constructor
    · intro further
      exact ⟨true, if_pos further, agrees, nofun, fun _ => ⟨Nat.le_of_eq whole.symm, further⟩⟩
    · intro ends
      exact if_neg (by omega)

theorem payloadHead_goes (agrees : ∀ index < count, buffer (index : Nat) = message.memory (index : Nat))
    (least : headerSize ≤ count) (inside : count ≤ message.length) :
    Goes message buffer count (payloadHead buffer count count) := by
  have limit : RSCT_MAX_MESSAGE_LEN = 66560 := rfl
  have short : message.length < RSCT_MAX_MESSAGE_LEN := message.short
  rw [payloadHead_count (by omega), headerLen_agrees agrees least]
  constructor
  · intro further
    exact ⟨true, if_pos further, agrees, nofun, fun _ => ⟨least, further⟩⟩
  · intro ends
    exact if_neg (by omega)

/-- A read that brings bytes of the message. -/
theorem recvBody_reads (place : At message payload buffer count) (first : UInt8) (more : List UInt8) :
    ∃ data next, recvBody ⟨payload, buffer, count, count⟩ (.received first more) = ([⟨count, data⟩], next) ∧
      0 < data.length ∧ count + data.length ≤ message.length ∧
      (data <+: message.bytes.drop count ++ later →
        Goes message (overwrite buffer count data) (count + data.length) next) := by
  have inside := place.inside
  have least : headerSize ≤ message.length := message.least
  cases payload with
  | false =>
      have header := place.header rfl
      have taken := @length_taken first more ((headerSize : Int) - count) (by omega)
      generalize same : (first :: more).take ((headerSize : Int) - count).toNat = data at taken
      refine ⟨data, headerHead (overwrite buffer count data) (count + data.length : Nat) (count + data.length : Nat),
        ?_, taken.1, by omega, ?_⟩
      · simp only [recvBody, Bool.false_eq_true, if_false, headerPass, same, Int.natCast_add]
      · exact fun begins => headerHead_goes (agrees_overwrite place.agrees (by omega) begins) (by omega)
  | true =>
      have behind := place.behind rfl
      have announced := headerLen_agrees place.agrees behind.1
      have taken := @length_taken first more ((message.length : Int) - count) (by omega)
      generalize same : (first :: more).take ((message.length : Int) - count).toNat = data at taken
      refine ⟨data, payloadHead (overwrite buffer count data) (count + data.length : Nat) (count + data.length : Nat),
        ?_, taken.1, by omega, ?_⟩
      · simp only [recvBody, if_true, payloadPass, announced, same, Int.natCast_add]
      · exact fun begins =>
          payloadHead_goes (agrees_overwrite place.agrees (by omega) begins) (by omega) (by omega)

/-- A call that takes the rest of a message returns the message; one that returns none has taken less. -/
structure Receives (message : Message) (rest : List UInt8) (outcome : Next Receiving Returned)
    (drawn : List UInt8) : Prop where
  whole : ∀ returned, outcome = .done returned → 0 < returned.value →
    drawn = rest ∧ bytesOf returned.msg returned.value.toNat = message.bytes
  part : (∀ returned, outcome = .done returned → returned.value ≤ 0) → drawn.length < rest.length

theorem receives_nothing {rest : List UInt8} {outcome : Next Receiving Returned} (some : rest ≠ [])
    (failed : ∀ returned, outcome = .done returned → returned.value ≤ 0) : Receives message rest outcome [] where
  whole returned ended positive := absurd positive (Int.not_lt.mpr (failed returned ended))
  part _ := List.length_pos_iff.mpr some

theorem receives_of_done (agrees : ∀ index < message.length, buffer (index : Nat) = message.memory (index : Nat)) :
    Receives message data (.done ⟨message.length, buffer⟩) data where
  whole returned ended _ := by
    cases ended
    exact ⟨rfl, bytesOf_agrees agrees⟩
  part failed := by
    have none := failed _ rfl
    have least : 5 ≤ message.length := message.least
    dsimp only at none
    omega

theorem Receives.behind {rest : List UInt8} {outcome : Next Receiving Returned}
    (later : Receives message rest outcome data) (front : List UInt8) :
    Receives message (front ++ rest) outcome (front ++ data) where
  whole returned ended positive := by
    obtain ⟨same, got⟩ := later.whole returned ended positive
    exact ⟨by rw [same], got⟩
  part failed := by
    have less := later.part failed
    simpa using less

/-- A read that brings nothing ends the call. -/
theorem recvBody_fails {returned : ReadReturn} (failed : returned = .eof ∨ returned = .failed false) :
    ∃ value, value ≤ 0 ∧
      recvBody ⟨payload, buffer, count, count⟩ returned = ([], .done ⟨value, buffer⟩) := by
  rcases failed with rfl | rfl
  · cases payload with
    | true => exact ⟨-1, by decide, rfl⟩
    | false =>
        refine ⟨if (count : Int) = 0 then 0 else -1, ?_, rfl⟩
        split <;> decide
  · cases payload <;> exact ⟨-1, by decide, rfl⟩

theorem run_fails {message : Message} {rest : List UInt8} (some : rest ≠ []) {returned : ReadReturn}
    (failed : returned = .eof ∨ returned = .failed false) (returns : List ReadReturn) :
    Receives message rest (run recvBody ⟨payload, buffer, count, count⟩ (returned :: returns)).outcome
      (received (run recvBody ⟨payload, buffer, count, count⟩ (returned :: returns)).turns) := by
  obtain ⟨value, negative, stepped⟩ := @recvBody_fails count payload buffer returned failed
  rw [run_done stepped]
  apply receives_nothing some
  intro _ ended
  cases ended
  exact negative

theorem run_receives (returns : List ReadReturn) (quiet : .failed true ∉ returns)
    (place : At message payload buffer count)
    (drawn : received (run recvBody ⟨payload, buffer, count, count⟩ returns).turns <+:
      message.bytes.drop count ++ later) :
    Receives message (message.bytes.drop count) (run recvBody ⟨payload, buffer, count, count⟩ returns).outcome
      (received (run recvBody ⟨payload, buffer, count, count⟩ returns).turns) := by
  have some : message.bytes.drop count ≠ [] := by
    have inside := place.inside
    rw [← length_bytes] at inside
    simpa using inside
  induction returns generalizing payload buffer count with
  | nil => exact receives_nothing some nofun
  | cons returned returns ih =>
      rw [List.mem_cons, not_or] at quiet
      cases returned with
      | failed interrupted =>
          cases interrupted with
          | true => exact absurd rfl quiet.1
          | false => exact run_fails some (.inr rfl) returns
      | eof => exact run_fails some (.inl rfl) returns
      | received first more =>
          obtain ⟨data, next, stepped, brought, inside, goes⟩ := @recvBody_reads message count later payload buffer
            place first more
          have all (turns : Turns) : received (⟨⟨payload, buffer, count, count⟩, .received first more,
              [⟨count, data⟩]⟩ :: turns) = data ++ received turns := by
            simp [received, outputs_cons]
          have begins : data <+: message.bytes.drop count ++ later := by
            cases next with
            | done _ =>
                rw [run_done stepped, all] at drawn
                exact (List.prefix_append _ _).trans drawn
            | again _ =>
                rw [run_again stepped, all] at drawn
                exact (List.prefix_append _ _).trans drawn
          obtain ⟨further, ends⟩ := goes begins
          -- the bytes read are the next ones of the message
          have front : data ++ message.bytes.drop (count + data.length) = message.bytes.drop count := by
            have short : data.length ≤ (message.bytes.drop count).length := by
              rw [List.length_drop, length_bytes]
              omega
            rw [← List.drop_drop, ← List.take_append_drop data.length (message.bytes.drop count)]
            rw [List.prefix_iff_eq_take, List.take_append_of_le_length short] at begins
            rw [← begins]
            simp
          by_cases whole : count + data.length = message.length
          · have none : message.bytes.drop (count + data.length) = [] := by
              rw [whole, List.drop_eq_nil_iff, length_bytes]
            rw [none, List.append_nil] at front
            have agrees := agrees_overwrite place.agrees inside begins
            rw [run_done (stepped.trans (congrArg _ (ends whole))), all, ← front]
            rw [whole] at agrees ⊢
            have last : received ([] : Turns) = [] := rfl
            rw [last, List.append_nil]
            exact receives_of_done agrees
          · obtain ⟨payload', goesOn, place'⟩ := further (by omega)
            rw [run_again (stepped.trans (congrArg _ goesOn)), all] at drawn ⊢
            rw [← front] at drawn ⊢
            rw [List.append_assoc] at drawn
            apply (ih quiet.2 place' ((List.prefix_append_right_inj _).mp drawn) _).behind data
            have left := place'.inside
            rw [← length_bytes] at left
            simpa using left

theorem made_receives (receipt : Receipt) (quiet : .failed true ∉ receipt.returns)
    (drawn : receipt.drawn <+: message.bytes ++ later) :
    Receives message message.bytes receipt.made.outcome receipt.drawn := by
  have some : 0 < headerSize := by decide
  exact @run_receives message 0 later false receipt.buffer receipt.returns quiet ⟨nofun, fun _ => some, nofun⟩ drawn

/-- A call that takes nothing returns no message. -/
theorem made_nothing (receipt : Receipt) (quiet : .failed true ∉ receipt.returns) (nothing : receipt.drawn = [])
    (returned : Returned) (ended : receipt.made.outcome = .done returned) : returned.value ≤ 0 := by
  obtain ⟨buffer, returns⟩ := receipt
  have made : (⟨buffer, returns⟩ : Receipt).made = run recvBody ⟨false, buffer, (0 : Nat), (0 : Nat)⟩ returns := rfl
  have taken : (⟨buffer, returns⟩ : Receipt).drawn =
      received (run recvBody ⟨false, buffer, (0 : Nat), (0 : Nat)⟩ returns).turns := rfl
  rw [made] at ended
  rw [taken] at nothing
  cases returns with
  | nil => contradiction
  | cons returned' returns =>
      cases returned' with
      | failed interrupted =>
          cases interrupted with
          | true => simp at quiet
          | false =>
              obtain ⟨value, negative, stepped⟩ := @recvBody_fails 0 false buffer (.failed false) (.inr rfl)
              rw [run_done stepped] at ended
              cases ended
              exact negative
      | eof =>
          obtain ⟨value, negative, stepped⟩ := @recvBody_fails 0 false buffer .eof (.inl rfl)
          rw [run_done stepped] at ended
          cases ended
          exact negative
      | received first more =>
          have some : (recvBody ⟨false, buffer, (0 : Nat), (0 : Nat)⟩ (.received first more)).1 =
              [⟨0, first :: more.take 4⟩] := rfl
          cases stepped : recvBody ⟨false, buffer, (0 : Nat), (0 : Nat)⟩ (.received first more) with
          | mk output next =>
              rw [stepped] at some
              dsimp only at some
              subst some
              cases next with
              | done _ =>
                  rw [run_done stepped] at nothing
                  simp [received] at nothing
              | again _ =>
                  rw [run_again stepped] at nothing
                  simp [received, outputs_cons] at nothing

/-- The messages whose bytes have all been taken are received, and nothing else: what is taken beyond them is
less than the next message. -/
def Framed (messages : List Message) (got : List (List UInt8)) (drawn : List UInt8) : Prop :=
  ∃ whole behind part, messages = whole ++ behind ∧ got = whole.map Message.bytes ∧
    drawn = got.flatten ++ part ∧ part.length < (behind.map Message.length).headD 1

/-- A call that returns no message has taken less than one. -/
theorem framed_part {messages : List Message} {receipt : Receipt} (quiet : .failed true ∉ receipt.returns)
    (drawn : receipt.drawn <+: (messages.map Message.bytes).flatten)
    (failed : ∀ returned, receipt.made.outcome = .done returned → returned.value ≤ 0) :
    Framed messages [] receipt.drawn := by
  refine ⟨[], messages, receipt.drawn, rfl, rfl, rfl, ?_⟩
  cases messages with
  | nil =>
      rw [List.map_nil, List.flatten_nil, List.prefix_nil] at drawn
      simp [drawn]
  | cons message rest =>
      rw [List.map_cons, List.flatten_cons] at drawn
      have part := (made_receives receipt quiet drawn).part failed
      rw [length_bytes] at part
      exact part

theorem receive_framed (messages : List Message) (receipts : List Receipt)
    (quiet : ∀ receipt ∈ receipts, .failed true ∉ receipt.returns)
    (drawn : (receive receipts).2 <+: (messages.map Message.bytes).flatten) :
    Framed messages (receive receipts).1 (receive receipts).2 := by
  induction receipts generalizing messages with
  | nil =>
      refine ⟨[], messages, [], rfl, rfl, rfl, ?_⟩
      cases messages with
      | nil => decide
      | cons message rest => exact Nat.lt_of_lt_of_le (by decide) message.least
  | cons receipt receipts ih =>
      rw [List.forall_mem_cons] at quiet
      cases outcome : receipt.made.outcome with
      | again _ =>
          simp only [receive, outcome] at drawn ⊢
          exact framed_part quiet.1 drawn fun _ ended => by simp [outcome] at ended
      | done returned =>
          by_cases positive : 0 < returned.value
          · simp only [receive, outcome, if_pos positive] at drawn ⊢
            cases messages with
            | nil =>
                rw [List.map_nil, List.flatten_nil, List.prefix_nil, List.append_eq_nil_iff] at drawn
                have none := made_nothing receipt quiet.1 drawn.1 returned outcome
                omega
            | cons message messages =>
                rw [List.map_cons, List.flatten_cons] at drawn
                have whole := (made_receives receipt quiet.1 ((List.prefix_append _ _).trans drawn)).whole
                  returned outcome positive
                rw [whole.1, List.prefix_append_right_inj] at drawn
                obtain ⟨front, behind, part, split, got, taken, less⟩ := ih messages quiet.2 drawn
                refine ⟨message :: front, behind, part, by rw [split]; rfl, ?_, ?_, less⟩
                · rw [whole.2, got, List.map_cons]
                · rw [whole.1, whole.2, taken, List.flatten_cons, List.append_assoc]
          · simp only [receive, outcome, if_neg positive] at drawn ⊢
            apply framed_part quiet.1 drawn
            intro _ ended
            rw [outcome] at ended
            cases ended
            exact Int.not_lt.mp positive

/-- What both ends of a socket agree on. -/
structure Transmitted (sends : List (Message × List SendReturn)) (receipts : List Receipt) : Prop where
  framed : Framed (sends.map Prod.fst) (receive receipts).1 (receive receipts).2
  whole : AllSent sends → (receive receipts).2 = wire sends →
    (receive receipts).1 = sends.map fun send => send.1.bytes

/-- However `send` and `read` cut the stream, and wherever one of them fails: the messages are received whole
and in the order in which they were sent, exactly those of which all bytes have been read. -/
theorem messages_transmitted (sends : List (Message × List SendReturn)) (receipts : List Receipt)
    (quiet : ∀ receipt ∈ receipts, .failed true ∉ receipt.returns)
    (drawn : (receive receipts).2 <+: wire sends) : Transmitted sends receipts := by
  have bytes : (sends.map Prod.fst).map Message.bytes = sends.map fun send => send.1.bytes := List.map_map ..
  have framed := receive_framed (sends.map Prod.fst) receipts quiet (by
    rw [bytes]
    exact drawn.trans (wire_begins sends))
  refine ⟨framed, ?_⟩
  intro all everything
  obtain ⟨front, behind, part, split, got, taken, less⟩ := framed
  rw [everything, wire_whole all, ← bytes, split, got, List.map_append, List.flatten_append,
    List.append_right_inj] at taken
  cases behind with
  | nil => rw [got, ← bytes, split, List.append_nil]
  | cons message rest =>
      rw [List.map_cons, List.flatten_cons] at taken
      rw [← taken, List.length_append, length_bytes] at less
      simp only [List.map_cons, List.headD_cons] at less
      omega

/-- A dialog with the number 7 is closed. -/
def closingMessage : Message where
  memory index := [0x01, 0x0A, 0x00, 0x00, 0x00, 0x07].getD index.toNat 0x00
  least := by decide
  short := by decide

def closingSends : List (Message × List SendReturn) :=
  [(closingMessage, [.accepted 4, .failed true, .accepted 100]), (closingMessage, [.accepted 10])]

/-- The second message has not arrived whole. -/
def closingReceipts : List Receipt :=
  [⟨fun _ => 0, [.received 0x01 [0x0A, 0x00], .received 0x00 [0x00], .received 0x07 [0x00, 0x00, 0x00, 0x00]]⟩,
    ⟨fun _ => 0, [.received 0x01 [0x0A, 0x00, 0x00, 0x00], .received 0x07 []]⟩]

theorem messages_transmitted_closing : Transmitted closingSends closingReceipts :=
  messages_transmitted closingSends closingReceipts (by decide) (by decide)

end Cyberjack.Libdialog
