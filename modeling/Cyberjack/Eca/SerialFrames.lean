import Cyberjack.Foundation.Checksum
import Cyberjack.Foundation.ExactRead
import Cyberjack.Foundation.Loop
import Mathlib.Data.List.GetD

namespace Cyberjack.Eca

open Cyberjack.Foundation

/-! # Frames on the serial line

`_readForced`, `_writeAck`, `_readLowlevel` and `Read` of `SerialUnix.cpp`.  A
message is followed by two check bytes; the line is the bytes that arrive.
-/

def RDR_TO_PC_KEYEVENT : UInt8 := 0x40
def RDR_TO_PC_NOTIFYSLOTCHANGE : UInt8 := 0x50
def RDR_TO_PC_HARWAREERROR : UInt8 := 0x51

def checkBytes (Message : List UInt8) : List UInt8 := [byteSum Message, xorSum Message]

/-- A message as it goes over the line. -/
def framed (Message : List UInt8) : List UInt8 := Message ++ checkBytes Message

@[simp] theorem length_framed (Message : List UInt8) : (framed Message).length = Message.length + 2 :=
  List.length_append

/-- Bytes at the start of a memory. -/
def placed (around : Int → UInt8) (data : List UInt8) (index : Int) : UInt8 :=
  if 0 ≤ index ∧ index < data.length then data.getD index.toNat 0 else around index

/-! ## Reading -/

def isInterrupt (first : UInt8) : Prop :=
  first = RDR_TO_PC_NOTIFYSLOTCHANGE ∨ first = RDR_TO_PC_HARWAREERROR ∨ first = RDR_TO_PC_KEYEVENT

instance (first : UInt8) : Decidable (isInterrupt first) := inferInstanceAs (Decidable (_ ∨ _))

def isAck (first : UInt8) : Prop := first = 0x00 ∨ first = 0xff

instance (first : UInt8) : Decidable (isAck first) := inferInstanceAs (Decidable (_ ∨ _))

/-- What a pass takes off the line and puts on it. -/
inductive SerialEvent where
  | taken (bytes : List UInt8)
  | written (byte : UInt8)
deriving Repr, DecidableEq

/-- What a call of write of one byte does. -/
inductive WriteAnswer where
  | written
  | interrupted
  | failed
deriving Repr, DecidableEq

/-- What the calls of read and write in a pass do. -/
structure PassAnswers where
  reads : List ReadAnswer
  writes : List WriteAnswer

/-- What the log says where `CJ_ERR_DEVICE_LOST` is returned. -/
inductive Lost where
  | notOpen
  | read
  | write
  | bufferTooSmall
deriving Repr, DecidableEq

/-- A call of read may wait for a line on which nothing more arrives; `unfinished` is a pass that goes
on behind the calls made so far. -/
inductive SerialResult where
  | success (Response : List UInt8)
  | deviceLost (cause : Lost)
  | waiting
  | unfinished
deriving Repr, DecidableEq

abbrev ReadPass := List SerialEvent × Next (List UInt8) SerialResult

/-- `_readForced`, and what a pass does with its bytes. -/
def readForced (reads : List ReadAnswer) (count : Nat) (line : List UInt8)
    (next : List UInt8 → List UInt8 → List ReadAnswer → ReadPass) : ReadPass :=
  match readExact reads count line with
  | .full bytes left later => next bytes left later
  | .failed => ([], .done (.deviceLost .read))
  | .waiting => ([], .done .waiting)
  | .unfinished => ([], .done .unfinished)

/-- `_writeAck` repeats a call that is interrupted. -/
def writeAck : List WriteAnswer → Option Bool
  | [] => none
  | .written :: _ => some true
  | .interrupted :: rest => writeAck rest
  | .failed :: _ => some false

/-- `toRead`, of the bytes in `buffer`. -/
def toRead (buffer : List UInt8) : Nat :=
  if isInterrupt (buffer.getD 0 0) then 1
  else if isAck (buffer.getD 0 0) then 0
  else (buffer.getD 2 0).toNat <<< 8 + (buffer.getD 1 0).toNat

/-- The end of `_readLowlevel`, behind the check bytes. -/
def answerFrame (Response check line : List UInt8) (writes : List WriteAnswer) : ReadPass :=
  let taken := SerialEvent.taken (Response ++ check)
  if isInterrupt (Response.getD 0 0) then ([taken], .done (.success Response))
  else
    match writeAck writes with
    | none => ([taken], .done .unfinished)
    | some false => ([taken], .done (.deviceLost .write))
    | some true =>
        if check = checkBytes Response then ([taken, .written 0xff], .done (.success Response))
        else ([taken, .written 0x00], .again line)

/-- `_readLowlevel`; `CJ_ERR_DATA_CORRUPT` makes `Read` call it again. -/
def readLowlevel (m_devHandle : Int) (ResponseLen : Nat) :
    Body (List UInt8) PassAnswers SerialEvent SerialResult := fun line answers =>
  if m_devHandle < 0 then ([], .done (.deviceLost .notOpen))
  else
    readForced answers.reads 1 line fun first line reads =>
      let more := if isInterrupt (first.getD 0 0) ∨ isAck (first.getD 0 0) then 0 else 9
      readForced reads more line fun header line reads =>
        let buffer := first ++ header
        if buffer.length + toRead buffer > ResponseLen then ([], .done (.deviceLost .bufferTooSmall))
        else
          readForced reads (toRead buffer) line fun data line reads =>
            readForced reads 2 line fun check line _ =>
              answerFrame (buffer ++ data) check line answers.writes

/-- `Read`: the `do` loop; every pass has its own answers. -/
def serialRead (m_devHandle : Int) (ResponseLen : Nat) (line : List UInt8) (answers : List PassAnswers) :
    Run (List UInt8) PassAnswers SerialEvent SerialResult :=
  run (readLowlevel m_devHandle ResponseLen) line answers

/-! ## What should be delivered -/

/-- A message the peer has framed, and what has become of its frame on the line. -/
structure Arrival where
  Message : List UInt8
  piece : List UInt8
  length : piece.length = (framed Message).length

def pieces (arrivals : List Arrival) : List (List UInt8) := arrivals.map Arrival.piece

/-- The last two bytes of a piece are the check bytes of the others. -/
def ChecksMatch (piece : List UInt8) : Prop := piece = framed (piece.take (piece.length - 2))

instance (piece : List UInt8) : Decidable (ChecksMatch piece) := inferInstanceAs (Decidable (_ = _))

/-- A response, or an acknowledgement, with a wrong check byte. -/
def IsRejected (piece : List UInt8) : Prop := ¬ isInterrupt (piece.getD 0 0) ∧ ¬ ChecksMatch piece

instance (piece : List UInt8) : Decidable (IsRejected piece) := inferInstanceAs (Decidable (_ ∧ _))

def rejection (arrival : Arrival) : List SerialEvent := [.taken arrival.piece, .written 0x00]

/-- A call may fail, or the calls be over, in front of a frame or behind its check bytes. -/
def CutShort (rest : List Arrival) (tail : List SerialEvent) : Prop :=
  tail = [] ∨ ∃ arrival later, rest = arrival :: later ∧ tail = [.taken arrival.piece]

/-- Exactly the bytes of a frame whose check bytes match are delivered. -/
def Delivers (rest : List Arrival) (tail : List SerialEvent) (Response : List UInt8) : Prop :=
  ∃ arrival later, rest = arrival :: later ∧ arrival.piece = framed Response ∧
    tail = .taken arrival.piece :: if isInterrupt (Response.getD 0 0) then [] else [.written 0xff]

/-- What becomes of the frames behind those that are rejected.  `Read` waits only for a frame, and
gives a frame up as too long only where it need not be rejected. -/
def EndsWith (rest : List Arrival) (tail : List SerialEvent) : Next (List UInt8) SerialResult → Prop
  | .done (.success Response) => Delivers rest tail Response
  | .done (.deviceLost .bufferTooSmall) =>
      tail = [] ∧ ∃ arrival later, rest = arrival :: later ∧ ¬ IsRejected arrival.piece
  | .done (.deviceLost _) => CutShort rest tail
  | .done .waiting => tail = [] ∧ rest = []
  | .done .unfinished => CutShort rest tail
  | .again _ => tail = []

/-- The frames in front are rejected, each answered with NAK, and the next one is read instead. -/
def FramesKept (arrivals : List Arrival) (trace : List SerialEvent) (outcome : Next (List UInt8) SerialResult) : Prop :=
  ∃ front rest tail, arrivals = front ++ rest ∧ (∀ earlier ∈ front, IsRejected earlier.piece) ∧
    trace = front.flatMap rejection ++ tail ∧ EndsWith rest tail outcome

/-- The message length that a frame's first three bytes stand for. -/
def usedLength (frame : List UInt8) : Nat :=
  if isInterrupt (frame.getD 0 0) then 2
  else if isAck (frame.getD 0 0) then 1
  else 10 + ((frame.getD 2 0).toNat * 256 + (frame.getD 1 0).toNat)

/-- What is read before the length is looked at. -/
def headSize (frame : List UInt8) : Nat :=
  if isInterrupt (frame.getD 0 0) ∨ isAck (frame.getD 0 0) then 1 else 10

/-- A frame that is not to be rejected says that it does not fit, and its head arrives. -/
def TooLong (ResponseLen : Nat) (piece : List UInt8) (rest : List (List UInt8)) : Prop :=
  ResponseLen < usedLength piece ∧ headSize piece ≤ (piece ++ rest.flatten).length ∧ ¬ IsRejected piece

/-- Each frame up to the first that is not rejected is as long as its first three bytes say and fits;
that one has matching check bytes, or it is too long. -/
def LineSound (ResponseLen : Nat) : List (List UInt8) → Prop
  | [] => True
  | piece :: rest =>
      TooLong ResponseLen piece rest ∨
        (usedLength piece ≤ ResponseLen ∧ piece.length = usedLength piece + 2 ∧
          (ChecksMatch piece ∨ (¬ isInterrupt (piece.getD 0 0) ∧ LineSound ResponseLen rest)))

/-! ## A pass -/

variable {m_devHandle : Int} {ResponseLen : Nat} {line left Response check piece rest : List UInt8}
  {arrival : Arrival} {arrivals others : List Arrival} {trace : List SerialEvent}
  {outcome : Next (List UInt8) SerialResult}

/-- A pass has taken a frame off the line. -/
structure TakesFrame (line Response check left : List UInt8) : Prop where
  split : line = Response ++ check ++ left
  checkLength : check.length = 2
  length : Response.length = usedLength line

theorem usedLength_pos (line : List UInt8) : 1 ≤ usedLength line := by
  rw [usedLength]
  split
  · omega
  · split <;> omega

theorem TakesFrame.nonempty (takes : TakesFrame line Response check left) : 1 ≤ Response.length := by
  rw [takes.length]
  exact usedLength_pos line

theorem usedLength_append (long : 3 ≤ piece.length) (rest : List UInt8) :
    usedLength (piece ++ rest) = usedLength piece := by
  rw [usedLength, usedLength, List.getD_append _ _ _ _ (by omega), List.getD_append _ _ _ _ (by omega),
    List.getD_append _ _ _ _ (by omega)]

theorem headSize_append (nonempty : 1 ≤ piece.length) (rest : List UInt8) :
    headSize (piece ++ rest) = headSize piece := by
  rw [headSize, headSize, List.getD_append _ _ _ _ (by omega)]

theorem toRead_response {buffer : List UInt8} (response : ¬ isInterrupt (buffer.getD 0 0))
    (other : ¬ isAck (buffer.getD 0 0)) :
    toRead buffer = (buffer.getD 2 0).toNat * 256 + (buffer.getD 1 0).toNat := by
  rw [toRead, if_neg response, if_neg other, Nat.shiftLeft_eq]

/-- Nothing on the line decides such an end. -/
def FromCalls : SerialResult → Prop
  | .success _ => False
  | .deviceLost cause => cause ≠ .bufferTooSmall
  | .waiting => False
  | .unfinished => True

/-- What a pass does: it delivers a frame, it rejects one, or it does not get that far. -/
inductive ReadPassDoes (ResponseLen : Nat) (line : List UInt8) : ReadPass → Prop where
  | interrupt {Response check left : List UInt8} (takes : TakesFrame line Response check left)
      (fits : Response.length ≤ ResponseLen) (first : isInterrupt (Response.getD 0 0)) :
      ReadPassDoes ResponseLen line ([.taken (Response ++ check)], .done (.success Response))
  | response {Response left : List UInt8} (takes : TakesFrame line Response (checkBytes Response) left)
      (fits : Response.length ≤ ResponseLen) (first : ¬ isInterrupt (Response.getD 0 0)) :
      ReadPassDoes ResponseLen line ([.taken (framed Response), .written 0xff], .done (.success Response))
  | rejected {Response check left : List UInt8} (takes : TakesFrame line Response check left)
      (fits : Response.length ≤ ResponseLen) (first : ¬ isInterrupt (Response.getD 0 0))
      (wrong : check ≠ checkBytes Response) :
      ReadPassDoes ResponseLen line ([.taken (Response ++ check), .written 0x00], .again left)
  | unanswered {Response check left : List UInt8} {result : SerialResult}
      (takes : TakesFrame line Response check left) (fits : Response.length ≤ ResponseLen)
      (fromCalls : FromCalls result) : ReadPassDoes ResponseLen line ([.taken (Response ++ check)], .done result)
  | tooLong (long : ResponseLen < usedLength line) (headed : headSize line ≤ line.length) :
      ReadPassDoes ResponseLen line ([], .done (.deviceLost .bufferTooSmall))
  | waiting (short : line.length < headSize line ∨ (usedLength line ≤ ResponseLen ∧ line.length < usedLength line + 2)) :
      ReadPassDoes ResponseLen line ([], .done .waiting)
  | cut {result : SerialResult} (fromCalls : FromCalls result) : ReadPassDoes ResponseLen line ([], .done result)

/-- What holds of a pass behind a call of `_readForced`. -/
theorem readForced_does {reads : List ReadAnswer} {count : Nat} {left : List UInt8}
    {next : List UInt8 → List UInt8 → List ReadAnswer → ReadPass}
    (waits : left.length < count → line.length < headSize line ∨
      (usedLength line ≤ ResponseLen ∧ line.length < usedLength line + 2))
    (goesOn : ∀ bytes behind later, left = bytes ++ behind → bytes.length = count →
      ReadPassDoes ResponseLen line (next bytes behind later)) :
    ReadPassDoes ResponseLen line (readForced reads count left next) := by
  cases reading : readExact reads count left with
  | full bytes behind later =>
      obtain ⟨split, length⟩ := readExact_full reading
      rw [readForced, reading]
      exact goesOn bytes behind later split length
  | failed =>
      rw [readForced, reading]
      exact .cut fun same : Lost.read = .bufferTooSmall => by contradiction
  | waiting =>
      rw [readForced, reading]
      exact .waiting (waits (readExact_waiting reading))
  | unfinished =>
      rw [readForced, reading]
      exact .cut (show FromCalls .unfinished from trivial)

theorem answerFrame_does (takes : TakesFrame line Response check left) (fits : Response.length ≤ ResponseLen)
    (writes : List WriteAnswer) : ReadPassDoes ResponseLen line (answerFrame Response check left writes) := by
  simp only [answerFrame]
  by_cases first : isInterrupt (Response.getD 0 0)
  · rw [if_pos first]
    exact .interrupt takes fits first
  · rw [if_neg first]
    split
    · exact .unanswered takes fits trivial
    · exact .unanswered takes fits nofun
    · by_cases right : check = checkBytes Response
      · rw [if_pos right, right]
        rw [right] at takes
        exact .response takes fits first
      · rw [if_neg right]
        exact .rejected takes fits first right

/-- What the bytes in `buffer` say of the line. -/
theorem buffer_length {first header behind : List UInt8} (split : line = first ++ header ++ behind)
    (one : first.length = 1)
    (more : header.length = if isInterrupt (first.getD 0 0) ∨ isAck (first.getD 0 0) then 0 else 9) :
    (first ++ header).length = headSize line ∧ (first ++ header).length + toRead (first ++ header) = usedLength line := by
  have head : line.getD 0 0 = first.getD 0 0 := by
    rw [split, List.append_assoc, List.getD_append _ _ _ _ (by omega)]
  have headBuffer : (first ++ header).getD 0 0 = first.getD 0 0 := List.getD_append _ _ _ _ (by omega)
  rw [List.length_append, more, one, headSize, usedLength, head]
  by_cases interrupt : isInterrupt (first.getD 0 0)
  · rw [if_pos (.inl interrupt), if_pos (.inl interrupt), if_pos interrupt, toRead, headBuffer, if_pos interrupt]
    exact ⟨rfl, rfl⟩
  by_cases ack : isAck (first.getD 0 0)
  · rw [if_pos (.inr ack), if_pos (.inr ack), if_neg interrupt, if_pos ack, toRead, headBuffer, if_neg interrupt,
      if_pos ack]
    exact ⟨rfl, rfl⟩
  · have neither := not_or.mpr ⟨interrupt, ack⟩
    rw [if_neg neither] at more
    have buffered (index : Nat) (inside : index < 10) : line.getD index 0 = (first ++ header).getD index 0 := by
      rw [split, List.getD_append _ _ _ _ (by rw [List.length_append]; omega)]
    rw [if_neg neither, if_neg neither, if_neg interrupt, if_neg ack,
      toRead_response (by rw [headBuffer]; exact interrupt) (by rw [headBuffer]; exact ack),
      buffered 1 (by omega), buffered 2 (by omega)]
    exact ⟨rfl, rfl⟩

theorem pass_does (m_devHandle : Int) (ResponseLen : Nat) (line : List UInt8) (answers : PassAnswers) :
    ReadPassDoes ResponseLen line (readLowlevel m_devHandle ResponseLen line answers) := by
  have headSize_pos : 1 ≤ headSize line := by
    rw [headSize]
    split <;> omega
  rw [readLowlevel]
  split
  · exact .cut nofun
  refine readForced_does (fun empty => .inl (by omega)) fun first behindFirst reads splitFirst one => ?_
  have headed : line.getD 0 0 = first.getD 0 0 := by
    rw [splitFirst, List.getD_append _ _ _ _ (by omega)]
  refine readForced_does (fun short => .inl ?_) fun header behindHeader reads splitHeader more => ?_
  · rw [splitFirst, List.length_append, one, ← splitFirst, headSize, headed]
    split at short
    · omega
    · rw [if_neg ‹_›]
      omega
  dsimp only
  have split : line = first ++ header ++ behindHeader := by
    rw [splitFirst, splitHeader, List.append_assoc]
  have lineLength : line.length = (first ++ header).length + behindHeader.length := by
    rw [split, List.length_append]
  obtain ⟨size, used⟩ := buffer_length split one more
  by_cases long : (first ++ header).length + toRead (first ++ header) > ResponseLen
  · rw [if_pos long]
    exact .tooLong (by omega) (by omega)
  rw [if_neg long]
  refine readForced_does (fun short => .inr ⟨by omega, by omega⟩) fun data behindData reads splitData dataLength => ?_
  have dataSplit : behindHeader.length = data.length + behindData.length := by
    rw [splitData, List.length_append]
  refine readForced_does (fun short => .inr ⟨by omega, by omega⟩) fun check left reads splitCheck checkLength => ?_
  have whole : (first ++ header ++ data).length = (first ++ header).length + data.length := List.length_append
  apply answerFrame_does
  · refine ⟨?_, checkLength, by omega⟩
    rw [split, splitData, splitCheck]
    simp only [List.append_assoc]
  · omega

/-! ## Frames and pieces -/

theorem not_taken_nil (takes : TakesFrame [] Response check left) : False := by
  have length := congrArg List.length takes.split
  rw [List.length_append, List.length_append, takes.checkLength, List.length_nil] at length
  omega

/-- Where the first piece is as long as it says, the pass takes it and nothing else. -/
theorem TakesFrame.piece_eq (takes : TakesFrame (piece ++ rest) Response check left)
    (length : piece.length = usedLength piece + 2) : Response ++ check = piece ∧ left = rest := by
  have positive := usedLength_pos piece
  have used := takes.length
  rw [usedLength_append (by omega)] at used
  refine List.append_inj takes.split.symm ?_
  rw [List.length_append, takes.checkLength]
  omega

theorem TakesFrame.length_eq (takes : TakesFrame (piece ++ rest) Response check left)
    (same : Response ++ check = piece) :
    piece.length = usedLength piece + 2 ∧ Response.length = usedLength piece ∧ left = rest := by
  have positive := takes.nonempty
  have whole : piece.length = Response.length + 2 := by
    rw [← same, List.length_append, takes.checkLength]
  have used := takes.length
  rw [usedLength_append (by omega)] at used
  have split := takes.split
  rw [same] at split
  exact ⟨by omega, used, (List.append_cancel_left split).symm⟩

theorem checksMatch_iff (checkLength : check.length = 2) :
    ChecksMatch (Response ++ check) ↔ check = checkBytes Response := by
  rw [ChecksMatch, framed, List.length_append, checkLength, Nat.add_sub_cancel, List.take_left]
  exact List.append_right_inj _

theorem first_append (nonempty : 1 ≤ Response.length) (check : List UInt8) :
    (Response ++ check).getD 0 0 = Response.getD 0 0 := List.getD_append _ _ _ _ (by omega)

theorem TakesFrame.isRejected (takes : TakesFrame line Response check left)
    (response : ¬ isInterrupt (Response.getD 0 0)) (wrong : check ≠ checkBytes Response) :
    IsRejected (Response ++ check) := by
  constructor
  · rw [first_append takes.nonempty]
    exact response
  · rw [checksMatch_iff takes.checkLength]
    exact wrong

theorem Arrival.two_le (arrival : Arrival) : 2 ≤ arrival.piece.length := by
  rw [arrival.length, length_framed]
  omega

/-- A piece of two bytes that is not rejected is an interrupt or the frame of no bytes. -/
theorem usedLength_kept (arrival : Arrival) (kept : ¬ IsRejected arrival.piece) (rest : List UInt8) :
    usedLength (arrival.piece ++ rest) = usedLength arrival.piece := by
  have two := arrival.two_le
  by_cases long : 3 ≤ arrival.piece.length
  · exact usedLength_append long rest
  have head : (arrival.piece ++ rest).getD 0 0 = arrival.piece.getD 0 0 := List.getD_append _ _ _ _ (by omega)
  rw [usedLength, usedLength, head]
  by_cases interrupt : isInterrupt (arrival.piece.getD 0 0)
  · rw [if_pos interrupt, if_pos interrupt]
  have matching := not_not.mp fun wrong => kept ⟨interrupt, wrong⟩
  have zeros : arrival.piece = [0, 0] := by
    have empty : arrival.piece.length - 2 = 0 := by omega
    rw [ChecksMatch, empty, List.take_zero] at matching
    exact matching
  have ack : isAck (arrival.piece.getD 0 0) := by
    rw [zeros]
    exact .inl rfl
  rw [if_neg interrupt, if_neg interrupt, if_pos ack, if_pos ack]

theorem flatten_pieces (arrival : Arrival) (others : List Arrival) :
    (pieces (arrival :: others)).flatten = arrival.piece ++ (pieces others).flatten := rfl

/-! ## Reading on a sound line -/

theorem LineSound.taken (sound : LineSound ResponseLen (pieces (arrival :: others)))
    (takes : TakesFrame (pieces (arrival :: others)).flatten Response check left)
    (fits : Response.length ≤ ResponseLen) :
    Response ++ check = arrival.piece ∧ left = (pieces others).flatten ∧
      (ChecksMatch arrival.piece ∨ (¬ isInterrupt (arrival.piece.getD 0 0) ∧ LineSound ResponseLen (pieces others))) := by
  rw [flatten_pieces] at takes
  rcases sound with ⟨long, _, kept⟩ | ⟨_, length, ends⟩
  · have used := takes.length
    rw [usedLength_kept arrival kept] at used
    omega
  · obtain ⟨same, behind⟩ := takes.piece_eq length
    exact ⟨same, behind, ends⟩

theorem LineSound.kept_of_long (sound : LineSound ResponseLen (pieces (arrival :: others)))
    (long : ResponseLen < usedLength (pieces (arrival :: others)).flatten) : ¬ IsRejected arrival.piece := by
  rcases sound with ⟨_, _, kept⟩ | ⟨fits, length, _⟩
  · exact kept
  · have positive := usedLength_pos arrival.piece
    rw [flatten_pieces, usedLength_append (by omega)] at long
    omega

theorem LineSound.not_short (sound : LineSound ResponseLen (pieces (arrival :: others)))
    (short : (pieces (arrival :: others)).flatten.length < headSize (pieces (arrival :: others)).flatten ∨
      (usedLength (pieces (arrival :: others)).flatten ≤ ResponseLen ∧
        (pieces (arrival :: others)).flatten.length < usedLength (pieces (arrival :: others)).flatten + 2)) : False := by
  have two := arrival.two_le
  have size : headSize arrival.piece ≤ usedLength arrival.piece := by
    apply Nat.le_of_lt_succ
    rw [headSize, usedLength]
    by_cases interrupt : isInterrupt (arrival.piece.getD 0 0)
    · rw [if_pos (.inl interrupt), if_pos interrupt]
      omega
    by_cases ack : isAck (arrival.piece.getD 0 0)
    · rw [if_pos (.inr ack), if_neg interrupt, if_pos ack]
      omega
    · rw [if_neg (not_or.mpr ⟨interrupt, ack⟩), if_neg interrupt, if_neg ack]
      omega
  rw [flatten_pieces, headSize_append (by omega)] at short
  rcases sound with ⟨long, headed, kept⟩ | ⟨fits, length, _⟩
  · rw [usedLength_kept arrival kept] at short
    rcases short with noHead | ⟨fits, _⟩
    · exact absurd headed (by show ¬ headSize arrival.piece ≤ (arrival.piece ++ (pieces others).flatten).length; omega)
    · omega
  · have positive := usedLength_pos arrival.piece
    rw [usedLength_append (by omega), List.length_append] at short
    omega

theorem FromCalls.ends {result : SerialResult} {rest : List Arrival} {tail : List SerialEvent}
    (fromCalls : FromCalls result) (cut : CutShort rest tail) : EndsWith rest tail (.done result) := by
  cases result with
  | success Response => exact absurd fromCalls id
  | deviceLost cause =>
      cases cause with
      | bufferTooSmall => exact absurd rfl fromCalls
      | notOpen => exact cut
      | read => exact cut
      | write => exact cut
  | waiting => exact absurd fromCalls id
  | unfinished => exact cut

/-- The pass in which `Read` returns. -/
theorem ends_of_sound {output : List SerialEvent} {result : SerialResult}
    (does : ReadPassDoes ResponseLen (pieces arrivals).flatten (output, .done result))
    (sound : LineSound ResponseLen (pieces arrivals)) : EndsWith arrivals output (.done result) := by
  cases arrivals with
  | nil =>
      cases does with
      | interrupt takes => exact (not_taken_nil takes).elim
      | response takes => exact (not_taken_nil takes).elim
      | unanswered takes => exact (not_taken_nil takes).elim
      | tooLong long headed => exact absurd headed (by decide)
      | waiting short => exact ⟨rfl, rfl⟩
      | cut fromCalls => exact fromCalls.ends (.inl rfl)
  | cons arrival others =>
      cases does with
      | interrupt takes fits interrupt =>
          obtain ⟨same, _, ends⟩ := sound.taken takes fits
          have starts : isInterrupt (arrival.piece.getD 0 0) := by
            rw [← same, first_append takes.nonempty]
            exact interrupt
          have right := ends.resolve_right fun other => other.1 starts
          rw [← same, checksMatch_iff takes.checkLength] at right
          refine ⟨arrival, others, rfl, ?_, ?_⟩
          · rw [← same, right]
            rfl
          · rw [if_pos interrupt, same]
      | response takes fits response =>
          obtain ⟨same, _⟩ := sound.taken takes fits
          refine ⟨arrival, others, rfl, same.symm, ?_⟩
          rw [if_neg response, ← same]
          rfl
      | unanswered takes fits fromCalls =>
          obtain ⟨same, _⟩ := sound.taken takes fits
          exact fromCalls.ends (.inr ⟨arrival, others, rfl, by rw [same]⟩)
      | tooLong long headed => exact ⟨rfl, arrival, others, rfl, sound.kept_of_long long⟩
      | waiting short => exact (sound.not_short short).elim
      | cut fromCalls => exact fromCalls.ends (.inl rfl)

/-- The pass behind which `Read` goes on. -/
theorem rejects_of_sound {output : List SerialEvent}
    (does : ReadPassDoes ResponseLen (pieces arrivals).flatten (output, .again left))
    (sound : LineSound ResponseLen (pieces arrivals)) :
    ∃ arrival others, arrivals = arrival :: others ∧ IsRejected arrival.piece ∧ output = rejection arrival ∧
      left = (pieces others).flatten ∧ LineSound ResponseLen (pieces others) := by
  cases does with
  | rejected takes fits response wrong =>
      cases arrivals with
      | nil => exact (not_taken_nil takes).elim
      | cons arrival others =>
          obtain ⟨same, behind, ends⟩ := sound.taken takes fits
          have bad := takes.isRejected response wrong
          rw [same] at bad
          exact ⟨arrival, others, rfl, bad, by rw [rejection, same], behind, (ends.resolve_left bad.2).2⟩

theorem FramesKept.cons (kept : FramesKept others trace outcome) (bad : IsRejected arrival.piece) :
    FramesKept (arrival :: others) (rejection arrival ++ trace) outcome := by
  obtain ⟨front, rest, tail, split, rejected, events, ends⟩ := kept
  refine ⟨arrival :: front, rest, tail, by rw [split]; rfl, ?_, ?_, ends⟩
  · intro earlier member
    rcases List.mem_cons.mp member with here | before
    · rw [here]
      exact bad
    · exact rejected earlier before
  · rw [events, List.flatMap_cons, List.append_assoc]

theorem kept_of_sound (sound : LineSound ResponseLen (pieces arrivals)) (answers : List PassAnswers) :
    FramesKept arrivals (outputs (serialRead m_devHandle ResponseLen (pieces arrivals).flatten answers).turns)
      (serialRead m_devHandle ResponseLen (pieces arrivals).flatten answers).outcome := by
  induction answers generalizing arrivals with
  | nil => exact ⟨[], arrivals, [], rfl, nofun, rfl, rfl⟩
  | cons first later ih =>
      have does := pass_does m_devHandle ResponseLen (pieces arrivals).flatten first
      cases stepped : readLowlevel m_devHandle ResponseLen (pieces arrivals).flatten first with
      | mk output next =>
          rw [stepped] at does
          cases next with
          | done result =>
              rw [serialRead, run_done stepped, outputs_singleton]
              exact ⟨[], arrivals, output, rfl, nofun, rfl, ends_of_sound does sound⟩
          | again left =>
              obtain ⟨arrival, others, split, bad, events, behind, soundBehind⟩ := rejects_of_sound does sound
              rw [serialRead, run_again stepped, outputs_cons, events, behind]
              have kept := (ih soundBehind).cons bad
              rw [← split] at kept
              exact kept

/-! ## Where the line is not sound -/

theorem EndsWith.no_nak {rest : List Arrival} {tail : List SerialEvent} (ends : EndsWith rest tail outcome) :
    .written 0x00 ∉ tail := by
  have cutShort (cut : CutShort rest tail) : .written 0x00 ∉ tail := by
    rcases cut with none | ⟨arrival, later, _, one⟩
    · rw [none]
      exact List.not_mem_nil
    · rw [one]
      simp
  cases outcome with
  | again state =>
      rw [show tail = [] from ends]
      exact List.not_mem_nil
  | done result =>
      cases result with
      | success Response =>
          obtain ⟨arrival, later, _, _, events⟩ := ends
          rw [events]
          split <;> simp
      | deviceLost cause =>
          cases cause with
          | bufferTooSmall =>
              rw [ends.1]
              exact List.not_mem_nil
          | notOpen => exact cutShort ends
          | read => exact cutShort ends
          | write => exact cutShort ends
      | waiting =>
          rw [ends.1]
          exact List.not_mem_nil
      | unfinished => exact cutShort ends

theorem FramesKept.ends (kept : FramesKept arrivals trace outcome) (noNak : .written 0x00 ∉ trace) :
    EndsWith arrivals trace outcome := by
  obtain ⟨front, rest, tail, split, _, events, ends⟩ := kept
  cases front with
  | nil =>
      rw [split, events]
      exact ends
  | cons first more =>
      rw [events] at noNak
      simp [rejection] at noNak

theorem FramesKept.behind {taken : List UInt8}
    (kept : FramesKept (arrival :: others) (.taken taken :: .written 0x00 :: trace) outcome) :
    taken = arrival.piece ∧ FramesKept others trace outcome := by
  obtain ⟨front, rest, tail, split, rejected, events, ends⟩ := kept
  cases front with
  | nil =>
      have noNak := ends.no_nak
      rw [← show _ = tail from events] at noNak
      simp at noNak
  | cons first more =>
      rw [List.cons_append, List.cons.injEq] at split
      simp only [List.flatMap_cons, rejection, List.cons_append, List.nil_append, List.cons.injEq,
        SerialEvent.taken.injEq, true_and] at events
      rw [← split.1] at events
      exact ⟨events.1, more, rest, tail, split.2,
        fun earlier member => rejected earlier (List.mem_cons_of_mem _ member), events.2, ends⟩

/-- Calls that return whatever is there, and enough of them. -/
def plainAnswers : PassAnswers := ⟨List.replicate 5 (.granted 65535), [.written]⟩

/-- The line decides how a pass ends. -/
def Concludes (pass : ReadPass) : Prop := ∀ result, pass.2 = .done result → ¬ FromCalls result

theorem readForced_concludes {count calls : Nat} {next : List UInt8 → List UInt8 → List ReadAnswer → ReadPass}
    (enough : count ≤ 65536) (two : 2 ≤ calls)
    (goesOn : ∀ bytes left later, bytes.length = count → calls ≤ later + 1 →
      Concludes (next bytes left (List.replicate later (.granted 65535)))) :
    Concludes (readForced (List.replicate calls (.granted 65535)) count line next) := by
  rcases readExact_replicate enough two line with waits | ⟨bytes, left, later, full, fewer⟩
  · rw [readForced, waits]
    intro result ended
    cases ended
    exact id
  · rw [readForced, full]
    exact goesOn bytes left later (readExact_full full).2 fewer

theorem answerFrame_concludes (Response check line : List UInt8) :
    Concludes (answerFrame Response check line [.written]) := by
  intro result ended
  rw [answerFrame, writeAck] at ended
  split at ended
  · cases ended
    exact id
  · dsimp only at ended
    split at ended
    · cases ended
      exact id
    · cases ended

theorem toRead_le (buffer : List UInt8) : toRead buffer ≤ 65536 := by
  have low := (buffer.getD 1 0).toNat_lt
  have high := (buffer.getD 2 0).toNat_lt
  rw [toRead, Nat.shiftLeft_eq]
  split
  · omega
  · split <;> omega

theorem plain_concludes (ResponseLen : Nat) (line : List UInt8) :
    Concludes (readLowlevel 0 ResponseLen line plainAnswers) := by
  rw [readLowlevel, if_neg (by decide)]
  refine readForced_concludes (by omega) (by omega) fun first left reads one _ => ?_
  refine readForced_concludes (by split <;> omega) (by omega) fun header left reads more _ => ?_
  dsimp only
  split
  · intro result ended
    cases ended
    exact fun other => other rfl
  · refine readForced_concludes (toRead_le _) (by omega) fun data left reads length _ => ?_
    exact readForced_concludes (by omega) (by omega) fun check left reads two _ => answerFrame_concludes _ _ _

/-- A pass in which `Read` returns. -/
theorem sound_of_ends {output : List SerialEvent} {result : SerialResult}
    (does : ReadPassDoes ResponseLen (pieces (arrival :: others)).flatten (output, .done result))
    (concludes : ¬ FromCalls result) (kept : FramesKept (arrival :: others) output (.done result)) :
    LineSound ResponseLen (pieces (arrival :: others)) := by
  cases does with
  | @interrupt Response check left takes fits interrupt =>
      obtain ⟨found, later, split, delivered, events⟩ := kept.ends (by simp)
      cases split
      rw [List.cons.injEq, SerialEvent.taken.injEq] at events
      rw [flatten_pieces] at takes
      obtain ⟨length, used, _⟩ := takes.length_eq events.1
      refine .inr ⟨by omega, length, .inl ?_⟩
      rw [delivered]
      exact (checksMatch_iff rfl).mpr rfl
  | response takes fits response =>
      obtain ⟨found, later, split, delivered, events⟩ := kept.ends (by simp)
      cases split
      rw [List.cons.injEq, SerialEvent.taken.injEq] at events
      rw [flatten_pieces] at takes
      obtain ⟨length, used, _⟩ := takes.length_eq events.1
      refine .inr ⟨by omega, length, .inl ?_⟩
      rw [delivered]
      exact (checksMatch_iff rfl).mpr rfl
  | unanswered takes fits fromCalls => exact absurd fromCalls concludes
  | tooLong long headed =>
      obtain ⟨_, found, later, split, good⟩ := kept.ends List.not_mem_nil
      cases split
      have two := arrival.two_le
      rw [flatten_pieces] at long headed
      rw [usedLength_kept arrival good] at long
      rw [headSize_append (by omega)] at headed
      exact .inl ⟨long, headed, good⟩
  | waiting short => exact absurd (kept.ends List.not_mem_nil).2 nofun
  | cut fromCalls => exact absurd fromCalls concludes

theorem sound_of_kept (kept : ∀ passes,
    FramesKept arrivals
      (outputs (serialRead 0 ResponseLen (pieces arrivals).flatten (List.replicate passes plainAnswers)).turns)
      (serialRead 0 ResponseLen (pieces arrivals).flatten (List.replicate passes plainAnswers)).outcome) :
    LineSound ResponseLen (pieces arrivals) := by
  induction arrivals with
  | nil => trivial
  | cons arrival others ih =>
      have does := pass_does 0 ResponseLen (pieces (arrival :: others)).flatten plainAnswers
      have concludes := plain_concludes ResponseLen (pieces (arrival :: others)).flatten
      cases stepped : readLowlevel 0 ResponseLen (pieces (arrival :: others)).flatten plainAnswers with
      | mk output next =>
          rw [stepped] at does concludes
          cases next with
          | done result =>
              have once := kept 1
              rw [List.replicate_succ, serialRead, run_done stepped, outputs_singleton] at once
              exact sound_of_ends does (concludes result rfl) once
          | again left =>
              have later (passes : Nat) := kept (passes + 1)
              simp only [List.replicate_succ, serialRead, run_again stepped, outputs_cons] at later
              cases does with
              | rejected takes fits response wrong =>
                  have same := (later 0).behind.1
                  have bad := takes.isRejected response wrong
                  rw [flatten_pieces] at takes
                  obtain ⟨length, used, behind⟩ := takes.length_eq same
                  rw [same] at bad
                  refine .inr ⟨by omega, length, .inr ⟨bad.1, ih fun passes => ?_⟩⟩
                  rw [← behind]
                  exact (later passes).behind.2

/-- `Read` keeps the frames of a peer, whatever has become of them, in every course of its calls of read
and write exactly when the line is sound. -/
theorem frames_kept_iff (ResponseLen : Nat) (arrivals : List Arrival) :
    (∀ m_devHandle answers,
      FramesKept arrivals (outputs (serialRead m_devHandle ResponseLen (pieces arrivals).flatten answers).turns)
        (serialRead m_devHandle ResponseLen (pieces arrivals).flatten answers).outcome) ↔
      LineSound ResponseLen (pieces arrivals) := by
  constructor
  · intro kept
    exact sound_of_kept fun passes => kept 0 (List.replicate passes plainAnswers)
  · intro sound m_devHandle answers
    exact kept_of_sound sound answers

/-- A slot change whose second byte has changed on the line. -/
def damagedInterrupt : Arrival := ⟨[0x50, 0x03], [0x50, 0x02, 0x53, 0x53], rfl⟩

theorem damagedInterrupt_not_kept :
    (serialRead 3 64 (pieces [damagedInterrupt]).flatten [plainAnswers]).outcome = .done (.success [0x50, 0x02]) ∧
      ¬ FramesKept [damagedInterrupt]
        (outputs (serialRead 3 64 (pieces [damagedInterrupt]).flatten [plainAnswers]).turns)
        (serialRead 3 64 (pieces [damagedInterrupt]).flatten [plainAnswers]).outcome := by
  have delivered : (serialRead 3 64 (pieces [damagedInterrupt]).flatten [plainAnswers]).outcome =
      .done (.success [0x50, 0x02]) := rfl
  refine ⟨delivered, fun kept => ?_⟩
  rw [delivered] at kept
  obtain ⟨arrival, later, split, framed, _⟩ := kept.ends (by decide)
  cases split
  exact absurd framed (by decide)

end Cyberjack.Eca
