import Cyberjack.Foundation.Loop
import Cyberjack.Foundation.Word

namespace Cyberjack.Libdialog

open Cyberjack.Foundation

/-! # Messages of the dialog server

`rsct_net_recv` of `network.c`: the header is read first, and the rest of the message is as long as it
announces.
-/

/-- What `read` returns: some of the bytes that have arrived, the end of the stream, or -1;
`interrupted` where `errno` is `EINTR` then. -/
inductive ReadReturn where
  | received (first : UInt8) (more : List UInt8)
  | eof
  | failed (interrupted : Bool)
deriving Repr, DecidableEq

/-- Bytes that `read` stores at a distance from `msg`. -/
structure Write where
  p : Int
  data : List UInt8
deriving Repr, DecidableEq

/-- What a pass of the two loops begins with. -/
structure Receiving where
  payload : Bool
  msg : Int → UInt8
  p : Int
  bytesRead : Int

/-- The return value, and the message behind the call. -/
structure Returned where
  value : Int
  msg : Int → UInt8

/-- `sizeof(RSCT_MESSAGE_HEADER)`: the structures are packed. -/
def headerSize : Nat := 5

def RSCT_MAX_MESSAGE_LEN : Nat := 65 * 1024

/-- An `int` that is compared with a `size_t`. -/
def sizeT (value : Int) : Nat := (value % 18446744073709551616).toNat

/-- `msg->header.len` -/
def headerLen (msg : Int → UInt8) : Nat :=
  (msg 1).toNat + 256 * (msg 2).toNat + 65536 * (msg 3).toNat + 16777216 * (msg 4).toNat

def overwrite (memory : Int → UInt8) (p : Int) (data : List UInt8) (index : Int) : UInt8 :=
  if p ≤ index ∧ index < p + data.length then data.getD (index - p).toNat 0 else memory index

/-- The head of the second loop. -/
def payloadHead (msg : Int → UInt8) (p bytesRead : Int) : Next Receiving Returned :=
  if uint32 bytesRead < headerLen msg then .again ⟨true, msg, p, bytesRead⟩ else .done ⟨bytesRead, msg⟩

/-- The head of the first loop, and the check of the length behind it. -/
def headerHead (msg : Int → UInt8) (p bytesRead : Int) : Next Receiving Returned :=
  if sizeT bytesRead < headerSize then .again ⟨false, msg, p, bytesRead⟩
  else if headerLen msg ≥ RSCT_MAX_MESSAGE_LEN then .done ⟨-1, msg⟩
  else payloadHead msg p bytesRead

/-- A pass of the loop over the header.  After `EINTR` it goes on with the -1 that `read` returned. -/
def headerPass (state : Receiving) (returned : ReadReturn) : List Write × Next Receiving Returned :=
  match returned with
  | .failed true => ([], headerHead state.msg (state.p - 1) (state.bytesRead - 1))
  | .failed false => ([], .done ⟨-1, state.msg⟩)
  | .eof => ([], .done ⟨if state.bytesRead = 0 then 0 else -1, state.msg⟩)
  | .received first more =>
      let data := (first :: more).take (headerSize - state.bytesRead).toNat
      ([⟨state.p, data⟩],
        headerHead (overwrite state.msg state.p data) (state.p + data.length) (state.bytesRead + data.length))

def payloadPass (state : Receiving) (returned : ReadReturn) : List Write × Next Receiving Returned :=
  match returned with
  | .failed _ => ([], .done ⟨-1, state.msg⟩)
  | .eof => ([], .done ⟨-1, state.msg⟩)
  | .received first more =>
      let data := (first :: more).take (headerLen state.msg - state.bytesRead).toNat
      ([⟨state.p, data⟩],
        payloadHead (overwrite state.msg state.p data) (state.p + data.length) (state.bytesRead + data.length))

def recvBody : Body Receiving ReadReturn Write Returned := fun state returned =>
  if state.payload then payloadPass state returned else headerPass state returned

def rsct_net_recv (msg : Int → UInt8) (returns : List ReadReturn) : Run Receiving ReadReturn Write Returned :=
  run recvBody ⟨false, msg, 0, 0⟩ returns

/-! ## What should be received -/

/-- The first bytes of a message. -/
def bytesOf (msg : Int → UInt8) (count : Nat) : List UInt8 := (List.range count).map fun index => msg (index : Nat)

abbrev Turns := List (Turn Receiving ReadReturn Write)

/-- All bytes received, in the order in which they came. -/
def received (past : Turns) : List UInt8 := (outputs past).flatMap Write.data

/-- The announced number of bytes has been received, and the message holds them. -/
structure Complete (past : Turns) (returned : Returned) : Prop where
  announced : returned.value = headerLen returned.msg
  least : headerSize ≤ headerLen returned.msg
  inOrder : received past = bytesOf returned.msg (headerLen returned.msg)

/-- The call returns a positive number. -/
def Succeeds (outcome : Next Receiving Returned) : Prop :=
  outcome.Satisfies (fun _ => False) fun returned => 0 < returned.value

structure RecvRight (made : Run Receiving ReadReturn Write Returned) : Prop where
  inside : ∀ write ∈ outputs made.turns, 0 ≤ write.p ∧ write.p + write.data.length ≤ RSCT_MAX_MESSAGE_LEN
  complete : ∀ returned, made.outcome = .done returned → 0 < returned.value → Complete made.turns returned

/-- A read of the header is not interrupted behind the first byte, and one that completes the header brings
a length that counts it. -/
def Allowed (state : Receiving) (returned : ReadReturn) : Prop :=
  state.payload = false →
    (returned = .failed true → state.bytesRead = 0) ∧
    ∀ first more, returned = .received first more →
      let data := (first :: more).take (headerSize - state.bytesRead).toNat
      state.bytesRead + data.length = headerSize → headerSize ≤ headerLen (overwrite state.msg state.p data)

/-! ## The message in memory -/

variable {msg : Int → UInt8} {data : List UInt8} {past : Turns}

theorem headerLen_overwrite {p : Int} (behind : 5 ≤ p) : headerLen (overwrite msg p data) = headerLen msg := by
  have kept {index : Int} (front : index < 5) : overwrite msg p data index = msg index :=
    if_neg (by omega)
  rw [headerLen, kept (by decide), kept (by decide), kept (by decide), kept (by decide)]
  rfl

theorem bytesOf_overwrite (msg : Int → UInt8) (count : Nat) (data : List UInt8) :
    bytesOf (overwrite msg count data) (count + data.length) = bytesOf msg count ++ data := by
  apply List.ext_getElem
  · simp [bytesOf]
  · intro index inside _
    simp only [bytesOf, List.length_map, List.length_range] at inside
    simp only [bytesOf, List.getElem_map, List.getElem_range]
    by_cases front : index < count
    · rw [List.getElem_append_left (by simpa using front)]
      simp only [List.getElem_map, List.getElem_range]
      exact if_neg (by omega)
    · have place : ((index : Int) - count).toNat = index - count := by omega
      rw [List.getElem_append_right (by simp; omega), overwrite, if_pos (by omega), place,
        List.getD_eq_getElem?_getD, List.getElem?_eq_getElem (by omega), Option.getD_some]
      simp

theorem length_bytesOf (msg : Int → UInt8) (count : Nat) : (bytesOf msg count).length = count := by
  simp [bytesOf]

theorem received_snoc (past : Turns) (turn : Turn Receiving ReadReturn Write) :
    received (past ++ [turn]) = received past ++ turn.output.flatMap Write.data := by
  simp [received]

/-! ## The loop heads -/

variable {p : Int} {count : Nat}

theorem payloadHead_count (small : count < 4294967296) :
    payloadHead msg p count =
      if count < headerLen msg then .again ⟨true, msg, p, count⟩ else .done ⟨count, msg⟩ := by
  rw [payloadHead, uint32_of_range small]

theorem headerHead_more (more : count < headerSize) : headerHead msg p count = .again ⟨false, msg, p, count⟩ := by
  have below : count < 5 := more
  have size : sizeT count = count := by
    rw [sizeT]
    omega
  rw [headerHead, size, if_pos more]

theorem headerHead_whole (whole : count = headerSize) :
    headerHead msg p count =
      if headerLen msg ≥ RSCT_MAX_MESSAGE_LEN then .done ⟨-1, msg⟩
      else if count < headerLen msg then .again ⟨true, msg, p, count⟩ else .done ⟨count, msg⟩ := by
  subst whole
  have size : sizeT headerSize = headerSize := rfl
  rw [headerHead, size, if_neg (Nat.lt_irrefl _), payloadHead_count (by decide)]

/-- The -1 of the first read ends both loops. -/
theorem headerHead_interrupted : headerHead msg p (-1) = .done ⟨-1, msg⟩ := by
  have size : ¬ sizeT (-1) < headerSize := by decide
  rw [headerHead, if_neg size]
  split
  · rfl
  · have below : headerLen msg < 4294967295 := by
      have limit : RSCT_MAX_MESSAGE_LEN = 66560 := rfl
      omega
    have value : uint32 (-1) = 4294967295 := rfl
    rw [payloadHead, value, if_neg (by omega)]

/-! ## One pass -/

/-- What holds in front of every pass: pointer and counter move together, and stay in the part that is read. -/
structure Shape (state : Receiving) : Prop where
  pointer : state.p = state.bytesRead
  counted : 0 ≤ state.bytesRead
  header : state.payload = false → state.bytesRead < headerSize
  payload : state.payload = true → headerSize ≤ state.bytesRead ∧ state.bytesRead < headerLen state.msg ∧
    headerLen state.msg < RSCT_MAX_MESSAGE_LEN

/-- The bytes received so far are those of the message, or more than it counts. -/
structure Kept (past : Turns) (msg : Int → UInt8) (count : Nat) : Prop where
  ordered : Meets Allowed past → received past = bytesOf msg count
  surplus : ¬ Meets Allowed past → count < (received past).length

/-- A result counts as complete exactly where all passes were allowed. -/
def Judged (past : Turns) (returned : Returned) : Prop :=
  0 < returned.value → (Complete past returned ↔ Meets Allowed past)

def Invariant (past : Turns) (state : Receiving) : Prop := Shape state ∧ Kept past state.msg state.bytesRead.toNat

theorem judged_of_failure {returned : Returned} (failed : returned.value ≤ 0) : Judged past returned :=
  fun positive => absurd positive (Int.not_lt.mpr failed)

/-- Bytes stored at the pointer follow those received before. -/
theorem Kept.stored {turn : Turn Receiving ReadReturn Write} (kept : Kept past msg count)
    (output : turn.output = [⟨count, data⟩]) (allowed : Allowed turn.before turn.input) :
    Kept (past ++ [turn]) (overwrite msg count data) (count + data.length) := by
  have all : received (past ++ [turn]) = received past ++ data := by
    rw [received_snoc, output]
    exact congrArg _ (List.append_nil _)
  have same : Meets Allowed (past ++ [turn]) ↔ Meets Allowed past := by
    rw [meets_append, meets_cons]
    exact ⟨fun both => both.1, fun before => ⟨before, allowed, meets_nil⟩⟩
  constructor
  · intro meets
    rw [all, kept.ordered (same.mp meets), bytesOf_overwrite]
  · intro fails
    have more := kept.surplus fun meets => fails (same.mpr meets)
    rw [all, List.length_append]
    omega

/-- The loops end with all bytes counted. -/
theorem Kept.judged {returned : Returned} (kept : Kept past returned.msg count) (value : returned.value = count)
    (announced : headerLen returned.msg = count) (least : headerSize ≤ count) : Judged past returned := by
  intro _
  constructor
  · intro complete
    by_cases meets : Meets Allowed past
    · exact meets
    · have surplus := kept.surplus meets
      rw [complete.inOrder, length_bytesOf, announced] at surplus
      exact absurd surplus (Nat.lt_irrefl _)
  · intro meets
    constructor
    · rw [value, announced]
    · rw [announced]
      exact least
    · rw [announced]
      exact kept.ordered meets

/-- A byte that is read again is received, but not counted any more. -/
theorem Kept.interrupted (kept : Kept past msg (count + 1)) :
    Kept (past ++ [⟨⟨false, msg, (count + 1 : Nat), (count + 1 : Nat)⟩, .failed true, []⟩]) msg count := by
  have all : received (past ++ [⟨⟨false, msg, (count + 1 : Nat), (count + 1 : Nat)⟩, .failed true, []⟩]) = received past := by
    rw [received_snoc]
    exact List.append_nil _
  have fails : ¬ Meets Allowed (past ++ [⟨⟨false, msg, (count + 1 : Nat), (count + 1 : Nat)⟩, .failed true, []⟩]) := by
    intro meets
    rw [meets_append, meets_cons] at meets
    have none : ((count + 1 : Nat) : Int) = 0 := (meets.2.1 rfl).1 rfl
    omega
  constructor
  · exact fun meets => absurd meets fails
  · intro _
    rw [all]
    by_cases meets : Meets Allowed past
    · rw [kept.ordered meets, length_bytesOf]
      omega
    · have surplus := kept.surplus meets
      omega

theorem shape_header (more : count < headerSize) : Shape ⟨false, msg, count, count⟩ where
  pointer := rfl
  counted := Int.natCast_nonneg count
  header _ := Int.ofNat_lt.mpr more
  payload := nofun

theorem shape_payload (least : headerSize ≤ count) (more : count < headerLen msg)
    (short : headerLen msg < RSCT_MAX_MESSAGE_LEN) : Shape ⟨true, msg, count, count⟩ where
  pointer := rfl
  counted := Int.natCast_nonneg count
  header := nofun
  payload _ := ⟨Int.ofNat_le.mpr least, Int.ofNat_lt.mpr more, short⟩

/-- What is read is no more than what is asked for, and at least a byte. -/
theorem length_taken {first : UInt8} {more : List UInt8} {asked : Int} (some : 0 < asked) :
    0 < ((first :: more).take asked.toNat).length ∧ ((first :: more).take asked.toNat).length ≤ asked.toNat := by
  rw [List.length_take, List.length_cons]
  omega

/-- The header is complete; where its length does not count it, the pass is the one that is not allowed. -/
theorem header_complete {first : UInt8} {more : List UInt8} (kept : Kept past msg count)
    (taken : (first :: more).take (headerSize - (count : Int)).toNat = data) (whole : count + data.length = headerSize)
    (turn : Turn Receiving ReadReturn Write)
    (this : turn = ⟨⟨false, msg, count, count⟩, .received first more, [⟨count, data⟩]⟩) :
    (headerHead (overwrite msg count data) ((count + data.length : Nat) : Int) ((count + data.length : Nat) : Int)).Satisfies
      (Invariant (past ++ [turn])) (Judged (past ++ [turn])) := by
  have allowed_iff : Allowed turn.before turn.input ↔ headerSize ≤ headerLen (overwrite msg count data) := by
    rw [this]
    constructor
    · intro allowed
      have least := (allowed rfl).2 first more rfl
      rw [taken] at least
      exact least (by dsimp only; omega)
    · intro least _
      refine ⟨nofun, ?_⟩
      intro _ _ same
      cases same
      rw [taken]
      exact fun _ => least
  have output : turn.output = [⟨count, data⟩] := by rw [this]
  rw [headerHead_whole whole]
  split
  · exact judged_of_failure (show (-1 : Int) ≤ 0 by decide)
  · rename_i short
    split
    · rename_i further
      have least : headerSize ≤ headerLen (overwrite msg count data) := by omega
      refine ⟨shape_payload (Nat.le_of_eq whole.symm) further (Nat.not_le.mp short), ?_⟩
      exact kept.stored output (allowed_iff.mpr least)
    · rename_i ends
      by_cases least : headerSize ≤ headerLen (overwrite msg count data)
      · exact (kept.stored output (allowed_iff.mpr least)).judged rfl (by dsimp only; omega) (Nat.le_of_eq whole.symm)
      · intro _
        constructor
        · exact fun complete => absurd complete.least least
        · intro meets
          rw [meets_append, meets_cons] at meets
          exact absurd (allowed_iff.mp meets.2.1) least

/-- A pass of the loop over the header keeps the count, or what goes wrong shows in it. -/
theorem headerPass_step {returned : ReadReturn} (kept : Kept past msg count) (more : count < headerSize) :
    (headerPass ⟨false, msg, count, count⟩ returned).2.Satisfies
      (Invariant (past ++ [⟨⟨false, msg, count, count⟩, returned, (headerPass ⟨false, msg, count, count⟩ returned).1⟩]))
      (Judged (past ++ [⟨⟨false, msg, count, count⟩, returned, (headerPass ⟨false, msg, count, count⟩ returned).1⟩])) := by
  cases returned with
  | failed interrupted =>
      cases interrupted with
      | false => exact judged_of_failure (show (-1 : Int) ≤ 0 by decide)
      | true =>
          cases count with
          | zero =>
              have ends : (headerPass ⟨false, msg, (0 : Nat), (0 : Nat)⟩ (.failed true)).2 = .done ⟨-1, msg⟩ :=
                headerHead_interrupted
              rw [ends]
              exact judged_of_failure (show (-1 : Int) ≤ 0 by decide)
          | succ count =>
              have next : (headerPass ⟨false, msg, (count + 1 : Nat), (count + 1 : Nat)⟩ (.failed true)).2 =
                  headerHead msg count count := by
                simp [headerPass]
              rw [next, headerHead_more (by omega)]
              exact ⟨shape_header (by omega), kept.interrupted⟩
  | eof =>
      apply judged_of_failure
      dsimp only
      split <;> decide
  | received first rest =>
      have asked : 0 < (headerSize : Int) - count := by omega
      have taken := @length_taken first rest _ asked
      generalize same : (first :: rest).take ((headerSize : Int) - count).toNat = data at taken
      have stepped : headerPass ⟨false, msg, count, count⟩ (.received first rest) =
          ([⟨count, data⟩], headerHead (overwrite msg count data) ((count + data.length : Nat) : Int)
            ((count + data.length : Nat) : Int)) := by
        simp only [headerPass, same, Int.natCast_add]
      rw [stepped]
      by_cases whole : count + data.length = headerSize
      · exact header_complete kept same whole _ rfl
      · rw [headerHead_more (by omega)]
        refine ⟨shape_header (by omega), ?_⟩
        apply kept.stored rfl
        intro _
        refine ⟨nofun, ?_⟩
        intro _ _ input
        cases input
        dsimp only
        rw [same]
        intro complete
        omega

theorem payloadPass_step {returned : ReadReturn} (kept : Kept past msg count) (least : headerSize ≤ count)
    (more : count < headerLen msg) (short : headerLen msg < RSCT_MAX_MESSAGE_LEN) :
    (payloadPass ⟨true, msg, count, count⟩ returned).2.Satisfies
      (Invariant (past ++ [⟨⟨true, msg, count, count⟩, returned, (payloadPass ⟨true, msg, count, count⟩ returned).1⟩]))
      (Judged (past ++ [⟨⟨true, msg, count, count⟩, returned, (payloadPass ⟨true, msg, count, count⟩ returned).1⟩])) := by
  have size : headerSize = 5 := rfl
  have limit : RSCT_MAX_MESSAGE_LEN = 66560 := rfl
  cases returned with
  | failed _ => exact judged_of_failure (show (-1 : Int) ≤ 0 by decide)
  | eof => exact judged_of_failure (show (-1 : Int) ≤ 0 by decide)
  | received first rest =>
      have asked : 0 < (headerLen msg : Int) - count := by omega
      have taken := @length_taken first rest _ asked
      generalize same : (first :: rest).take ((headerLen msg : Int) - count).toNat = data at taken
      have stepped : payloadPass ⟨true, msg, count, count⟩ (.received first rest) =
          ([⟨count, data⟩], payloadHead (overwrite msg count data) ((count + data.length : Nat) : Int)
            ((count + data.length : Nat) : Int)) := by
        simp only [payloadPass, same, Int.natCast_add]
      have announced : headerLen (overwrite msg count data) = headerLen msg := headerLen_overwrite (by omega)
      rw [stepped]
      have behind := @Kept.stored msg data past count ⟨⟨true, msg, count, count⟩, .received first rest, [⟨count, data⟩]⟩
        kept rfl nofun
      rw [payloadHead_count (by omega), announced]
      split
      · rename_i further
        exact ⟨shape_payload (by omega) (by rw [announced]; exact further) (by rw [announced]; exact short), behind⟩
      · exact behind.judged rfl (by dsimp only; omega) (by omega)

/-- What one pass preserves. -/
theorem recvBody_step (past : Turns) (state : Receiving) (returned : ReadReturn) (holds : Invariant past state) :
    (recvBody state returned).2.Satisfies
      (Invariant (past ++ [⟨state, returned, (recvBody state returned).1⟩]))
      (Judged (past ++ [⟨state, returned, (recvBody state returned).1⟩])) := by
  obtain ⟨payload, msg, p, bytesRead⟩ := state
  obtain ⟨shape, kept⟩ := holds
  have pointer : p = bytesRead := shape.pointer
  obtain ⟨count, rfl⟩ := Int.eq_ofNat_of_zero_le shape.counted
  subst pointer
  cases payload with
  | false => exact headerPass_step kept (Int.ofNat_lt.mp (shape.header rfl))
  | true =>
      obtain ⟨least, more, short⟩ := shape.payload rfl
      exact payloadPass_step kept (Int.ofNat_le.mp least) (Int.ofNat_lt.mp more) short

/-! ## The call -/

theorem opened_invariant (msg : Int → UInt8) : Invariant [] ⟨false, msg, 0, 0⟩ := by
  constructor
  · exact @shape_header msg 0 (by decide)
  · exact ⟨fun _ => rfl, fun fails => absurd meets_nil fails⟩

theorem recv_holds (msg : Int → UInt8) (returns : List ReadReturn) :
    (rsct_net_recv msg returns).Holds Invariant Judged [] := by
  have step (past : Turns) (state : Receiving) (returned : ReadReturn) (holds : Invariant past state) :
      (recvBody state returned).2.Satisfies
        (Invariant (past ++ [⟨state, returned, (recvBody state returned).1⟩]))
        (Judged (past ++ [⟨state, returned, (recvBody state returned).1⟩])) ↔ True :=
    iff_true_intro (recvBody_step past state returned holds)
  exact (@run_holds_iff _ _ _ _ _ _ _ (fun _ _ => True) step [] _ (opened_invariant msg) returns).mpr
    fun _ _ => trivial

/-- What a pass stores from a state it can begin with lies inside the buffer. -/
theorem write_inside {state : Receiving} {returned : ReadReturn} (shape : Shape state) :
    ∀ write ∈ (recvBody state returned).1, 0 ≤ write.p ∧ write.p + write.data.length ≤ RSCT_MAX_MESSAGE_LEN := by
  have size : headerSize = 5 := rfl
  have limit : RSCT_MAX_MESSAGE_LEN = 66560 := rfl
  have pointer := shape.pointer
  have counted := shape.counted
  obtain ⟨payload, msg, p, bytesRead⟩ := state
  cases returned with
  | failed interrupted => cases payload <;> cases interrupted <;> exact List.forall_mem_nil _
  | eof => cases payload <;> exact List.forall_mem_nil _
  | received first rest =>
      cases payload with
      | false =>
          have below := shape.header rfl
          have taken := (@length_taken first rest (headerSize - bytesRead) (by dsimp only at below; omega)).2
          refine List.forall_mem_singleton.mpr ?_
          dsimp only at pointer counted below ⊢
          omega
      | true =>
          obtain ⟨_, below, short⟩ := shape.payload rfl
          have taken := (@length_taken first rest (headerLen msg - bytesRead) (by dsimp only at below; omega)).2
          refine List.forall_mem_singleton.mpr ?_
          dsimp only at pointer counted below short ⊢
          omega

theorem recv_inside (msg : Int → UInt8) (returns : List ReadReturn) :
    ∀ write ∈ outputs (rsct_net_recv msg returns).turns,
      0 ≤ write.p ∧ write.p + write.data.length ≤ RSCT_MAX_MESSAGE_LEN := by
  intro write member
  obtain ⟨turn, made, output⟩ := List.mem_flatMap.mp member
  obtain ⟨front, back, split⟩ := List.append_of_mem made
  have before := (recv_holds msg returns).before front turn back split
  rw [run_output made] at output
  exact write_inside before.1 write output

/-- The call is right exactly if it returns no positive number, or no read of the header is interrupted behind
its first byte and the length that is announced counts the header. -/
theorem recv_right_iff (msg : Int → UInt8) (returns : List ReadReturn) :
    RecvRight (rsct_net_recv msg returns) ↔
      (Succeeds (rsct_net_recv msg returns).outcome → Meets Allowed (rsct_net_recv msg returns).turns) := by
  have judged := (recv_holds msg returns).after
  rw [List.nil_append] at judged
  constructor
  · intro right success
    obtain ⟨returned, ended, positive⟩ := success.ended
    rw [ended] at judged
    exact (judged positive).mp (right.complete returned ended positive)
  · intro meets
    constructor
    · exact recv_inside msg returns
    · intro returned ended positive
      rw [ended] at judged
      apply (judged positive).mpr
      apply meets
      rw [ended]
      exact positive

/-- A header that announces five bytes: the read behind its first byte is interrupted, and that byte is lost. -/
def interruptedHeader : List ReadReturn :=
  [.received 0x01 [], .failed true, .received 0x02 [0x05, 0x00, 0x00, 0x00]]

/-- A header that announces nothing. -/
def emptyHeader : List ReadReturn := [.received 0x01 [0x00, 0x00, 0x00, 0x00]]

theorem recv_not_right :
    (∃ returned, (rsct_net_recv (fun _ => 0) interruptedHeader).outcome = .done returned ∧ returned.value = 5 ∧
      bytesOf returned.msg 5 = [0x02, 0x05, 0x00, 0x00, 0x00] ∧
      received (rsct_net_recv (fun _ => 0) interruptedHeader).turns = [0x01, 0x02, 0x05, 0x00, 0x00, 0x00] ∧
      ¬ RecvRight (rsct_net_recv (fun _ => 0) interruptedHeader)) ∧
    ∃ returned, (rsct_net_recv (fun _ => 0) emptyHeader).outcome = .done returned ∧ returned.value = 5 ∧
      headerLen returned.msg = 0 ∧ ¬ RecvRight (rsct_net_recv (fun _ => 0) emptyHeader) := by
  refine ⟨⟨_, rfl, by decide, by decide, by decide, ?_⟩, ⟨_, rfl, by decide, by decide, ?_⟩⟩
  · intro right
    exact absurd (right.complete _ rfl (by decide)).inOrder (by decide)
  · intro right
    exact absurd (right.complete _ rfl (by decide)).least (by decide)

end Cyberjack.Libdialog
