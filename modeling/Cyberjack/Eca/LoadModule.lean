import Cyberjack.Foundation.Buffer
import Cyberjack.Foundation.Chunks
import Cyberjack.Eca.KeyUpdate

namespace Cyberjack.Eca.Module

open Cyberjack.Foundation

/-! # Modules

`CEC30Reader::CtLoadModule`: the header of a module, its data in chunks and its
signature go to the reader, each one behind a flash mask.
-/

/-- What `SetFlashMask` returns in front of a message, and what its `Escape` does. -/
structure StepReply where
  mask : Option CjError
  escape : Escaped
deriving DecidableEq

/-- `BuildInfo` is the pair of calls that end the update. The data of a message are shorter
than what `Escape` takes. -/
inductive ModuleMessage where
  | SetFlashMask
  | updateStart (ModuleHeader : List UInt8)
  | update (bLength : UInt16) (Data : Buffer UInt8 256)
  | verify (len : UInt32) (Sign : Buffer UInt8 768)
  | BuildInfo
deriving DecidableEq

structure Sent where
  message : ModuleMessage
  Res : Option CjError
deriving DecidableEq

inductive LoadEnd where
  | outside
  | wrongSize
  | returned (Res : Option CjError) (Result : UInt32)
deriving Repr, DecidableEq

/-- The pointer is an offset into the module. -/
structure LoadState where
  pData : Nat
  DataLength : Nat
  Data : Buffer UInt8 256
  Sign : Buffer UInt8 768
  Result : UInt32
deriving DecidableEq

/-- The copy of a part of the caller's bytes to the beginning of a field. -/
def memcpy {size : Nat} (field : Buffer UInt8 size) (source : List UInt8) (offset count : Nat) :
    Option (Buffer UInt8 size) :=
  match (Reads.bytes source offset count : Reads Empty (List UInt8)) with
  | .ok copied => field.store? 0 copied
  | .error _ => none

abbrev LoadStep := List Sent × Next LoadState LoadEnd

/-- A message behind its flash mask, and what follows where both succeed. -/
def masked (reply : StepReply) (message : ModuleMessage) (Result : UInt32) (behind : LoadStep) : LoadStep :=
  match reply.mask with
  | some error => ([⟨.SetFlashMask, some error⟩], .done (.returned (some error) Result))
  | none =>
      match reply.escape.error with
      | some error =>
          ([⟨.SetFlashMask, none⟩, ⟨message, some error⟩],
            .done (.returned (some error) reply.escape.Result))
      | none => (⟨.SetFlashMask, none⟩ :: ⟨message, none⟩ :: behind.1, behind.2)

/-- A pass of the `while` loop, and behind it the signature. -/
def loadBody (pData pSgn : List UInt8) : Body LoadState StepReply Sent LoadEnd :=
  fun state reply =>
    if state.DataLength = 0 then
      match memcpy state.Sign pSgn 0 pSgn.length with
      | none => ([], .done .outside)
      | some Sign =>
          masked reply (.verify (UInt32.ofNat pSgn.length) Sign) state.Result
            ([⟨.BuildInfo, none⟩], .done (.returned none reply.escape.Result))
    else
      let len := if state.DataLength > 256 then 256 else state.DataLength
      match memcpy state.Data pData state.pData len with
      | none => ([], .done .outside)
      | some Data =>
          masked reply (.update (UInt16.ofNat len) Data) state.Result
            ([], .again
              { state with
                pData := state.pData + len
                DataLength := state.DataLength - len
                Data := Data
                Result := reply.escape.Result })

/-- What comes in front of the loop. -/
def loadStart (pData : List UInt8) (Data : Buffer UInt8 256) (Sign : Buffer UInt8 768) (Result : UInt32)
    (reply : StepReply) : LoadStep :=
  if pData.length < 258 then ([], .done .wrongSize)
  else
    match (Reads.bytes pData 0 256 : Reads Empty (List UInt8)) with
    | .error _ => ([], .done .outside)
    | .ok ModuleHeader =>
        masked reply (.updateStart ModuleHeader) Result
          ([], .again ⟨256, pData.length - 256, Data, Sign, reply.escape.Result⟩)

/-- `CEC30Reader::CtLoadModule`; `Data` and `Sign` are what the two fields hold before. -/
def CtLoadModule (pData pSgn : List UInt8) (Data : Buffer UInt8 256) (Sign : Buffer UInt8 768)
    (Result : UInt32) (first : StepReply) (replies : List StepReply) :
    Call LoadState StepReply Sent LoadEnd :=
  call (loadBody pData pSgn) (loadStart pData Data Sign Result first) replies

/-! ## What the reader gets -/

/-- What the reader finds in a message: its bytes, as many as its length says. -/
inductive Piece where
  | mask
  | header (bytes : List UInt8)
  | chunk (length : Nat) (bytes : List UInt8)
  | signature (length : Nat) (bytes : List UInt8)
  | info
deriving Repr, DecidableEq

def ModuleMessage.piece : ModuleMessage → Piece
  | .SetFlashMask => .mask
  | .updateStart ModuleHeader => .header ModuleHeader
  | .update bLength Data => .chunk bLength.toNat (Data.cells.take bLength.toNat)
  | .verify len Sign => .signature len.toNat (Sign.cells.take len.toNat)
  | .BuildInfo => .info

def pieces (trace : List Sent) : List Piece := trace.map (·.message.piece)

/-- The chunks one behind the other, then the signature. -/
def transmission (chunks : List (List UInt8)) (signature : List UInt8) : List Piece :=
  chunks.flatMap (fun chunk => [.mask, .chunk chunk.length chunk]) ++
    [.mask, .signature signature.length signature, .info]

/-- A step that fails is the last one, and its error is returned. -/
def Stops (outcome : Next LoadState LoadEnd) : List Sent → Prop
  | [] => True
  | ⟨_, none⟩ :: rest => Stops outcome rest
  | ⟨_, some error⟩ :: rest => rest = [] ∧ ∃ Result, outcome = .done (.returned (some error) Result)

/-- What has been sent is the beginning of what has to be sent, and all of it after a success. -/
structure Sends (plan : List Piece) (trace : List Sent) (outcome : Next LoadState LoadEnd) : Prop where
  begins : pieces trace <+: plan
  whole : ∀ Result, outcome = .done (.returned none Result) → pieces trace = plan
  stops : Stops outcome trace
  inside : outcome ≠ .done .outside

/-- The module and the signature reach the reader in order and whole, up to the first step that fails. -/
structure Flashed (pData pSgn : List UInt8) (made : Call LoadState StepReply Sent LoadEnd) : Prop where
  short : pData.length < 258 → made.trace = [] ∧ made.outcome = .done .wrongSize
  sent : 258 ≤ pData.length → ∃ header chunks, header.length = 256 ∧
    (∀ chunk ∈ chunks, chunk ≠ [] ∧ chunk.length ≤ 256) ∧ header ++ chunks.flatten = pData ∧
    Sends (.mask :: .header header :: transmission chunks pSgn) made.trace made.outcome

def StepReply.Succeeds (reply : StepReply) : Prop := reply.mask = none ∧ reply.escape.error = none

instance (reply : StepReply) : Decidable reply.Succeeds := inferInstanceAs (Decidable (_ ∧ _))

/-- All the chunks are taken, and one more answer follows. -/
def ChunksTaken (rest : List UInt8) (replies : List StepReply) : Prop :=
  (chunks 256 rest).length < replies.length ∧
    ∀ reply ∈ replies.take (chunks 256 rest).length, reply.Succeeds

/-- The call comes to the signature. -/
def SignatureReached (pData : List UInt8) (first : StepReply) (replies : List StepReply) : Prop :=
  258 ≤ pData.length ∧ first.Succeeds ∧ ChunksTaken (pData.drop 256) replies

variable {pData pSgn rest source : List UInt8} {state : LoadState} {reply : StepReply}
  {replies : List StepReply} {message : ModuleMessage} {plan : List Piece} {trace : List Sent}
  {outcome : Next LoadState LoadEnd} {size offset count : Nat} {field : Buffer UInt8 size}

/-! ## One step -/

theorem memcpy_of_room (inside : offset + count ≤ source.length) (room : count ≤ size) :
    ∃ after, memcpy field source offset count = some after ∧
      after.cells.take count = (source.drop offset).take count := by
  have length : ((source.drop offset).take count).length = count := by
    rw [List.length_take, List.length_drop]
    omega
  have fits : ((source.drop offset).take count).length ≤ size := by omega
  obtain ⟨after, stored, same, _⟩ := field.store?_zero fits
  rw [length] at same
  exact ⟨after, by simp only [memcpy, Reads.bytes, if_pos (Or.inr inside), stored], same⟩

theorem memcpy_long (inside : offset + count ≤ source.length) (long : size < count) :
    memcpy field source offset count = none := by
  have length : ((source.drop offset).take count).length = count := by
    rw [List.length_take, List.length_drop]
    omega
  simp only [memcpy, Reads.bytes, if_pos (Or.inr inside)]
  rw [Buffer.store?_eq_none, length]
  omega

theorem sends_nil (pending : ∀ Res Result, outcome ≠ .done (.returned Res Result))
    (inside : outcome ≠ .done .outside) : Sends plan [] outcome :=
  ⟨List.nil_prefix, fun Result returned => absurd returned (pending none Result), trivial, inside⟩

theorem Sends.cons (sends : Sends plan trace outcome) (message : ModuleMessage) :
    Sends (message.piece :: plan) (⟨message, none⟩ :: trace) outcome where
  begins := List.cons_prefix_cons.mpr ⟨rfl, sends.begins⟩
  whole := by
    intro Result returned
    rw [pieces, List.map_cons, ← sends.whole Result returned]
    rfl
  stops := sends.stops
  inside := sends.inside

theorem sends_complete (Result : UInt32) :
    Sends [.info] [⟨.BuildInfo, none⟩] (.done (.returned none Result)) :=
  ⟨List.prefix_refl _, fun _ _ => rfl, trivial, by simp⟩

theorem sends_failed (message : ModuleMessage) (error : CjError) (Result : UInt32) :
    Sends (message.piece :: plan) [⟨message, some error⟩] (.done (.returned (some error) Result)) where
  begins := List.cons_prefix_cons.mpr ⟨rfl, List.nil_prefix⟩
  whole := by
    intro Result returned
    cases returned
  stops := ⟨rfl, Result, rfl⟩
  inside := by simp

theorem masked_succeeded (succeeds : reply.Succeeds) (Result : UInt32) (behind : LoadStep) :
    masked reply message Result behind = (⟨.SetFlashMask, none⟩ :: ⟨message, none⟩ :: behind.1, behind.2) := by
  simp only [masked, succeeds.1, succeeds.2]

theorem masked_failed (fails : ¬ reply.Succeeds) (Result : UInt32) (behind : LoadStep) :
    ∃ sent ended, masked reply message Result behind = (sent, .done ended) ∧
      ∀ plan, Sends (.mask :: message.piece :: plan) sent (.done ended) := by
  cases unmasked : reply.mask with
  | some error =>
      refine ⟨_, _, by rw [masked, unmasked], fun plan => ?_⟩
      exact sends_failed .SetFlashMask error Result
  | none =>
      cases refused : reply.escape.error with
      | some error =>
          refine ⟨_, _, by rw [masked, unmasked, refused], fun plan => ?_⟩
          exact (sends_failed message error _).cons .SetFlashMask
      | none => exact absurd ⟨unmasked, refused⟩ fails

/-- The loop stands where the rest of the module begins. -/
structure Placed (pData rest : List UInt8) (state : LoadState) : Prop where
  left : pData.drop state.pData = rest
  length : state.DataLength = rest.length

variable (pSgn reply) in
theorem loadBody_chunk (placed : Placed pData rest state) (more : rest ≠ []) :
    ∃ message next, message.piece = .chunk (rest.take 256).length (rest.take 256) ∧
      loadBody pData pSgn state reply = masked reply message state.Result ([], .again next) ∧
      Placed pData (rest.drop 256) next := by
  have positive := List.length_pos_iff.mpr more
  have total := congrArg List.length placed.left
  rw [List.length_drop] at total
  have left : ¬ state.DataLength = 0 := by
    rw [placed.length]
    omega
  have len : (if state.DataLength > 256 then 256 else state.DataLength) = min 256 rest.length := by
    rw [placed.length]
    split <;> omega
  obtain ⟨Data, copied, same⟩ :
      ∃ Data, memcpy state.Data pData state.pData (min 256 rest.length) = some Data ∧
        Data.cells.take (min 256 rest.length) = (pData.drop state.pData).take (min 256 rest.length) :=
    memcpy_of_room (by omega) (by omega)
  have counted : (UInt16.ofNat (min 256 rest.length)).toNat = min 256 rest.length := by
    rw [UInt16.toNat_ofNat']
    omega
  refine ⟨.update (UInt16.ofNat (min 256 rest.length)) Data,
    ⟨state.pData + min 256 rest.length, state.DataLength - min 256 rest.length, Data, state.Sign,
      reply.escape.Result⟩, ?_, by simp only [loadBody, if_neg left, len, copied], ?_, ?_⟩
  · rw [ModuleMessage.piece, counted, same, placed.left, ← List.take_eq_take_min, List.length_take]
  · dsimp only
    rw [← List.drop_drop, placed.left, ← List.drop_eq_drop_min]
  · dsimp only
    rw [placed.length, List.length_drop]
    omega

variable (reply) in
theorem loadBody_signature (placed : Placed pData [] state) (fits : pSgn.length ≤ 768) :
    ∃ message, message.piece = .signature pSgn.length pSgn ∧
      loadBody pData pSgn state reply = masked reply message state.Result
        ([⟨.BuildInfo, none⟩], .done (.returned none reply.escape.Result)) := by
  obtain ⟨Sign, copied, same⟩ :
      ∃ Sign, memcpy state.Sign pSgn 0 pSgn.length = some Sign ∧
        Sign.cells.take pSgn.length = (pSgn.drop 0).take pSgn.length :=
    memcpy_of_room (by omega) fits
  have counted : (UInt32.ofNat pSgn.length).toNat = pSgn.length := by
    rw [UInt32.toNat_ofNat']
    omega
  refine ⟨.verify (UInt32.ofNat pSgn.length) Sign, ?_, ?_⟩
  · rw [ModuleMessage.piece, counted, same, List.drop_zero, List.take_length]
  · have finished : state.DataLength = 0 := placed.length
    simp only [loadBody, if_pos finished, copied]

variable (reply) in
theorem loadBody_outside (placed : Placed pData [] state) (long : 768 < pSgn.length) :
    loadBody pData pSgn state reply = ([], .done .outside) := by
  have finished : state.DataLength = 0 := placed.length
  have beyond : memcpy state.Sign pSgn 0 pSgn.length = none := memcpy_long (by omega) long
  simp only [loadBody, if_pos finished, beyond]

/-! ## The loop -/

theorem chunksTaken_nil : ChunksTaken [] (reply :: replies) := by
  refine ⟨?_, ?_⟩
  · rw [chunks_nil]
    exact Nat.succ_pos _
  · rw [chunks_nil]
    intro other member
    contradiction

theorem chunksTaken_cons (more : rest ≠ []) :
    ChunksTaken rest (reply :: replies) ↔ reply.Succeeds ∧ ChunksTaken (rest.drop 256) replies := by
  rw [ChunksTaken, chunks_of_ne_nil more (by decide), List.length_cons, List.length_cons,
    List.take_succ_cons, List.forall_mem_cons, Nat.succ_lt_succ_iff]
  exact and_left_comm

theorem transmission_cons (more : rest ≠ []) :
    transmission (chunks 256 rest) pSgn =
      .mask :: .chunk (rest.take 256).length (rest.take 256) ::
        transmission (chunks 256 (rest.drop 256)) pSgn := by
  rw [chunks_of_ne_nil more (by decide)]
  rfl

theorem transmission_nil :
    transmission (chunks 256 []) pSgn = [.mask, .signature pSgn.length pSgn, .info] := by
  rw [chunks_nil]
  rfl

theorem run_failed {behind : LoadStep} (sent : loadBody pData pSgn state reply =
      masked reply message state.Result behind) (fails : ¬ reply.Succeeds) (plan : List Piece)
    (replies : List StepReply) :
    Sends (.mask :: message.piece :: plan)
      (outputs (run (loadBody pData pSgn) state (reply :: replies)).turns)
      (run (loadBody pData pSgn) state (reply :: replies)).outcome := by
  obtain ⟨trace, ended, stopped, sends⟩ := @masked_failed reply message fails state.Result behind
  rw [run_done (sent.trans stopped), outputs_singleton]
  exact sends plan

theorem run_sends (placed : Placed pData rest state)
    (fits : ChunksTaken rest replies → pSgn.length ≤ 768) :
    Sends (transmission (chunks 256 rest) pSgn) (outputs (run (loadBody pData pSgn) state replies).turns)
      (run (loadBody pData pSgn) state replies).outcome := by
  induction replies generalizing state rest with
  | nil => exact sends_nil (by simp) (by simp)
  | cons reply replies ih =>
      by_cases finished : rest = []
      · subst finished
        obtain ⟨message, carried, sent⟩ := loadBody_signature reply placed (fits chunksTaken_nil)
        rw [transmission_nil, ← carried]
        by_cases succeeds : reply.Succeeds
        · rw [masked_succeeded succeeds] at sent
          rw [run_done sent, outputs_singleton]
          exact ((sends_complete reply.escape.Result).cons message).cons .SetFlashMask
        · exact run_failed sent succeeds _ replies
      · obtain ⟨message, next, carried, sent, behind⟩ := loadBody_chunk pSgn reply placed finished
        rw [transmission_cons finished, ← carried]
        by_cases succeeds : reply.Succeeds
        · have later := ih behind fun taken => fits ((chunksTaken_cons finished).mpr ⟨succeeds, taken⟩)
          rw [masked_succeeded succeeds] at sent
          rw [run_again sent, outputs_cons]
          exact (later.cons message).cons .SetFlashMask
        · exact run_failed sent succeeds _ replies

theorem run_outside (placed : Placed pData rest state) (long : 768 < pSgn.length)
    (taken : ChunksTaken rest replies) :
    (run (loadBody pData pSgn) state replies).outcome = .done .outside := by
  induction replies generalizing state rest with
  | nil => exact absurd taken.1 (Nat.not_lt_zero _)
  | cons reply replies ih =>
      by_cases finished : rest = []
      · subst finished
        rw [run_done (loadBody_outside reply placed long)]
      · obtain ⟨message, next, _, sent, behind⟩ := loadBody_chunk pSgn reply placed finished
        obtain ⟨succeeds, taken⟩ := (chunksTaken_cons finished).mp taken
        rw [masked_succeeded succeeds] at sent
        rw [run_again sent]
        exact ih behind taken

/-! ## The call -/

section Call

variable (Data : Buffer UInt8 256) (Sign : Buffer UInt8 768) (Result : UInt32) (first : StepReply)

theorem loadStart_short (short : pData.length < 258) :
    loadStart pData Data Sign Result first = ([], .done .wrongSize) := if_pos short

theorem loadStart_header (enough : 258 ≤ pData.length) :
    ∃ state, Placed pData (pData.drop 256) state ∧
      loadStart pData Data Sign Result first =
        masked first (.updateStart (pData.take 256)) Result ([], .again state) := by
  have inside : 256 = 0 ∨ 0 + 256 ≤ pData.length := .inr (by omega)
  refine ⟨⟨256, pData.length - 256, Data, Sign, first.escape.Result⟩, ⟨rfl, ?_⟩, ?_⟩
  · rw [List.length_drop]
  · simp only [loadStart, if_neg (Nat.not_lt.mpr enough), Reads.bytes, if_pos inside, List.drop_zero]

/-- The header and what follows it are the module. -/
theorem flashed_of_sends {made : Call LoadState StepReply Sent LoadEnd} (enough : 258 ≤ pData.length)
    (sends : Sends (.mask :: .header (pData.take 256) ::
      transmission (chunks 256 (pData.drop 256)) pSgn) made.trace made.outcome) :
    Flashed pData pSgn made := by
  refine ⟨fun short => absurd short (Nat.not_lt.mpr enough), fun _ => ?_⟩
  refine ⟨pData.take 256, chunks 256 (pData.drop 256), ?_, ?_, ?_, sends⟩
  · rw [List.length_take]
    omega
  · exact fun chunk member => chunk_bounds (by decide) member
  · rw [flatten_chunks (by decide), List.take_append_drop]

theorem CtLoadModule_outside (reached : SignatureReached pData first replies) (long : 768 < pSgn.length) :
    (CtLoadModule pData pSgn Data Sign Result first replies).outcome = .done .outside := by
  obtain ⟨enough, succeeds, taken⟩ := reached
  obtain ⟨state, placed, started⟩ := loadStart_header Data Sign Result first enough
  rw [masked_succeeded succeeds] at started
  rw [CtLoadModule, started]
  exact run_outside placed long taken

/-- The module is flashed as it should be unless the call comes to a signature of more than 768 bytes. -/
theorem module_flashed_iff (pData pSgn : List UInt8) (replies : List StepReply) :
    Flashed pData pSgn (CtLoadModule pData pSgn Data Sign Result first replies) ↔
      (SignatureReached pData first replies → pSgn.length ≤ 768) := by
  by_cases short : pData.length < 258
  · refine iff_of_true ⟨fun _ => ?_, fun enough => absurd short (Nat.not_lt.mpr enough)⟩ ?_
    · rw [CtLoadModule, loadStart_short Data Sign Result first short]
      exact ⟨rfl, rfl⟩
    · exact fun reached => absurd short (Nat.not_lt.mpr reached.1)
  have enough : 258 ≤ pData.length := Nat.not_lt.mp short
  obtain ⟨state, placed, started⟩ := loadStart_header Data Sign Result first enough
  constructor
  · intro flashed reached
    by_contra long
    obtain ⟨_, _, _, _, _, sends⟩ := flashed.sent enough
    exact sends.inside (CtLoadModule_outside Data Sign Result first reached (Nat.not_le.mp long))
  · intro fits
    refine flashed_of_sends enough ?_
    by_cases succeeds : first.Succeeds
    · have later := @run_sends pData pSgn _ state replies placed fun taken => fits ⟨enough, succeeds, taken⟩
      rw [masked_succeeded succeeds] at started
      rw [CtLoadModule, started]
      exact (later.cons (.updateStart (pData.take 256))).cons .SetFlashMask
    · obtain ⟨trace, ended, stopped, sends⟩ :=
        @masked_failed first (.updateStart (pData.take 256)) succeeds Result ([], .again state)
      rw [CtLoadModule, started, stopped]
      have whole : (call (loadBody pData pSgn) (trace, .done ended) replies).trace = trace :=
        List.append_nil trace
      rw [whole]
      exact sends _

end Call

/-- A signature of 769 bytes behind a module of 258. -/
theorem longSignature_not_flashed :
    let taken : StepReply := ⟨none, ⟨none, 0⟩⟩
    ¬ Flashed (List.replicate 258 0x00) (List.replicate 769 0x00)
      (CtLoadModule (List.replicate 258 0x00) (List.replicate 769 0x00) default default 0 taken
        [taken, taken]) := by
  intro taken flashed
  have enough : 258 ≤ (List.replicate 258 (0x00 : UInt8)).length := by rw [List.length_replicate]
  have long : 768 < (List.replicate 769 (0x00 : UInt8)).length := by
    rw [List.length_replicate]
    decide
  obtain ⟨_, _, _, _, _, sends⟩ := flashed.sent enough
  refine sends.inside (CtLoadModule_outside _ _ _ _ ⟨enough, ⟨rfl, rfl⟩, ?_⟩ long)
  have left : (List.replicate 258 (0x00 : UInt8)).drop 256 = [0x00, 0x00] := List.drop_replicate
  rw [left, chunksTaken_cons (by simp)]
  exact ⟨⟨rfl, rfl⟩, chunksTaken_nil⟩

end Cyberjack.Eca.Module
