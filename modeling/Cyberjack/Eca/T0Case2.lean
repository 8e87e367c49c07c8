import Cyberjack.Eca.T0Case4
import Cyberjack.Eca.Transfer

namespace Cyberjack.Eca.Case2

open Cyberjack.Foundation

/-! # T=0 case 2

The branch of `_IfdTransmit` of `EC30Reader.cpp` for a command of five bytes over
T=0, with one pass for each reply: the inner loop repeats a command with the length
in a 6Cxx, the outer one follows a 61xx.
-/

/-- The locals; `head` is `sbuffer[0..4)` and `ges_len` how far `response` has been moved. -/
structure State (response_len : UInt16) where
  head : List UInt8
  Le : UInt8
  La : UInt8
  rbuffer : Buffer UInt8 258
  rlen : Nat
  ges_len : Nat
  response : Buffer UInt8 response_len.toNat

variable {response_len : UInt16}

abbrev Pass (response_len : UInt16) := List Event × Next (State response_len) (Outcome response_len.toNat)

def fault : Pass response_len := ([], .done .fault)

/-- `sbuffer[4]=La=rbuffer[1]`, and the next `ccidTransmit`. -/
def retransmit (state : State response_len) (La : UInt8) : Pass response_len :=
  ([.transmitted (state.head ++ [La])], .again { state with La })

/-- The outer loop is entered again with the status word `61 Le`. -/
def getResponse (state : State response_len) (Le : UInt8) : Pass response_len :=
  match state.rbuffer.store? 0 [0x6C, Le] with
  | none => fault
  | some rbuffer => retransmit { state with head := [0x00, 0xC0, 0x00, 0x00], Le, rbuffer } Le

/-- The reply goes to `response`. -/
def storeReply (m_ApduNorm : ApduNorm) (state : State response_len) : Pass response_len :=
  if state.ges_len + state.rlen > response_len.toNat then
    ([], .done (.returned .bufferTooSmall state.response 0))
  else
    match state.rbuffer.load? 0 state.rlen with
    | none => fault
    | some bytes =>
        match state.response.store? state.ges_len bytes with
        | none => fault
        | some response =>
            let ges_len := uint16 (state.ges_len + ((state.rlen : Int) - 2))
            if m_ApduNorm = .pcsc then ([], .done (.returned .success response (uint16 (ges_len + 2))))
            else
              match state.rbuffer.load? ((state.rlen : Int) - 2) 2 with
              | some [sw1, sw2] =>
                  if sw1 = 0x61 then getResponse { state with ges_len, response } sw2
                  else ([], .done (.returned .success response (uint16 (ges_len + 2))))
              | _ => fault

/-- The reply to a corrected length is cut. -/
def State.Cuts (state : State response_len) : Prop := state.Le ≠ 0 ∧ state.Le < state.La

instance (state : State response_len) : Decidable state.Cuts := inferInstanceAs (Decidable (_ ∧ _))

/-- `memmove(rbuffer+Le,rbuffer+La,2)` -/
def cutReply (state : State response_len) : Option (State response_len) :=
  if state.Cuts then
    match state.rbuffer.load? state.La.toNat 2 with
    | none => none
    | some sw =>
        match state.rbuffer.store? state.Le.toNat sw with
        | none => none
        | some rbuffer => some { state with rbuffer, rlen := state.Le.toNat + 2 }
  else some state

/-- `rlen==2 && rbuffer[0]==0x6C` -/
def State.Corrects (state : State response_len) : Prop := state.rlen = 2 ∧ state.rbuffer.get 0 = 0x6C

instance (state : State response_len) : Decidable state.Corrects := inferInstanceAs (Decidable (_ ∧ _))

/-- One pass, behind the call of `ccidTransmit`. -/
def body (m_ApduNorm : ApduNorm) (state : State response_len) (reply : CcidReply) : Pass response_len :=
  let done := ccidTransmit (state.head ++ [state.La]) 258 reply
  if done.2.1 ≠ .success then (done.1, .done (.returned done.2.1 state.response response_len.toNat))
  else
    match state.rbuffer.store? 0 done.2.2 with
    | none => fault
    | some rbuffer =>
        let state := { state with rbuffer, rlen := done.2.2.length }
        if m_ApduNorm = .pcsc then storeReply m_ApduNorm state
        else if state.rlen < 2 then ([], .done (.returned .ioTimeout state.response 0))
        else
          match cutReply state with
          | none => fault
          | some state =>
              if state.Corrects then retransmit state (state.rbuffer.get 1)
              else storeReply m_ApduNorm state

/-- A command of five bytes. -/
structure Apdu where
  header : List UInt8
  size : header.length = 4
  Le : UInt8

def start (apdu : Apdu) (response : Buffer UInt8 response_len.toNat) (rbuffer : Buffer UInt8 258) : State response_len where
  head := apdu.header
  Le := apdu.Le
  La := apdu.Le
  rbuffer := rbuffer.store 0 [0x6C, apdu.Le] (by simp)
  rlen := 2
  ges_len := 0
  response := response

abbrev Turns (response_len : UInt16) := List (Turn (State response_len) CcidReply Event)

/-- `rbuffer` holds anything before. -/
def _IfdTransmit_case2 (m_ApduNorm : ApduNorm) (apdu : Apdu) (response : Buffer UInt8 response_len.toNat)
    (rbuffer : Buffer UInt8 258) (replies : List CcidReply) :
    Run (State response_len) CcidReply Event (Outcome response_len.toNat) :=
  run (body m_ApduNorm) (start apdu response rbuffer) replies

/-! ## What the response should be -/

/-- A reply that asks for the command with another length. -/
def Repeats (tpdu : List UInt8) : Prop := tpdu.length = 2 ∧ tpdu.head? = some 0x6C

instance (tpdu : List UInt8) : Decidable (Repeats tpdu) := inferInstanceAs (Decidable (_ ∧ _))

/-- How many bytes a length asks for. -/
def asked (Le : UInt8) : Nat := if Le = 0 then 256 else Le.toNat

/-- The length in a status word 6Cxx or 61xx. -/
def xx (tpdu : List UInt8) : UInt8 := tpdu.getLastD 0

/-- The length that is asked for next, and the data so far. -/
def collect (spec : UInt8 × List UInt8) (reply : CcidReply) : UInt8 × List UInt8 :=
  if Repeats reply.abData then spec
  else (xx reply.abData, spec.2 ++ (dataField reply.abData).take (asked spec.1))

def collected (le : UInt8) (past : Turns response_len) : UInt8 × List UInt8 :=
  past.foldl (fun spec turn => collect spec turn.input) (le, [])

/-- A reply behind which another one is asked for. -/
def Announces (tpdu : List UInt8) : Prop := Repeats tpdu ∨ (statusWord tpdu).head? = some 0x61

/-- What is known while a reply is awaited: the response begins with the data so far, and the
length that was announced last is asked for. -/
structure Collects (m_ApduNorm : ApduNorm) (le : UInt8) (past : Turns response_len) (state : State response_len) :
    Prop where
  Le : state.Le = (collected le past).1
  data : state.response.cells.take state.ges_len = (collected le past).2
  room : state.ges_len ≤ response_len.toNat
  announced : ∀ front last, past = front ++ [last] → Announces last.input.abData
  first : m_ApduNorm = .pcsc → past = []

/-- What is known where the function has returned; for PC/SC the only reply is left as it is. -/
def Returned (m_ApduNorm : ApduNorm) (le : UInt8) (past : Turns response_len) (outcome : Outcome response_len.toNat) :
    Prop :=
  ∀ response length, outcome = .returned .success response length →
    length ≤ response_len.toNat ∧ ∃ front last, past = front ++ [last] ∧
      if m_ApduNorm = .pcsc then front = [] ∧ response.cells.take length = last.input.abData
      else response.cells.take length = (collected le past).2 ++ statusWord last.input.abData

/-- How much of a reply is taken. -/
def State.taken (state : State response_len) (reply : CcidReply) : Nat :=
  if state.Cuts then state.Le.toNat + 2 else reply.abData.length

/-- A reply that is cut has its status word behind the length it was asked for, and no other
reply has more data than that. -/
def Regular (m_ApduNorm : ApduNorm) (state : State response_len) (reply : CcidReply) : Prop :=
  m_ApduNorm ≠ .pcsc → (ccidTransmit (state.head ++ [state.La]) 258 reply).2.1 = .success →
    2 ≤ reply.abData.length → state.ges_len + state.taken reply ≤ response_len.toNat →
      if state.Cuts then
        state.Le.toNat + 2 ≤ reply.abData.length ∧
          ∀ rbuffer ∈ state.rbuffer.store? 0 reply.abData,
            rbuffer.load? state.La.toNat 2 = some (statusWord reply.abData)
      else reply.abData.length ≤ asked state.Le + 2

/-! ## One reply -/

section Steps

variable {m_ApduNorm : ApduNorm} {le : UInt8} {past : Turns response_len} {state : State response_len}
  {reply : CcidReply}

theorem collected_snoc (turn : Turn (State response_len) CcidReply Event) :
    collected le (past ++ [turn]) = collect (collected le past) turn.input := by
  rw [collected, List.foldl_append]
  rfl

theorem Collects.length (collects : Collects m_ApduNorm le past state) :
    state.ges_len = (collected le past).2.length := by
  have size := state.response.length_cells
  have room := collects.room
  rw [← collects.data, List.length_take]
  omega

theorem length_statusWord {tpdu : List UInt8} (whole : 2 ≤ tpdu.length) : (statusWord tpdu).length = 2 := by
  rw [statusWord, List.length_drop]
  omega

theorem statusWord_pair {tpdu : List UInt8} (whole : 2 ≤ tpdu.length) :
    ∃ sw1, statusWord tpdu = [sw1, xx tpdu] := by
  have split := dataField_statusWord tpdu
  obtain ⟨sw1, second, pair⟩ := List.length_eq_two.mp (length_statusWord whole)
  refine ⟨sw1, ?_⟩
  rw [pair, xx, ← split, pair]
  simp

theorem getResponse_again (state : State response_len) (Le : UInt8) :
    ∃ output rbuffer, getResponse state Le =
      (output, .again { state with head := [0x00, 0xC0, 0x00, 0x00], Le, La := Le, rbuffer }) := by
  have stored := Buffer.store?_of_room state.rbuffer (show 0 + [0x6C, Le].length ≤ 258 by simp)
  unfold getResponse
  rw [show (0 : Int) = ((0 : Nat) : Int) from rfl, stored]
  exact ⟨_, _, rfl⟩

/-- The bytes that are stored go behind the data, and a 61 in front of the last asks for more. -/
theorem storeReply_iso (norm : m_ApduNorm ≠ .pcsc) {data : List UInt8} {sw1 sw2 : UInt8}
    (bytes : state.rbuffer.cells.take state.rlen = data ++ [sw1, sw2]) (small : state.rlen ≤ 258)
    (room : state.ges_len + state.rlen ≤ response_len.toNat) :
    ∃ response : Buffer UInt8 response_len.toNat,
      response.cells.take (state.ges_len + (data.length + 2)) =
          state.response.cells.take state.ges_len ++ (data ++ [sw1, sw2]) ∧
        storeReply m_ApduNorm state =
          if sw1 = 0x61 then getResponse { state with ges_len := state.ges_len + data.length, response } sw2
          else ([], .done (.returned .success response (state.ges_len + (data.length + 2)))) := by
  have size := state.rbuffer.length_cells
  have width := response_len.toNat_lt
  have long : state.rlen = data.length + 2 := by
    have lengths := congrArg List.length bytes
    rw [List.length_take] at lengths
    simp at lengths
    omega
  have read : state.rbuffer.load? 0 state.rlen = some (data ++ [sw1, sw2]) := by
    have loaded := Buffer.load?_of_room state.rbuffer (show 0 + state.rlen ≤ 258 by omega)
    rw [List.drop_zero, bytes] at loaded
    exact loaded
  have fits : state.ges_len + (data ++ [sw1, sw2]).length ≤ response_len.toNat := by
    rw [List.length_append]
    change state.ges_len + (data.length + 2) ≤ _
    omega
  have stored := Buffer.store?_of_room state.response fits
  have last : state.rbuffer.load? ((state.rlen : Int) - 2) 2 = some [sw1, sw2] := by
    have place : (state.rlen : Int) - 2 = (data.length : Nat) := by omega
    have loaded := Buffer.load?_of_room state.rbuffer (show data.length + 2 ≤ 258 by omega)
    rw [place, loaded]
    congr 1
    rw [List.take_drop, ← long, bytes]
    exact List.drop_left
  have counted : uint16 (state.ges_len + ((state.rlen : Int) - 2)) = state.ges_len + data.length := by
    have plain : (state.ges_len : Int) + ((state.rlen : Int) - 2) = (state.ges_len + data.length : Nat) := by omega
    rw [plain, uint16_of_range (by omega)]
  have ended : uint16 (((state.ges_len + data.length : Nat) : Int) + 2) = state.ges_len + (data.length + 2) := by
    have plain : ((state.ges_len + data.length : Nat) : Int) + 2 = (state.ges_len + (data.length + 2) : Nat) := by omega
    rw [plain, uint16_of_range (by omega)]
  have behind := Buffer.take_store state.response fits
  rw [List.length_append] at behind
  refine ⟨state.response.store state.ges_len (data ++ [sw1, sw2]) fits, behind, ?_⟩
  unfold storeReply
  rw [if_neg (Nat.not_lt.mpr room), read]
  dsimp only
  rw [stored]
  dsimp only
  rw [if_neg norm, last, counted]
  dsimp only
  rw [ended]

theorem collect_repeated (repeats : Repeats reply.abData) (turn : Turn (State response_len) CcidReply Event)
    (input : turn.input = reply) : collected le (past ++ [turn]) = collected le past := by
  rw [collected_snoc, input, collect, if_pos repeats]

theorem collect_taken (repeats : ¬ Repeats reply.abData) (turn : Turn (State response_len) CcidReply Event)
    (input : turn.input = reply) :
    collected le (past ++ [turn]) =
      (xx reply.abData, (collected le past).2 ++ (dataField reply.abData).take (asked (collected le past).1)) := by
  rw [collected_snoc, input, collect, if_neg repeats]

/-- Behind a reply that asks for another length nothing may be stored. -/
theorem repeats_not_stored (collects : Collects m_ApduNorm le past state) (norm : m_ApduNorm ≠ .pcsc)
    (repeats : Repeats reply.abData) {next : State response_len} {data word : List UInt8} (filled : data ≠ [])
    (output : List Event) {response : Buffer UInt8 response_len.toNat} (size : word.length = 2)
    (taken : response.cells.take (state.ges_len + (data.length + 2)) = (collected le past).2 ++ (data ++ word)) :
    (next.ges_len = state.ges_len + data.length → next.response = response →
        ¬ Collects m_ApduNorm le (past ++ [⟨state, reply, output⟩]) next) ∧
      ¬ Returned m_ApduNorm le (past ++ [⟨state, reply, output⟩])
        (.returned .success response (state.ges_len + (data.length + 2))) := by
  have some := List.length_pos_iff.mpr filled
  have length := collects.length
  constructor
  · intro moved same collected
    have lengths := collected.length
    rw [collect_repeated repeats _ rfl, moved] at lengths
    omega
  · intro returned
    obtain ⟨_, front, last, split, ends⟩ := returned response _ rfl
    obtain ⟨_, rfl⟩ := List.append_singleton_inj.mp split
    rw [if_neg norm, collect_repeated repeats _ rfl, taken] at ends
    have lengths := congrArg List.length ends
    rw [List.length_append, List.length_append, List.length_append, size, length_statusWord (Nat.le_of_eq repeats.1.symm)] at lengths
    omega

/-- Another reply is awaited rightly where the data are right and the status word is the one of the reply. -/
theorem collects_taken_iff (collects : Collects m_ApduNorm le past state) (norm : m_ApduNorm ≠ .pcsc)
    (taken : ¬ Repeats reply.abData) (whole : 2 ≤ reply.abData.length) {next : State response_len} {data : List UInt8}
    (stored : next.response.cells.take next.ges_len = (collected le past).2 ++ data)
    (room : next.ges_len ≤ response_len.toNat) (output : List Event) :
    Collects m_ApduNorm le (past ++ [⟨state, reply, output⟩]) next ↔
      data = (dataField reply.abData).take (asked state.Le) ∧ [0x61, next.Le] = statusWord reply.abData := by
  have spec := @collect_taken _ le past _ taken ⟨state, reply, output⟩ rfl
  rw [← collects.Le] at spec
  obtain ⟨first, word⟩ := statusWord_pair whole
  constructor
  · intro awaits
    have data_eq := awaits.data
    rw [stored, spec] at data_eq
    refine ⟨List.append_cancel_left data_eq, ?_⟩
    have length_eq : next.Le = xx reply.abData := by
      have asked := awaits.Le
      rwa [spec] at asked
    have announced := (awaits.announced past _ rfl).resolve_left taken
    dsimp only at announced
    rw [word, List.head?_cons, Option.some.injEq] at announced
    rw [word, announced, length_eq]
  · intro right
    have parts := right.2
    rw [word, List.cons.injEq, List.cons.injEq] at parts
    constructor
    · rw [spec]
      exact parts.2.1
    · rw [stored, spec, ← right.1]
    · exact room
    · intro earlier last split
      obtain ⟨_, rfl⟩ := List.append_singleton_inj.mp split
      right
      dsimp only
      rw [← right.2]
      rfl
    · intro pcsc
      exact absurd pcsc norm

/-- The response is right where its last data and its status word are. -/
theorem returned_taken_iff (collects : Collects m_ApduNorm le past state) (norm : m_ApduNorm ≠ .pcsc)
    (taken : ¬ Repeats reply.abData) (whole : 2 ≤ reply.abData.length) {response : Buffer UInt8 response_len.toNat}
    {data word : List UInt8} (size : word.length = 2)
    (stored : response.cells.take (state.ges_len + (data.length + 2)) = (collected le past).2 ++ (data ++ word))
    (room : state.ges_len + (data.length + 2) ≤ response_len.toNat) (output : List Event) :
    Returned m_ApduNorm le (past ++ [⟨state, reply, output⟩])
        (.returned .success response (state.ges_len + (data.length + 2))) ↔
      data = (dataField reply.abData).take (asked state.Le) ∧ word = statusWord reply.abData := by
  have spec := @collect_taken _ le past _ taken ⟨state, reply, output⟩ rfl
  rw [← collects.Le] at spec
  constructor
  · intro returned
    obtain ⟨_, earlier, last, split, ends⟩ := returned response _ rfl
    obtain ⟨_, rfl⟩ := List.append_singleton_inj.mp split
    rw [if_neg norm, stored, spec, List.append_assoc] at ends
    have parts := List.append_cancel_left ends
    have widths : word.length = (statusWord reply.abData).length := by rw [size, length_statusWord whole]
    exact List.append_inj' parts widths
  · intro right result length ended
    cases ended
    refine ⟨room, past, _, rfl, ?_⟩
    rw [if_neg norm, stored, spec, List.append_assoc, ← right.1, ← right.2]

/-- What is taken of a reply is right where its data and its status word are. -/
theorem stored_iff (collects : Collects m_ApduNorm le past state) (norm : m_ApduNorm ≠ .pcsc)
    {after : State response_len} (same : after.ges_len = state.ges_len ∧ after.response = state.response)
    {data : List UInt8} {sw1 sw2 : UInt8} (bytes : after.rbuffer.cells.take after.rlen = data ++ [sw1, sw2])
    (small : after.rlen ≤ 258) (whole : 2 ≤ reply.abData.length) (filled : Repeats reply.abData → data ≠ [])
    (room : state.ges_len + after.rlen ≤ response_len.toNat) (output : List Event) :
    (storeReply m_ApduNorm after).2.Satisfies
        (Collects m_ApduNorm le (past ++ [⟨state, reply, output⟩]))
        (Returned m_ApduNorm le (past ++ [⟨state, reply, output⟩])) ↔
      data = (dataField reply.abData).take (asked state.Le) ∧ [sw1, sw2] = statusWord reply.abData := by
  obtain ⟨response, stored, made⟩ := storeReply_iso norm bytes small (by rw [same.1]; exact room)
  rw [same.1, same.2, collects.data] at stored
  rw [same.1] at made
  obtain ⟨_, buffer, asks⟩ := getResponse_again { after with ges_len := state.ges_len + data.length, response } sw2
  rw [made]
  by_cases repeats : Repeats reply.abData
  · have nothing : dataField reply.abData = [] := by
      rw [dataField, repeats.1]
      exact List.take_zero
    obtain ⟨notNext, notEnd⟩ := repeats_not_stored collects norm repeats (filled repeats) output rfl stored
    constructor
    · intro holds
      split at holds
      · rw [asks] at holds
        exact absurd holds (notNext rfl rfl)
      · exact absurd holds notEnd
    · intro right
      rw [nothing, List.take_nil] at right
      exact absurd right.1 (filled repeats)
  · have long : after.rlen = data.length + 2 := by
      have lengths := congrArg List.length bytes
      rw [List.length_take, after.rbuffer.length_cells, Nat.min_eq_left small, List.length_append] at lengths
      exact lengths
    split
    · case isTrue more =>
        have front : response.cells.take (state.ges_len + data.length) = (collected le past).2 ++ data := by
          have shorter := congrArg (List.take (state.ges_len + data.length)) stored
          rw [List.take_take, Nat.min_eq_left (by omega), ← List.append_assoc,
            List.take_left' (by rw [List.length_append, collects.length])] at shorter
          exact shorter
        rw [asks, more]
        exact collects_taken_iff collects norm repeats whole front
          (show state.ges_len + data.length ≤ response_len.toNat by omega) output
    · exact returned_taken_iff collects norm repeats whole rfl stored (by omega) output

theorem returned_failure {result : IfdResult} (failed : result ≠ .success) {response : Buffer UInt8 response_len.toNat}
    {length : Nat} (past : Turns response_len) : Returned m_ApduNorm le past (.returned result response length) := by
  intro _ _ ended
  simp only [Outcome.returned.injEq] at ended
  exact absurd ended.1 failed

theorem storeReply_tooSmall (full : ¬ state.ges_len + state.rlen ≤ response_len.toNat) :
    storeReply m_ApduNorm state = ([], .done (.returned .bufferTooSmall state.response 0)) := by
  rw [storeReply, if_pos (Nat.lt_of_not_le full)]

/-- For PC/SC the reply is returned whatever it is. -/
theorem storeReply_pcsc (small : state.rlen ≤ 258) (early : state.ges_len = 0) :
    storeReply .pcsc state = ([], .done (.returned .bufferTooSmall state.response 0)) ∨
      ∃ response : Buffer UInt8 response_len.toNat, state.rlen ≤ response_len.toNat ∧
        response.cells.take state.rlen = state.rbuffer.cells.take state.rlen ∧
        storeReply .pcsc state = ([], .done (.returned .success response state.rlen)) := by
  by_cases room : state.ges_len + state.rlen ≤ response_len.toNat
  · right
    have size := state.rbuffer.length_cells
    have width := response_len.toNat_lt
    have long : (state.rbuffer.cells.take state.rlen).length = state.rlen := by
      rw [List.length_take]
      omega
    have read := Buffer.load?_of_room state.rbuffer (show 0 + state.rlen ≤ 258 by omega)
    have fits : 0 + (state.rbuffer.cells.take state.rlen).length ≤ response_len.toNat := by omega
    have stored := Buffer.store?_of_room state.response fits
    have behind := Buffer.take_store_zero state.response fits
    have counted : uint16 ((uint16 (((0 : Nat) : Int) + ((state.rlen : Int) - 2)) : Nat) + 2) = state.rlen := by
      rw [uint16, uint16]
      omega
    rw [long] at behind
    refine ⟨state.response.store 0 (state.rbuffer.cells.take state.rlen) fits, by omega, behind, ?_⟩
    unfold storeReply
    rw [if_neg (Nat.not_lt.mpr room), show (0 : Int) = ((0 : Nat) : Int) from rfl, read, List.drop_zero]
    dsimp only
    rw [early, stored]
    dsimp only
    rw [if_pos rfl, counted]
  · exact .inl (storeReply_tooSmall room)

theorem corrects_iff {rbuffer : Buffer UInt8 258} (begins : rbuffer.cells.take reply.abData.length = reply.abData) :
    ({ state with rbuffer, rlen := reply.abData.length } : State response_len).Corrects ↔ Repeats reply.abData := by
  unfold State.Corrects Repeats
  constructor
  · intro corrects
    refine ⟨corrects.1, ?_⟩
    have inside : 0 < reply.abData.length := by
      have two : reply.abData.length = 2 := corrects.1
      omega
    have first := Buffer.getD_of_take default begins inside
    have code : rbuffer.cells.getD 0 default = 0x6C := corrects.2
    rw [code] at first
    cases bytes : reply.abData with
    | nil => simp [bytes] at inside
    | cons head rest =>
        rw [bytes, List.getD_cons_zero] at first
        rw [List.head?_cons, ← first]
  · intro repeats
    refine ⟨repeats.1, ?_⟩
    have inside : 0 < reply.abData.length := by
      rw [repeats.1]
      decide
    have first := Buffer.getD_of_take default begins inside
    change rbuffer.cells.getD 0 default = 0x6C
    rw [first]
    cases bytes : reply.abData with
    | nil => simp [bytes] at inside
    | cons head rest =>
        have code := repeats.2
        rw [bytes, List.head?_cons, Option.some.injEq] at code
        rw [List.getD_cons_zero, code]

theorem uncut_iff (collects : Collects m_ApduNorm le past state) (norm : m_ApduNorm ≠ .pcsc)
    {rbuffer : Buffer UInt8 258} (begins : rbuffer.cells.take reply.abData.length = reply.abData)
    (small : reply.abData.length ≤ 258) (whole : 2 ≤ reply.abData.length) (output : List Event) :
    let after : State response_len := { state with rbuffer, rlen := reply.abData.length }
    (if after.Corrects then retransmit after (after.rbuffer.get 1) else storeReply m_ApduNorm after).2.Satisfies
        (Collects m_ApduNorm le (past ++ [⟨state, reply, output⟩]))
        (Returned m_ApduNorm le (past ++ [⟨state, reply, output⟩])) ↔
      (state.ges_len + reply.abData.length ≤ response_len.toNat → reply.abData.length ≤ asked state.Le + 2) := by
  intro after
  have atMost : (dataField reply.abData).length = reply.abData.length - 2 := by
    rw [dataField, List.length_take]
    omega
  by_cases repeats : Repeats reply.abData
  · rw [if_pos ((corrects_iff begins).mpr repeats)]
    constructor
    · intro _ _
      rw [repeats.1]
      omega
    · intro _
      constructor
      · rw [collect_repeated repeats _ rfl]
        exact collects.Le
      · rw [collect_repeated repeats _ rfl]
        exact collects.data
      · exact collects.room
      · intro earlier last split
        obtain ⟨_, rfl⟩ := List.append_singleton_inj.mp split
        exact .inl repeats
      · exact fun pcsc => absurd pcsc norm
  · rw [if_neg fun corrects => repeats ((corrects_iff begins).mp corrects)]
    by_cases room : state.ges_len + reply.abData.length ≤ response_len.toNat
    · obtain ⟨sw1, word⟩ := statusWord_pair whole
      have bytes : after.rbuffer.cells.take after.rlen = dataField reply.abData ++ [sw1, xx reply.abData] := by
        rw [← word, dataField_statusWord]
        exact begins
      have same : after.ges_len = state.ges_len ∧ after.response = state.response := ⟨rfl, rfl⟩
      rw [stored_iff collects norm same bytes small whole (fun again => absurd again repeats) room output, ← word]
      constructor
      · intro right _
        have lengths := congrArg List.length right.1
        rw [List.length_take, atMost] at lengths
        omega
      · intro short
        refine ⟨(List.take_of_length_le ?_).symm, rfl⟩
        have enough := short room
        omega
    · rw [storeReply_tooSmall room]
      exact ⟨fun _ full => absurd full room, fun _ => returned_failure (by decide) _⟩

theorem cut_iff (collects : Collects m_ApduNorm le past state) (norm : m_ApduNorm ≠ .pcsc) (cuts : state.Cuts)
    {rbuffer : Buffer UInt8 258} (begins : rbuffer.cells.take reply.abData.length = reply.abData)
    (whole : 2 ≤ reply.abData.length) {sw1 sw2 : UInt8} (room : state.Le.toNat + [sw1, sw2].length ≤ 258)
    (output : List Event) :
    let after : State response_len :=
      { state with rbuffer := rbuffer.store state.Le.toNat [sw1, sw2] room, rlen := state.Le.toNat + 2 }
    (if after.Corrects then retransmit after (after.rbuffer.get 1) else storeReply m_ApduNorm after).2.Satisfies
        (Collects m_ApduNorm le (past ++ [⟨state, reply, output⟩]))
        (Returned m_ApduNorm le (past ++ [⟨state, reply, output⟩])) ↔
      (state.ges_len + (state.Le.toNat + 2) ≤ response_len.toNat →
        state.Le.toNat + 2 ≤ reply.abData.length ∧ [sw1, sw2] = statusWord reply.abData) := by
  intro after
  have positive : 0 < state.Le.toNat := toNat_pos cuts.1
  have uncorrected : ¬ after.Corrects := by
    intro corrects
    have two : state.Le.toNat + 2 = 2 := corrects.1
    omega
  have limit : asked state.Le = state.Le.toNat := if_neg cuts.1
  have width := state.Le.toNat_lt
  have size := rbuffer.length_cells
  have long : (rbuffer.cells.take state.Le.toNat).length = state.Le.toNat := by
    rw [List.length_take]
    omega
  rw [if_neg uncorrected]
  by_cases fits : state.ges_len + (state.Le.toNat + 2) ≤ response_len.toNat
  · have bytes : after.rbuffer.cells.take after.rlen = rbuffer.cells.take state.Le.toNat ++ [sw1, sw2] :=
      Buffer.take_store rbuffer room
    have filled : Repeats reply.abData → rbuffer.cells.take state.Le.toNat ≠ [] := by
      intro _ none
      rw [none] at long
      simp at long
      omega
    have small : after.rlen ≤ 258 := by
      change state.Le.toNat + 2 ≤ 258
      omega
    have same : after.ges_len = state.ges_len ∧ after.response = state.response := ⟨rfl, rfl⟩
    rw [stored_iff collects norm same bytes small whole filled fits output, limit]
    have fieldLength : (dataField reply.abData).length = reply.abData.length - 2 := by
      rw [dataField, List.length_take]
      omega
    constructor
    · intro right _
      have lengths := congrArg List.length right.1
      rw [long, List.length_take, fieldLength] at lengths
      exact ⟨by omega, right.2⟩
    · intro right
      obtain ⟨enough, word⟩ := right fits
      refine ⟨?_, word⟩
      have shorter := congrArg (List.take state.Le.toNat) begins
      rw [List.take_take, Nat.min_eq_left (by omega)] at shorter
      rw [shorter, dataField, List.take_take, Nat.min_eq_left (by omega)]
  · rw [storeReply_tooSmall fits]
    exact ⟨fun _ full => absurd full fits, fun _ => returned_failure (by decide) _⟩

theorem cutReply_kept (cuts : ¬ state.Cuts) (rbuffer : Buffer UInt8 258) (rlen : Nat) :
    cutReply { state with rbuffer, rlen } = some { state with rbuffer, rlen } := if_neg cuts

theorem cutReply_moved (cuts : state.Cuts) (rbuffer : Buffer UInt8 258) (rlen : Nat) :
    ∃ sw1 sw2, rbuffer.load? state.La.toNat 2 = some [sw1, sw2] ∧
      ∃ room : state.Le.toNat + [sw1, sw2].length ≤ 258,
        cutReply { state with rbuffer, rlen } =
          some { state with rbuffer := rbuffer.store state.Le.toNat [sw1, sw2] room, rlen := state.Le.toNat + 2 } := by
  have Le := state.Le.toNat_lt
  have La := state.La.toNat_lt
  have size := rbuffer.length_cells
  have loaded := Buffer.load?_of_room rbuffer (show state.La.toNat + 2 ≤ 258 by omega)
  have two : ((rbuffer.cells.drop state.La.toNat).take 2).length = 2 := by
    rw [List.length_take, List.length_drop]
    omega
  obtain ⟨sw1, sw2, pair⟩ := List.length_eq_two.mp two
  rw [pair] at loaded
  have room : state.Le.toNat + [sw1, sw2].length ≤ 258 := by
    change state.Le.toNat + 2 ≤ 258
    omega
  have made : cutReply { state with rbuffer, rlen } =
      match rbuffer.load? state.La.toNat 2 with
      | none => none
      | some sw =>
          match rbuffer.store? state.Le.toNat sw with
          | none => none
          | some cut => some { state with rbuffer := cut, rlen := state.Le.toNat + 2 } := if_pos cuts
  refine ⟨sw1, sw2, loaded, room, ?_⟩
  rw [made, loaded]
  dsimp only
  rw [Buffer.store?_of_room rbuffer room]

/-- A reply that is received stands at the beginning of `rbuffer`. -/
theorem body_received (success : (ccidTransmit (state.head ++ [state.La]) 258 reply).2.1 = .success) :
    ∃ rbuffer, state.rbuffer.store? 0 reply.abData = some rbuffer ∧
      rbuffer.cells.take reply.abData.length = reply.abData ∧ reply.abData.length ≤ 258 ∧
      body m_ApduNorm state reply =
        let after : State response_len := { state with rbuffer, rlen := reply.abData.length }
        if m_ApduNorm = .pcsc then storeReply m_ApduNorm after
        else if after.rlen < 2 then ([], .done (.returned .ioTimeout after.response 0))
        else
          match cutReply after with
          | none => fault
          | some state =>
              if state.Corrects then retransmit state (state.rbuffer.get 1)
              else storeReply m_ApduNorm state := by
  obtain ⟨received, small⟩ := ccidTransmit_success success
  obtain ⟨rbuffer, stored, begins, _⟩ := state.rbuffer.store?_zero small
  refine ⟨rbuffer, stored, begins, small, ?_⟩
  unfold body
  rw [received]
  simp only [ne_eq, not_true_eq_false, if_false]
  rw [stored]

theorem body_failed (failed : (ccidTransmit (state.head ++ [state.La]) 258 reply).2.1 ≠ .success) :
    body m_ApduNorm state reply =
      ((ccidTransmit (state.head ++ [state.La]) 258 reply).1,
        .done (.returned (ccidTransmit (state.head ++ [state.La]) 258 reply).2.1 state.response response_len.toNat)) :=
  if_pos failed

theorem body_iff (collects : Collects m_ApduNorm le past state) :
    (body m_ApduNorm state reply).2.Satisfies
        (Collects m_ApduNorm le (past ++ [⟨state, reply, (body m_ApduNorm state reply).1⟩]))
        (Returned m_ApduNorm le (past ++ [⟨state, reply, (body m_ApduNorm state reply).1⟩])) ↔
      Regular m_ApduNorm state reply := by
  generalize outputs : (body m_ApduNorm state reply).1 = output
  by_cases success : (ccidTransmit (state.head ++ [state.La]) 258 reply).2.1 = .success
  · obtain ⟨rbuffer, stored, begins, small, made⟩ := @body_received _ m_ApduNorm _ _ success
    rw [made]
    dsimp only
    by_cases pcsc : m_ApduNorm = .pcsc
    · subst pcsc
      have none := collects.first rfl
      have early : state.ges_len = 0 := by
        rw [collects.length, none]
        rfl
      rw [if_pos rfl]
      constructor
      · exact fun _ norm => absurd rfl norm
      · intro _
        rcases @storeReply_pcsc _ { state with rbuffer, rlen := reply.abData.length }
          small early with full | ⟨response, room, taken, ended⟩
        · rw [full]
          exact returned_failure (by decide) _
        · rw [ended]
          intro result length returned
          cases returned
          refine ⟨room, past, _, rfl, ?_⟩
          rw [if_pos rfl]
          exact ⟨none, taken.trans begins⟩
    · rw [if_neg pcsc]
      by_cases short : reply.abData.length < 2
      · rw [if_pos short]
        exact ⟨fun _ _ _ whole => absurd short (Nat.not_lt.mpr whole), fun _ => returned_failure (by decide) _⟩
      · rw [if_neg short]
        have whole : 2 ≤ reply.abData.length := by omega
        by_cases cuts : state.Cuts
        · obtain ⟨sw1, sw2, loaded, room, moved⟩ :=
            cutReply_moved cuts rbuffer reply.abData.length
          rw [moved]
          dsimp only
          refine (cut_iff collects pcsc cuts begins whole room output).trans ?_
          unfold Regular State.taken
          rw [if_pos cuts, if_pos cuts]
          constructor
          · intro right _ _ _ inside
            refine ⟨(right inside).1, ?_⟩
            intro rbuffer cells
            cases stored.symm.trans cells
            rw [loaded, (right inside).2]
          · intro regular inside
            obtain ⟨enough, word⟩ := regular pcsc success whole inside
            refine ⟨enough, Option.some.inj ?_⟩
            rw [← loaded, word _ stored]
        · rw [cutReply_kept cuts]
          dsimp only
          refine (uncut_iff collects pcsc begins small whole output).trans ?_
          unfold Regular State.taken
          rw [if_neg cuts, if_neg cuts]
          exact ⟨fun enough _ _ _ inside => enough inside, fun regular inside => regular pcsc success whole inside⟩
  · rw [body_failed success]
    exact ⟨fun _ _ transmitted => absurd transmitted success, fun _ => returned_failure success _⟩

/-! ## Bounds -/

theorem getResponse_inside (state : State response_len) (Le : UInt8) :
    (getResponse state Le).2 ≠ .done .fault := by
  obtain ⟨output, rbuffer, asks⟩ := getResponse_again state Le
  rw [asks]
  simp

theorem storeReply_inside (small : state.rlen ≤ 258) (whole : m_ApduNorm ≠ .pcsc → 2 ≤ state.rlen) :
    (storeReply m_ApduNorm state).2 ≠ .done .fault := by
  have size := state.rbuffer.length_cells
  by_cases room : state.ges_len + state.rlen ≤ response_len.toNat
  · have read := Buffer.load?_of_room state.rbuffer (show 0 + state.rlen ≤ 258 by omega)
    have fits : state.ges_len + ((state.rbuffer.cells.drop 0).take state.rlen).length ≤ response_len.toNat := by
      rw [List.length_take, List.length_drop]
      omega
    unfold storeReply
    rw [if_neg (Nat.not_lt.mpr room), show (0 : Int) = ((0 : Nat) : Int) from rfl, read]
    dsimp only
    rw [Buffer.store?_of_room state.response fits]
    dsimp only
    split
    · simp
    · case isFalse norm =>
        have two := whole norm
        have place : (state.rlen : Int) - 2 = ((state.rlen - 2 : Nat) : Int) := by omega
        have last : (((state.rbuffer.cells.drop (state.rlen - 2)).take 2)).length = 2 := by
          rw [List.length_take, List.length_drop]
          omega
        obtain ⟨sw1, sw2, pair⟩ := List.length_eq_two.mp last
        rw [place, Buffer.load?_of_room state.rbuffer (show state.rlen - 2 + 2 ≤ 258 by omega), pair]
        dsimp only
        split
        · exact getResponse_inside _ _
        · simp
  · rw [storeReply_tooSmall room]
    simp

theorem body_inside (m_ApduNorm : ApduNorm) (state : State response_len) (reply : CcidReply) :
    (body m_ApduNorm state reply).2 ≠ .done .fault := by
  by_cases success : (ccidTransmit (state.head ++ [state.La]) 258 reply).2.1 = .success
  · obtain ⟨rbuffer, _, _, small, made⟩ := @body_received _ m_ApduNorm _ _ success
    rw [made]
    dsimp only
    split
    · case isTrue pcsc => exact storeReply_inside small fun norm => absurd pcsc norm
    · split
      · simp
      · case isFalse long =>
          by_cases cuts : state.Cuts
          · obtain ⟨sw1, sw2, loaded, room, moved⟩ := cutReply_moved cuts rbuffer reply.abData.length
            rw [moved]
            dsimp only
            split
            · simp [retransmit]
            · have width := state.Le.toNat_lt
              apply storeReply_inside
              · dsimp only
                omega
              · intro _
                dsimp only
                omega
          · rw [cutReply_kept cuts]
            dsimp only
            split
            · simp [retransmit]
            · exact storeReply_inside small fun _ => Nat.le_of_not_lt long
  · rw [body_failed success]
    simp

end Steps

/-! ## A run -/

theorem start_collects (m_ApduNorm : ApduNorm) (apdu : Apdu) (response : Buffer UInt8 response_len.toNat)
    (rbuffer : Buffer UInt8 258) : Collects m_ApduNorm apdu.Le [] (start apdu response rbuffer) where
  Le := rfl
  data := List.take_zero
  room := Nat.zero_le _
  announced := fun front last split => by simp at split
  first := fun _ => rfl

/-- The response is made of the replies at every point, and no array is left. -/
structure Assembles (m_ApduNorm : ApduNorm) (le : UInt8)
    (made : Run (State response_len) CcidReply Event (Outcome response_len.toNat)) : Prop where
  collects : ∀ front turn back, made.turns = front ++ turn :: back → Collects m_ApduNorm le front turn.before
  returned : ∀ outcome, made.outcome = .done outcome → Returned m_ApduNorm le made.turns outcome
  waiting : ∀ state, made.outcome = .again state → Collects m_ApduNorm le made.turns state

theorem case2_inside (m_ApduNorm : ApduNorm) (apdu : Apdu) (response : Buffer UInt8 response_len.toNat)
    (rbuffer : Buffer UInt8 258) (replies : List CcidReply) :
    (_IfdTransmit_case2 m_ApduNorm apdu response rbuffer replies).outcome ≠ .done .fault := by
  have holds := @run_invariant _ _ _ _ (body m_ApduNorm) (fun _ (_ : State response_len) => True)
    (fun _ outcome => outcome ≠ .fault)
    (fun past state reply _ => by
      have inside := body_inside m_ApduNorm state reply
      cases next : (body m_ApduNorm state reply).2 with
      | again _ => trivial
      | done outcome =>
          rw [next] at inside
          simpa using inside)
    [] (start apdu response rbuffer) trivial replies
  intro faulted
  change (run _ _ _).outcome = _ at faulted
  rw [faulted] at holds
  exact holds rfl

/-- In every run all accesses stay inside, and the response is assembled if and only if the
replies are regular. -/
theorem case2_assembles_iff (m_ApduNorm : ApduNorm) (apdu : Apdu) (response : Buffer UInt8 response_len.toNat)
    (rbuffer : Buffer UInt8 258) (replies : List CcidReply) :
    let made := _IfdTransmit_case2 m_ApduNorm apdu response rbuffer replies
    made.outcome ≠ .done .fault ∧
      (Assembles m_ApduNorm apdu.Le made ↔ Meets (Regular m_ApduNorm) made.turns) := by
  intro made
  refine ⟨case2_inside m_ApduNorm apdu response rbuffer replies, ?_⟩
  have holds := run_holds_iff (fun past state reply => @body_iff _ m_ApduNorm apdu.Le past state reply) []
    (start_collects m_ApduNorm apdu response rbuffer) replies
  refine Iff.trans ?_ holds
  constructor
  · intro assembles
    refine ⟨fun front turn back split => by simpa using assembles.collects front turn back split, ?_⟩
    change made.outcome.Satisfies (Collects m_ApduNorm apdu.Le ([] ++ made.turns)) _
    cases ended : made.outcome with
    | again state => exact assembles.waiting state ended
    | done outcome => exact assembles.returned outcome ended
  · intro holds
    have after := holds.after
    change made.outcome.Satisfies (Collects m_ApduNorm apdu.Le ([] ++ made.turns)) _ at after
    constructor
    · intro front turn back split
      simpa using holds.before front turn back split
    · intro outcome ended
      rw [ended] at after
      exact after
    · intro state ended
      rw [ended] at after
      exact after

/-- READ BINARY of four bytes. -/
def readBinary : Apdu := ⟨[0x00, 0xB0, 0x00, 0x00], rfl, 0x04⟩

/-- The card corrects the length and refuses the command then: its status word is replaced by
bytes that it has not sent. -/
theorem refusedRetry_not_assembled :
    let made := @_IfdTransmit_case2 16 .iso readBinary (.filled 16 0xAA) (.filled 258 0x55)
      [.ofTpdu [0x6C, 0x08], .ofTpdu [0x6A, 0x82]]
    (∃ response : Buffer UInt8 16, made.outcome = .done (.returned .success response 6) ∧
      response.cells.take 6 = [0x6A, 0x82, 0x55, 0x55, 0x55, 0x55]) ∧
      ¬ Assembles .iso readBinary.Le made := by
  refine ⟨⟨_, rfl, by decide⟩, ?_⟩
  intro assembles
  obtain ⟨_, front, last, split, ends⟩ := assembles.returned _ rfl _ _ rfl
  obtain ⟨_, rfl⟩ := List.append_singleton_inj.mp (split.symm.trans (List.append_cons [] _ [_]))
  rw [if_neg (by decide)] at ends
  exact absurd ends (by decide)

end Cyberjack.Eca.Case2
