import Cyberjack.Ctapi.Upload
import Cyberjack.Foundation.Chunks
import Cyberjack.Foundation.Loop
import Cyberjack.Foundation.Refinement

namespace Cyberjack.Libcyberjack

open Cyberjack.Foundation Cyberjack.Ctapi Cyberjack.Eca

/-! # Uploads of the client library

`Reader` of `driver.cpp` cuts keys, modules and signatures into special commands.
They go to `CT_special` over a way on which a command or its answer may be lost.
-/

/-- What becomes of a command. -/
inductive Fate where
  | answered
  | lost
  | unanswered
deriving Repr, DecidableEq

/-- `success` is whether the reader returns `CJ_SUCCESS`, `behind` what stands in `apdu` behind the command. -/
structure Delivery where
  fate : Fate
  success : Bool
  behind : Nat → UInt8

/-- `InOut` is `ErrorCode_IO`. -/
inductive ErrorCode where
  | Ok
  | Generic
  | InOut
deriving Repr, DecidableEq

def Delivery.command (delivery : Delivery) (apdu : List UInt8) : SpecialCommand :=
  ⟨fun place => apdu.getD place (delivery.behind place), apdu.length, delivery.success, 0⟩

/-- The response where `CT_API_RV_OK` comes back, what the reader is called with, and the context. -/
structure Returned where
  rsp : Option (List UInt8)
  calls : List ReaderCall
  context : FlashContext

def sendApdu (context : FlashContext) (delivery : Delivery) (apdu : List UInt8) : Returned :=
  let made := CT_special context (delivery.command apdu)
  match delivery.fate with
  | .lost => ⟨none, [], context⟩
  | .unanswered => ⟨none, made.1.calls, made.2⟩
  | .answered => ⟨if made.1.rv = 0 then some made.1.response else none, made.1.calls, made.2⟩

/-- `rsp[lr-2]!=0x90` -/
def refuses (rsp : List UInt8) : Bool := rsp.getD (rsp.length - 2) 0 != 0x90

def blockApdu (ins p1 : UInt8) (data : List UInt8) : List UInt8 :=
  CJ_SPECIAL_CLA :: ins :: p1 :: 0x00 :: UInt8.ofNat data.length :: data

/-- What a pass of the loop begins with; `pdata` are the bytes that are left. -/
structure Sending where
  context : FlashContext
  pdata : List UInt8
  first : Bool

abbrev Ended := ErrorCode × FlashContext

/-- `while(ldata)` -/
def loopHead (context : FlashContext) (pdata : List UInt8) (first : Bool) : Next Sending Ended :=
  if pdata.length = 0 then .done (.Ok, context) else .again ⟨context, pdata, first⟩

def blockBody (p1 : Bool → Bool → UInt8) (ins : UInt8) : Body Sending Delivery ReaderCall Ended :=
  fun state delivery =>
    let l := if state.pdata.length > 240 then 240 else state.pdata.length
    let apdu := blockApdu ins (p1 state.first (state.pdata.length - l < 1)) (state.pdata.take l)
    let sent := sendApdu state.context delivery apdu
    match sent.rsp with
    | none => (sent.calls, .done (.Generic, sent.context))
    | some rsp =>
        if refuses rsp then (sent.calls, .done (.Generic, sent.context))
        else (sent.calls, loopHead sent.context (state.pdata.drop l) false)

/-- The loop that `_sendData` and `updateKeys` have in common. -/
def sendBlocks (p1 : Bool → Bool → UInt8) (ins : UInt8) (context : FlashContext) (pdata : List UInt8)
    (deliveries : List Delivery) : Call Sending Delivery ReaderCall Ended :=
  call (blockBody p1 ins) ([], loopHead context pdata true) deliveries

def _sendData (ins : UInt8) (context : FlashContext) (pdata : List UInt8) (deliveries : List Delivery) :
    Call Sending Delivery ReaderCall Ended :=
  sendBlocks (fun first _ => if first then 0x20 else 0x00) ins context pdata deliveries

def sendModuleToFlash (context : FlashContext) (pdata : List UInt8) (deliveries : List Delivery) :
    Call Sending Delivery ReaderCall Ended :=
  _sendData CJ_SPECIAL_INS_UPLOADMOD context pdata deliveries

def sendSignatureToFlash (context : FlashContext) (pdata : List UInt8) (deliveries : List Delivery) :
    Call Sending Delivery ReaderCall Ended :=
  _sendData CJ_SPECIAL_INS_UPLOADSIG context pdata deliveries

def updateKeys (context : FlashContext) (pdata : List UInt8) (deliveries : List Delivery) :
    Call Sending Delivery ReaderCall Ended :=
  sendBlocks (fun first last => (if first then 0x20 else 0x00) ||| (if last then 0x80 else 0x00))
    CJ_SPECIAL_INS_KEYUPDATE context pdata deliveries

def flash (context : FlashContext) (delivery : Delivery) : List ReaderCall × Ended :=
  let sent := sendApdu context delivery [CJ_SPECIAL_CLA, CJ_SPECIAL_INS_UPLOADFLASH, 0x00, 0x00]
  match sent.rsp with
  | none => (sent.calls, .InOut, sent.context)
  | some rsp => if refuses rsp then (sent.calls, .Generic, sent.context) else (sent.calls, .Ok, sent.context)

/-! ## What arrives in the driver -/

/-- The string of a context that a family fills. -/
def stringOf (family : Family) (context : FlashContext) : List UInt8 :=
  match family with
  | .uploadSig => context.signatureToFlash
  | _ => context.dataToFlash

def holding (family : Family) (context : FlashContext) (string : List UInt8) : FlashContext :=
  match family with
  | .uploadSig => { context with signatureToFlash := string }
  | _ => { context with dataToFlash := string }

/-- `count` commands are made, all but the last one are answered, and the last one is as asked. -/
def Reaches (count : Nat) (deliveries : List Delivery) (last : Delivery → Prop) : Prop :=
  ∃ front final rest, deliveries = front ++ final :: rest ∧ front.length + 1 = count ∧
    (∀ delivery ∈ front, delivery.fate = .answered) ∧ last final

def contextOf : Next Sending Ended → FlashContext
  | .again state => state.context
  | .done ended => ended.2

/-- What becomes of a string whose blocks are sent. -/
structure BlocksSent (family : Family) (string : List UInt8) (count : Nat) (context : FlashContext)
    (deliveries : List Delivery) (calls : List ReaderCall) (outcome : Next Sending Ended) : Prop where
  handed : family = .keyUpdate → Reaches count deliveries (·.fate ≠ .lost) → calls = [.CtKeyUpdate string]
  silent : ¬ (family = .keyUpdate ∧ Reaches count deliveries (·.fate ≠ .lost)) → calls = []
  succeeds : (∃ after, outcome = .done (.Ok, after)) ↔
    Reaches count deliveries fun final =>
      final.fate = .answered ∧ (family = .keyUpdate → final.success = true)
  holds : ∀ after, outcome = .done (.Ok, after) → after = holding family context string
  keeps : ∃ reached, contextOf outcome = holding family context reached
  returns : count ≤ deliveries.length → ¬ outcome.GoesOn

/-- The flags of the blocks: the first one is marked, and a block of keys that is the last one. -/
structure Marks (family : Family) (p1 : Bool → Bool → UInt8) : Prop where
  first : ∀ first last, p1 first last &&& 0x20 ≠ 0 ↔ first = true
  abort : ∀ first last, p1 first last &&& 0x40 = 0
  last : family = .keyUpdate → ∀ first last, p1 first last &&& 0x80 ≠ 0 ↔ last = true

section Blocks

variable {family : Family} {p1 : Bool → Bool → UInt8} {context : FlashContext} {delivery final : Delivery}
  {deliveries : List Delivery} {pdata data string : List UInt8} {first last : Bool} {count : Nat}
  {wanted : Delivery → Prop}

@[simp] theorem stringOf_holding : stringOf family (holding family context string) = string := by
  cases family <;> rfl

@[simp] theorem reader_holding : (holding family context string).reader = context.reader := by
  cases family <;> rfl

@[simp] theorem holding_holding (later : List UInt8) :
    holding family (holding family context string) later = holding family context later := by
  cases family <;> rfl

theorem holding_same : holding family context (stringOf family context) = context := by
  cases family <;> rfl

theorem not_reaches_nil : ¬ Reaches count [] wanted := by
  rintro ⟨front, final, rest, split, _⟩
  simp at split

theorem reaches_one : Reaches 1 (final :: deliveries) wanted ↔ wanted final := by
  constructor
  · rintro ⟨front, other, rest, split, length, _, meets⟩
    have none : front = [] := List.eq_nil_of_length_eq_zero (by omega)
    subst none
    simp only [List.nil_append, List.cons.injEq] at split
    exact split.1 ▸ meets
  · intro meets
    exact ⟨[], final, deliveries, rfl, rfl, by simp, meets⟩

theorem reaches_more : Reaches (count + 2) (delivery :: deliveries) wanted ↔
    delivery.fate = .answered ∧ Reaches (count + 1) deliveries wanted := by
  constructor
  · rintro ⟨front, final, rest, split, length, answered, meets⟩
    cases front with
    | nil => simp at length
    | cons head tail =>
        simp only [List.cons_append, List.cons.injEq] at split
        rw [List.forall_mem_cons] at answered
        refine ⟨split.1 ▸ answered.1, tail, final, rest, split.2, ?_, answered.2, meets⟩
        simpa using length
  · rintro ⟨here, front, final, rest, split, length, answered, meets⟩
    refine ⟨delivery :: front, final, rest, by rw [split, List.cons_append], by simp [length], ?_, meets⟩
    rw [List.forall_mem_cons]
    exact ⟨here, answered⟩

/-! ## One block -/

theorem bytesAt_block (ins flags : UInt8) :
    bytesAt (delivery.command (blockApdu ins flags data)).cmd 5 data.length = data := by
  apply List.ext_getElem
  · simp [bytesAt]
  · intro index _ inside
    have there : index + 5 < (blockApdu ins flags data).length := by
      simpa [blockApdu] using inside
    simp only [bytesAt, Delivery.command, List.getElem_map, List.getElem_range]
    rw [Nat.add_comm 5 index, List.getD_eq_getElem?_getD, List.getElem?_eq_getElem there]
    rfl

/-- A block of its family, with the flags of its place. -/
theorem special_block (marks : Marks family p1) (reader : context.reader = true) (short : data.length < 256) :
    let string := (if first then [] else stringOf family context) ++ data
    let refused := family = .keyUpdate ∧ last = true ∧ delivery.success = false
    CT_special context (delivery.command (blockApdu family.ins (p1 first last) data)) =
      (⟨if refused then -8 else 0, if refused then [] else [0x90, 0x00],
          if family = .keyUpdate ∧ last = true then [.CtKeyUpdate string] else [], data.length⟩,
        holding family context string) := by
  have size : (UInt8.ofNat data.length).toNat = data.length := by simp; omega
  have enough : ¬ 5 + data.length < 5 := by omega
  have firstFlag := marks.first first last
  have abortFlag : ¬ (p1 first last &&& 0x40 ≠ 0) := not_not.mpr (marks.abort first last)
  have payload := @bytesAt_block delivery data family.ins (p1 first last)
  have taken (old : List UInt8) :
      takeBlock old (delivery.command (blockApdu family.ins (p1 first last) data)) =
        .added ((if first then [] else old) ++ data) data.length := by
    have isFirst : (delivery.command (blockApdu family.ins (p1 first last) data)).First ↔ first = true := firstFlag
    have noAbort : ¬ (delivery.command (blockApdu family.ins (p1 first last) data)).Abort := abortFlag
    have length : ¬ (delivery.command (blockApdu family.ins (p1 first last) data)).cmd_len < 5 := by
      simp [Delivery.command, blockApdu]
    have count : ((delivery.command (blockApdu family.ins (p1 first last) data)).cmd 4).toNat = data.length := size
    simp only [takeBlock, if_neg noAbort, if_neg length, count, payload, isFirst]
  have present : ¬ context.reader = false := by simp [reader]
  have cla : ¬ (delivery.command (blockApdu family.ins (p1 first last) data)).cmd 0 ≠ CJ_SPECIAL_CLA :=
    not_not.mpr rfl
  have ins : (delivery.command (blockApdu family.ins (p1 first last) data)).cmd 1 = family.ins := rfl
  have succeeds : (delivery.command (blockApdu family.ins (p1 first last) data)).success = delivery.success := rfl
  rw [CT_special, if_neg cla, ins]
  cases family with
  | keyUpdate =>
      have lastFlag : (delivery.command (blockApdu Family.keyUpdate.ins (p1 first last) data)).Last ↔
          last = true := marks.last rfl first last
      simp only [Family.ins, if_true]
      rw [_specialKeyUpdate, if_neg present]
      simp only [Family.ins] at taken lastFlag succeeds ⊢
      simp only [taken, lastFlag, succeeds, true_and, holding, stringOf]
      cases last <;> cases delivery.success <;> simp
  | uploadMod =>
      have other : ¬ CJ_SPECIAL_INS_UPLOADMOD = CJ_SPECIAL_INS_KEYUPDATE := by decide
      simp only [Family.ins, if_neg other, if_true]
      rw [_specialUploadMod, if_neg present]
      simp only [Family.ins] at taken
      simp [taken, holding, stringOf]
  | uploadSig =>
      have other : ¬ CJ_SPECIAL_INS_UPLOADSIG = CJ_SPECIAL_INS_KEYUPDATE := by decide
      have another : ¬ CJ_SPECIAL_INS_UPLOADSIG = CJ_SPECIAL_INS_UPLOADMOD := by decide
      simp only [Family.ins, if_neg other, if_neg another, if_true]
      rw [_specialUploadSig, if_neg present]
      simp only [Family.ins] at taken
      simp [taken, holding, stringOf]

/-! ## One pass of the loop -/

/-- What the string of a family becomes with the block that begins here. -/
def grown (family : Family) (state : Sending) : List UInt8 :=
  (if state.first then [] else stringOf family state.context) ++ state.pdata.take 240

/-- The reader is called with the last block of the keys. -/
def handed (family : Family) (state : Sending) : List ReaderCall :=
  if family = .keyUpdate ∧ state.pdata.length ≤ 240 then [.CtKeyUpdate (grown family state)] else []

theorem taken_length : (if pdata.length > 240 then 240 else pdata.length) = min 240 pdata.length := by
  split <;> omega

theorem take_taken : pdata.take (min 240 pdata.length) = pdata.take 240 := by
  rw [← List.take_take, List.take_length]

theorem drop_taken : pdata.drop (min 240 pdata.length) = pdata.drop 240 := by
  by_cases long : 240 ≤ pdata.length
  · rw [Nat.min_eq_left long]
  · rw [Nat.min_eq_right (by omega), List.drop_length, List.drop_eq_nil_of_le (by omega)]

variable {state : Sending}

theorem pass_lost (ins : UInt8) (lost : delivery.fate = .lost) :
    blockBody p1 ins state delivery = ([], .done (.Generic, state.context)) := by
  simp [blockBody, sendApdu, lost]

theorem pass_sent (marks : Marks family p1) (reader : state.context.reader = true) :
    CT_special state.context (delivery.command (blockApdu family.ins
        (p1 state.first (decide (state.pdata.length - min 240 state.pdata.length < 1)))
        (state.pdata.take 240))) =
      (⟨if family = .keyUpdate ∧ state.pdata.length ≤ 240 ∧ delivery.success = false then -8 else 0,
          if family = .keyUpdate ∧ state.pdata.length ≤ 240 ∧ delivery.success = false then [] else [0x90, 0x00],
          handed family state, (state.pdata.take 240).length⟩,
        holding family state.context (grown family state)) := by
  have short : (state.pdata.take 240).length < 256 := by
    rw [List.length_take]
    omega
  have atEnd : state.pdata.length - min 240 state.pdata.length < 1 ↔ state.pdata.length ≤ 240 := by omega
  rw [special_block marks reader short]
  simp only [atEnd, decide_eq_true_eq, handed, grown]

theorem pass_unanswered (marks : Marks family p1) (reader : state.context.reader = true)
    (unanswered : delivery.fate = .unanswered) :
    blockBody p1 family.ins state delivery =
      (handed family state, .done (.Generic, holding family state.context (grown family state))) := by
  simp only [blockBody, sendApdu, taken_length, take_taken, unanswered, pass_sent marks reader]

theorem pass_answered (marks : Marks family p1) (reader : state.context.reader = true)
    (answered : delivery.fate = .answered) :
    blockBody p1 family.ins state delivery =
      (handed family state,
        if family = .keyUpdate ∧ state.pdata.length ≤ 240 ∧ delivery.success = false then
          .done (.Generic, holding family state.context (grown family state))
        else loopHead (holding family state.context (grown family state)) (state.pdata.drop 240) false) := by
  simp only [blockBody, sendApdu, taken_length, take_taken, drop_taken, answered, pass_sent marks reader]
  by_cases refused : family = .keyUpdate ∧ state.pdata.length ≤ 240 ∧ delivery.success = false
  · simp [refused]
  · simp [refused, refuses]

/-! ## The loop -/

theorem sent_nothing (context : FlashContext) (more : pdata ≠ []) :
    BlocksSent family string (chunks 240 pdata).length context [] [] (.again ⟨context, pdata, first⟩) where
  handed _ arrives := absurd arrives not_reaches_nil
  silent _ := rfl
  succeeds := by
    refine ⟨?_, fun arrives => absurd arrives not_reaches_nil⟩
    rintro ⟨after, ended⟩
    contradiction
  holds := by simp
  keeps := ⟨stringOf family context, holding_same.symm⟩
  returns := by
    rw [chunks_of_ne_nil more (by decide)]
    simp

theorem sent_last (marks : Marks family p1) (reader : state.context.reader = true)
    (whole : state.pdata.length ≤ 240) :
    BlocksSent family ((if state.first then [] else stringOf family state.context) ++ state.pdata) 1
      state.context (delivery :: deliveries) (blockBody p1 family.ins state delivery).1
      (blockBody p1 family.ins state delivery).2 := by
  have all : grown family state =
      (if state.first then [] else stringOf family state.context) ++ state.pdata := by
    rw [grown, List.take_of_length_le whole]
  have behind : loopHead (holding family state.context (grown family state)) (state.pdata.drop 240) false =
      .done (.Ok, holding family state.context (grown family state)) := by
    simp [loopHead, whole]
  cases fate : delivery.fate with
  | lost =>
      rw [pass_lost _ fate]
      refine ⟨?_, fun _ => rfl, ?_, by simp, ⟨_, holding_same.symm⟩, fun _ goesOn => goesOn⟩
      · intro _ arrives
        exact absurd fate (reaches_one.mp arrives)
      · simp [reaches_one, fate]
  | unanswered =>
      rw [pass_unanswered marks reader fate]
      refine ⟨?_, ?_, ?_, by simp, ⟨_, rfl⟩, fun _ goesOn => goesOn⟩
      · intro keys _
        rw [handed, if_pos ⟨keys, whole⟩, all]
      · intro silent
        simp_all [handed, reaches_one]
      · simp [reaches_one, fate]
  | answered =>
      rw [pass_answered marks reader fate, behind]
      refine ⟨?_, ?_, ?_, ?_, ?_, ?_⟩
      · intro keys _
        rw [handed, if_pos ⟨keys, whole⟩, all]
      · intro silent
        simp_all [handed, reaches_one]
      · simp only [reaches_one, fate, whole, true_and]
        cases success : delivery.success <;> by_cases keys : family = .keyUpdate <;> simp [keys]
      · intro after
        split
        · simp
        · simp only [Next.done.injEq, Prod.mk.injEq, true_and]
          intro same
          rw [← same, all]
      · split <;> exact ⟨_, rfl⟩
      · intro _
        split <;> exact fun goesOn => goesOn

theorem last_ends (marks : Marks family p1) (reader : state.context.reader = true)
    (whole : state.pdata.length ≤ 240) :
    ∃ ended, (blockBody p1 family.ins state delivery).2 = .done ended := by
  cases fate : delivery.fate with
  | lost => exact ⟨_, by rw [pass_lost _ fate]⟩
  | unanswered => exact ⟨_, by rw [pass_unanswered marks reader fate]⟩
  | answered =>
      rw [pass_answered marks reader fate]
      split
      · exact ⟨_, rfl⟩
      · exact ⟨_, by simp [loopHead, whole]; rfl⟩

/-- The pass of a block behind which others follow. -/
theorem middle_pass (marks : Marks family p1) (reader : state.context.reader = true)
    (long : ¬ state.pdata.length ≤ 240) :
    blockBody p1 family.ins state delivery = ([],
      match delivery.fate with
      | .lost => .done (.Generic, state.context)
      | .unanswered => .done (.Generic, holding family state.context (grown family state))
      | .answered =>
          .again ⟨holding family state.context (grown family state), state.pdata.drop 240, false⟩) := by
  have silent : handed family state = [] := by simp [handed, long]
  have some : ¬ (state.pdata.drop 240).length = 0 := by
    rw [List.length_drop]
    omega
  cases fate : delivery.fate with
  | lost => rw [pass_lost _ fate]
  | unanswered => rw [pass_unanswered marks reader fate, silent]
  | answered =>
      rw [pass_answered marks reader fate, silent, if_neg (by simp [long]), loopHead, if_neg some]

/-- A block in front of the last one is not answered: the call fails and the reader is not called. -/
theorem sent_stopped (fate : delivery.fate ≠ .answered) (reached : List UInt8) :
    BlocksSent family string (count + 2) context (delivery :: deliveries) []
      (.done (.Generic, holding family context reached)) where
  handed _ arrives := absurd (reaches_more.mp arrives).1 fate
  silent _ := rfl
  succeeds := by simp [reaches_more, fate]
  holds := by simp
  keeps := ⟨reached, rfl⟩
  returns _ goesOn := goesOn

/-- What is sent behind an answered block is sent of the whole string. -/
theorem sent_behind (answered : delivery.fate = .answered) {calls : List ReaderCall}
    {outcome : Next Sending Ended} {filled : List UInt8}
    (behind : BlocksSent family string (count + 1) (holding family context filled) deliveries calls outcome) :
    BlocksSent family string (count + 2) context (delivery :: deliveries) calls outcome where
  handed keys arrives := behind.handed keys (reaches_more.mp arrives).2
  silent other := behind.silent fun both => other ⟨both.1, reaches_more.mpr ⟨answered, both.2⟩⟩
  succeeds := by
    rw [behind.succeeds, reaches_more]
    exact ⟨fun later => ⟨answered, later⟩, fun both => both.2⟩
  holds after ended := by
    rw [behind.holds after ended, holding_holding]
  keeps := by
    obtain ⟨reached, same⟩ := behind.keeps
    exact ⟨reached, by rw [same, holding_holding]⟩
  returns enough := behind.returns (by simpa using enough)

theorem run_blocks (marks : Marks family p1) (reader : context.reader = true) (more : pdata ≠ []) :
    BlocksSent family ((if first then [] else stringOf family context) ++ pdata) (chunks 240 pdata).length
      context deliveries (outputs (run (blockBody p1 family.ins) ⟨context, pdata, first⟩ deliveries).turns)
      (run (blockBody p1 family.ins) ⟨context, pdata, first⟩ deliveries).outcome := by
  induction deliveries generalizing context pdata first with
  | nil => exact sent_nothing context more
  | cons delivery deliveries ih =>
      rw [chunks_of_ne_nil more (by decide), List.length_cons]
      by_cases whole : pdata.length ≤ 240
      · have left : chunks 240 (pdata.drop 240) = [] := by
          rw [List.drop_eq_nil_of_le whole, chunks_nil]
        have last := @sent_last family p1 delivery deliveries ⟨context, pdata, first⟩ marks reader whole
        obtain ⟨ended, ends⟩ := @last_ends family p1 delivery ⟨context, pdata, first⟩ marks reader whole
        rw [left, List.length_nil, run_ends ends, outputs_singleton]
        rwa [ends] at last
      · have some : pdata.drop 240 ≠ [] := by
          rw [ne_eq, List.drop_eq_nil_iff]
          exact whole
        have passed := @middle_pass family p1 delivery ⟨context, pdata, first⟩ marks reader whole
        obtain ⟨count, counted⟩ : ∃ count, (chunks 240 (pdata.drop 240)).length = count + 1 := by
          rw [chunks_of_ne_nil some (by decide)]
          exact ⟨_, rfl⟩
        rw [counted]
        cases fate : delivery.fate with
        | lost =>
            rw [fate] at passed
            rw [run_done passed, outputs_singleton]
            have stopped := @sent_stopped family context delivery deliveries
              ((if first then [] else stringOf family context) ++ pdata) count (by simp [fate])
              (stringOf family context)
            rwa [holding_same] at stopped
        | unanswered =>
            rw [fate] at passed
            rw [run_done passed, outputs_singleton]
            exact sent_stopped (by simp [fate]) _
        | answered =>
            rw [fate] at passed
            rw [run_again passed, outputs_cons, List.nil_append]
            have behind := @ih (holding family context (grown family ⟨context, pdata, first⟩))
              (pdata.drop 240) false (by simp [reader]) some
            rw [counted] at behind
            have whole : (if false then [] else
                  stringOf family (holding family context (grown family ⟨context, pdata, first⟩))) ++
                pdata.drop 240 = (if first then [] else stringOf family context) ++ pdata := by
              simp only [Bool.false_eq_true, if_false, stringOf_holding, grown, List.append_assoc,
                List.take_append_drop]
            rw [whole] at behind
            exact sent_behind fate behind

theorem sendBlocks_sent (marks : Marks family p1) (reader : context.reader = true) (more : pdata ≠ []) :
    BlocksSent family pdata (chunks 240 pdata).length context deliveries
      (sendBlocks p1 family.ins context pdata deliveries).trace
      (sendBlocks p1 family.ins context pdata deliveries).outcome := by
  have started : loopHead context pdata true = .again ⟨context, pdata, true⟩ := by
    simp [loopHead, more]
  have whole := @run_blocks family p1 context deliveries pdata true marks reader more
  simp only [if_true, List.nil_append] at whole
  simpa only [sendBlocks, started, call, Call.trace, List.nil_append] using whole

end Blocks

theorem sendData_marks (family : Family) (upload : family ≠ .keyUpdate) :
    Marks family fun first _ => if first then 0x20 else 0x00 where
  first := by decide
  abort := by decide
  last keys := absurd keys upload

theorem updateKeys_marks :
    Marks .keyUpdate fun first last => (if first then 0x20 else 0x00) ||| (if last then 0x80 else 0x00) where
  first := by decide
  abort := by decide
  last _ := by decide

variable {context : FlashContext} {pdata pSgn : List UInt8}

/-- The reader gets the keys whole and at most once, exactly where the last of their blocks arrives. -/
theorem updateKeys_exact (reader : context.reader = true) (more : pdata ≠ []) (deliveries : List Delivery) :
    BlocksSent .keyUpdate pdata (chunks 240 pdata).length context deliveries
      (updateKeys context pdata deliveries).trace (updateKeys context pdata deliveries).outcome :=
  sendBlocks_sent updateKeys_marks reader more

/-- A context of a connected reader in which an upload has been left half way. -/
def startedContext : FlashContext := ⟨true, [0x77, 0x88], [0x99]⟩

/-- A certificate of three blocks. -/
def startedKeys : List UInt8 := 0x7F :: 0x21 :: List.replicate 500 0x30

/-- The answer to the last block does not come back. -/
def startedDeliveries : List Delivery :=
  [⟨.answered, true, fun _ => 0⟩, ⟨.answered, true, fun _ => 0⟩, ⟨.unanswered, true, fun _ => 0⟩]

theorem updateKeys_exact_started :
    BlocksSent .keyUpdate startedKeys (chunks 240 startedKeys).length startedContext startedDeliveries
      (updateKeys startedContext startedKeys startedDeliveries).trace
      (updateKeys startedContext startedKeys startedDeliveries).outcome :=
  updateKeys_exact rfl (List.cons_ne_nil _ _) startedDeliveries

end Cyberjack.Libcyberjack
