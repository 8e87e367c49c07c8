import Cyberjack.Eca.PinBounds

namespace Cyberjack.Eca

open Cyberjack.Foundation

/-! # The buffer of the PIN commands

What PERFORM VERIFICATION and MODIFY VERIFICATION write into `buffer[260]`, and
what of it they pass on.
-/

/-! ## Writes -/

/-- Bytes that are written, and where. -/
abbrev BufferWrite := Nat × List UInt8

/-- A memory behind the writes. -/
def applied (memory : Nat → UInt8) (writes : List BufferWrite) : Nat → UInt8 :=
  writes.foldl (fun memory write => stored memory write.1 write.2) memory

@[simp] theorem applied_nil (memory : Nat → UInt8) : applied memory [] = memory := rfl

@[simp] theorem applied_cons (memory : Nat → UInt8) (write : BufferWrite) (rest : List BufferWrite) :
    applied memory (write :: rest) = applied (stored memory write.1 write.2) rest := rfl

theorem applied_append (memory : Nat → UInt8) (first second : List BufferWrite) :
    applied memory (first ++ second) = applied (applied memory first) second := by
  rw [applied, List.foldl_append]
  rfl

def InitialisedAt (writes : List BufferWrite) (index : Nat) : Prop :=
  ∃ write ∈ writes, write.1 ≤ index ∧ index < write.1 + write.2.length

instance (writes : List BufferWrite) (index : Nat) : Decidable (InitialisedAt writes index) :=
  inferInstanceAs (Decidable (∃ write ∈ writes, _))

@[simp] theorem initialisedAt_nil (index : Nat) : ¬ InitialisedAt [] index := by
  simp [InitialisedAt]

@[simp] theorem initialisedAt_cons {offset : Nat} {data : List UInt8} {rest : List BufferWrite} {index : Nat} :
    InitialisedAt ((offset, data) :: rest) index ↔
      (offset ≤ index ∧ index < offset + data.length) ∨ InitialisedAt rest index := by
  simp [InitialisedAt]

@[simp] theorem initialisedAt_append {first second : List BufferWrite} {index : Nat} :
    InitialisedAt (first ++ second) index ↔ InitialisedAt first index ∨ InitialisedAt second index := by
  simp [InitialisedAt, or_and_right, exists_or]

/-- The writes with bytes that are anyone's: the first one is copied out of a command, of which only
the first `known` bytes belong to it. -/
def knownWrites (known : Nat) : List BufferWrite → List BufferWrite
  | [] => []
  | (offset, data) :: rest => (offset, data.take known) :: rest

/-- A buffer of `size` bytes is written within its bounds, the bytes passed on have been written with
bytes of the command or by the handler, and no length that goes into it is cut off. -/
structure BufferPassed (size known : Nat) (memory : Nat → UInt8) (writes : List BufferWrite) (lengths : List Nat)
    (out : Nat → UInt8) (out_len : Nat) : Prop where
  made : out = applied memory writes
  inside : ∀ write ∈ writes, write.1 + write.2.length ≤ size
  bounded : out_len ≤ size
  initialised : ∀ index < out_len, InitialisedAt (knownWrites known writes) index
  unwrapped : ∀ length ∈ lengths, length < 256

theorem stored_stored (memory : Nat → UInt8) (offset : Nat) (first second : List UInt8) :
    stored (stored memory offset first) (offset + first.length) second = stored memory offset (first ++ second) := by
  funext index
  simp only [stored]
  by_cases before : index < offset
  · have front : ¬ offset + first.length ≤ index := by omega
    rw [if_neg front, if_neg (by omega), if_neg (by omega)]
  · by_cases inside : index < offset + first.length
    · rw [if_neg (by omega), if_pos (by omega), if_pos (by omega)]
      rw [List.getD_append _ _ _ _ (by omega)]
    · rw [if_pos (by omega), if_pos (by omega), if_pos (by omega)]
      rw [List.getD_append_right _ _ _ _ (by omega), List.getD_eq_default first _ (by omega)]
      congr 1
      omega

theorem stored_self (memory : Nat → UInt8) (offset : Nat) : stored memory offset [memory offset] = memory := by
  funext index
  simp only [stored]
  split
  · rcases Nat.eq_or_lt_of_le ‹offset ≤ index› with same | behind
    · rw [same]
      simp
    · rw [List.getD_eq_default]
      rw [List.length_singleton]
      omega
  · rfl

theorem stored_lc (memory : Nat → UInt8) {lc : Nat} (small : lc < 256) :
    (stored memory 4 [UInt8.ofNat lc] 4).toNat = lc := by
  simp only [stored, Nat.le_refl, if_true, Nat.sub_self, List.getD_cons_zero, UInt8.toNat_ofNat']
  exact Nat.mod_eq_of_lt small

/-! ## What the handlers write -/

/-- The two writes of an empty PIN block. -/
def pinBlock (position : Nat) : List BufferWrite := [(position, [0x2f]), (position + 1, List.replicate 7 0xff)]

/-- The template, and Lc where it has none. -/
def templateWrites (apdu : List UInt8) : List BufferWrite :=
  (0, apdu) :: if apdu.length = 4 then [(4, [0])] else []

/-- `buffer[4]` behind the template. -/
def templateLc (apdu : List UInt8) : Nat := (apdu.getD 4 0).toNat

/-- The length that raises Lc before it is cut off to a byte, if it does. -/
def raisedLc (lc length : Nat) : List Nat := if lc < length then [length] else []

/-- The lengths that the PIN block of PERFORM VERIFICATION gives `buffer[4]`. -/
def verificationLengths (control position : UInt8) (apdu : List UInt8) : List Nat :=
  if control &&& 3 = 2 then raisedLc (templateLc apdu) (position.toNat + 2) else []

def verificationWrites (control position : UInt8) (apdu : List UInt8) : List BufferWrite :=
  templateWrites apdu ++
    if control &&& 3 = 0 then [(4, [0])]
    else if control &&& 3 = 1 then if apdu.length ≤ 5 then [] else [(4, [0])]
    else
      (verificationLengths control position apdu).map (fun length => (4, [UInt8.ofNat length])) ++
        pinBlock (position.toNat - 1)

/-- What is passed on of the buffer, and the message it goes into. -/
structure Passed where
  out : Nat → UInt8
  out_len : Nat
  message : SecureMessage

def Verification.passed : Verification → Option Passed
  | .answered _ _ => none
  | .securePV arguments => some ⟨arguments.out, arguments.out_len, Eca.cjccid_SecurePV arguments⟩
  | .secureMV arguments OffsetNew =>
      some ⟨arguments.out, arguments.out_len, Eca.cjccid_SecureMV arguments OffsetNew⟩

/-- The PIN stands behind the control byte of its block in format 2. -/
def controlByte (control : UInt8) : Nat := if control &&& 3 = 2 then 1 else 0

/-- PERFORM VERIFICATION with a tag 52 of `control`, `position` and `apdu`, of which `known` bytes
belong to the command. -/
structure VerificationSafe (known : Nat) (memory : Nat → UInt8) (control position : UInt8) (apdu : List UInt8)
    (passed : Passed) : Prop where
  buffer : BufferPassed 260 known memory (verificationWrites control position apdu)
    (verificationLengths control position apdu) passed.out passed.out_len
  position : passed.message.position.toNat = position.toNat - 6 + controlByte control

/-- A template whose Lc is overwritten belongs to the command. -/
def TemplateKnown (known : Nat) (apdu : List UInt8) : Prop :=
  if apdu.length ≤ 5 then 4 ≤ known else apdu.length ≤ known

/-- The position fits in four bits, and the template belongs to the command.  With format 2 the block
ends in the buffer, and every byte up to Lc stands in the command's template or in the block, or is
the Lc that was raised. -/
def VerificationFits (known : Nat) (control position : UInt8) (apdu : List UInt8) : Prop :=
  if control &&& 3 = 2 then
    position.toNat ≤ 253 ∧
      ∀ index < max (templateLc apdu) (position.toNat + 2) + 5,
        index < min apdu.length known ∨ (index = 4 ∧ templateLc apdu < position.toNat + 2) ∨
          (position.toNat - 1 ≤ index ∧ index < position.toNat + 7)
  else
    position.toNat ≤ 21 ∧ TemplateKnown known apdu ∧ (control &&& 3 = 1 → apdu.length = 5 → 5 ≤ known)

/-! ## PERFORM VERIFICATION -/

variable {tags : UInt8 → Option (List UInt8)} {stack : Stack} {known : Nat} {timeout control position : UInt8}
  {apdu : List UInt8} {parameters : PinParameters} {passed : Passed}

theorem shifted_position : ∀ position : UInt8,
    ((((0x80 : UInt8) ||| (position <<< 3) ||| 1) &&& 0x78) >>> 3) = position &&& 0x0f ∧
      ((((0x80 : UInt8) ||| (position <<< 3) ||| 2) &&& 0x78) >>> 3) = position &&& 0x0f := by
  decide +kernel

theorem low_nibble (position : UInt8) : (position &&& 0x0f).toNat = position.toNat % 16 := by
  rw [UInt8.toNat_and]
  exact Nat.and_two_pow_sub_one_eq_mod position.toNat 4

/-- A position as the message says it, without an insertion offset. -/
theorem position_message {arguments : SecureArguments} (typed : arguments.PinType = 1 ∨ arguments.PinType = 2)
    (operation OffsetNew : UInt8) (length : Nat) (messages : List UInt8) :
    (arguments.message operation OffsetNew length messages).position = (arguments.PinPosition &&& 0x0f) + OffsetNew := by
  rcases typed with one | two
  · simp only [SecureMessage.position, SecureArguments.message, one, (shifted_position _).1]
  · simp only [SecureMessage.position, SecureArguments.message, two, (shifted_position _).2]

theorem passed_callSecure (typed : parameters.PinType = 1 ∨ parameters.PinType = 2) {format : UInt8}
    (called : (callSecure tags stack timeout format parameters).passed = some passed) :
    passed.out = parameters.buffer ∧ passed.out_len = parameters.outlen ∧
      passed.message.position =
        if format = 2 ∧ parameters.PinPosition > 1 then 1 + (parameters.PinPosition - 1)
        else parameters.PinPosition &&& 0x0f := by
  by_cases offset : format = 2 ∧ parameters.PinPosition > 1
  · simp only [callSecure, if_pos offset, Verification.passed, Option.some.injEq] at called
    rw [← called, if_pos offset]
    refine ⟨rfl, rfl, ?_⟩
    have first : (1 : UInt8) &&& 0x0f = 1 := by decide
    rw [cjccid_SecureMV, position_message typed]
    exact congrArg (· + (parameters.PinPosition - 1)) first
  · simp only [callSecure, if_neg offset, Verification.passed, Option.some.injEq] at called
    rw [← called, if_neg offset]
    refine ⟨rfl, rfl, ?_⟩
    rw [cjccid_SecurePV, position_message typed]
    exact UInt8.add_zero _

theorem controlByte_of_ne (other : control &&& 3 ≠ 2) : controlByte control = 0 := if_neg other

/-- The writes behind the template are the handler's own. -/
theorem initialisedAt_known {index : Nat} (later : List BufferWrite) :
    InitialisedAt (knownWrites known (templateWrites apdu ++ later)) index ↔
      index < min apdu.length known ∨ (apdu.length = 4 ∧ index = 4) ∨ InitialisedAt later index := by
  rw [templateWrites, List.cons_append, knownWrites, initialisedAt_cons, initialisedAt_append, List.length_take]
  have front : (0 ≤ index ∧ index < 0 + min known apdu.length) ↔ index < min apdu.length known := by omega
  rw [front]
  by_cases four : apdu.length = 4
  · have lc : (4 ≤ index ∧ index < 4 + 1) ↔ index = 4 := by omega
    rw [if_pos four, initialisedAt_cons, List.length_singleton, lc]
    simp only [initialisedAt_nil, or_false, four, true_and]
  · rw [if_neg four]
    simp only [initialisedAt_nil, four, false_and, false_or]

theorem templateKnown_iff (long : 4 ≤ apdu.length) {kept : List BufferWrite} (small : kept = [] ∨ kept = [(4, [0])]) :
    (∀ index < if apdu.length ≤ 5 then 5 else apdu.length,
      InitialisedAt (knownWrites known (templateWrites apdu ++ kept)) index) ↔
        TemplateKnown known apdu ∧ (kept = [] → apdu.length = 5 → 5 ≤ known) := by
  have own (index : Nat) : InitialisedAt kept index ↔ kept ≠ [] ∧ index = 4 := by
    rcases small with none | one
    · simp [none]
    · simp only [one, initialisedAt_cons, initialisedAt_nil, or_false, List.length_singleton, ne_eq, reduceCtorEq,
        not_false_eq_true, true_and]
      omega
  simp only [initialisedAt_known, own, TemplateKnown]
  by_cases none : kept = []
  · simp only [none, ne_eq, not_true_eq_false, false_and, or_false, true_implies]
    constructor
    · intro filled
      split at filled
      · have third := filled 3 (by omega)
        have fourth := filled 4 (by omega)
        rw [if_pos (by assumption)]
        omega
      · have last := filled (apdu.length - 1) (by omega)
        rw [if_neg (by assumption)]
        omega
    · intro fits index below
      split at below
      · rw [if_pos (by assumption)] at fits
        omega
      · rw [if_neg (by assumption)] at fits
        omega
  · simp only [none, ne_eq, not_false_eq_true, true_and, false_implies, and_true]
    constructor
    · intro filled
      split at filled
      · have third := filled 3 (by omega)
        rw [if_pos (by assumption)]
        omega
      · have last := filled (apdu.length - 1) (by omega)
        rw [if_neg (by assumption)]
        omega
    · intro fits index below
      split at below
      · rw [if_pos (by assumption)] at fits
        omega
      · rw [if_neg (by assumption)] at fits
        omega

theorem initialisedAt_pinBlock {place index : Nat} :
    InitialisedAt (pinBlock place) index ↔ place ≤ index ∧ index < place + 8 := by
  simp only [pinBlock, initialisedAt_cons, initialisedAt_nil, or_false, List.length_replicate,
    List.length_singleton]
  omega

theorem applied_template (memory : Nat → UInt8) (apdu : List UInt8) :
    applied memory (templateWrites apdu) = stored memory 0 (if apdu.length = 4 then apdu ++ [0] else apdu) := by
  rw [templateWrites, applied_cons]
  by_cases four : apdu.length = 4
  · rw [if_pos four, if_pos four, applied_cons, applied_nil, ← stored_stored, Nat.zero_add, four]
  · rw [if_neg four, if_neg four, applied_nil]

theorem applied_pinBlock (memory : Nat → UInt8) (place : Nat) :
    applied memory (pinBlock place) = stored memory place (0x2f :: List.replicate 7 0xff) :=
  stored_stored memory place [0x2f] (List.replicate 7 0xff)

theorem inside_template {write : BufferWrite} (long : 4 ≤ apdu.length) (short : apdu.length ≤ 255)
    (made : write ∈ templateWrites apdu) : write.1 + write.2.length ≤ 260 := by
  rw [templateWrites] at made
  rcases List.mem_cons.mp made with whole | lc
  · rw [whole]
    change 0 + apdu.length ≤ 260
    omega
  · split at lc
    · rw [List.mem_singleton.mp lc]
      decide
    · contradiction

/-- The formats that put the PIN into the template of the card. -/
theorem verification_template {memory : Nat → UInt8} (long : 4 ≤ apdu.length) (short : apdu.length ≤ 255)
    (other : control &&& 3 ≠ 2) (kept : List BufferWrite)
    (writes : verificationWrites control position apdu = templateWrites apdu ++ kept)
    (small : kept = [] ∨ kept = [(4, [0])])
    {out : Nat → UInt8} {out_len : Nat} (made : out = applied memory (verificationWrites control position apdu))
    (length : out_len = if apdu.length ≤ 5 then 5 else apdu.length) :
    BufferPassed 260 known memory (verificationWrites control position apdu)
        (verificationLengths control position apdu) out out_len ↔
      TemplateKnown known apdu ∧ (kept = [] → apdu.length = 5 → 5 ≤ known) := by
  rw [← templateKnown_iff long small, ← length, ← writes]
  refine ⟨fun passes => passes.initialised, fun filled => ⟨made, ?_, ?_, filled, ?_⟩⟩
  · intro write member
    rw [writes] at member
    rcases List.mem_append.mp member with template | later
    · exact inside_template long short template
    · rcases small with none | one
      · rw [none] at later
        contradiction
      · rw [one] at later
        rw [List.mem_singleton.mp later]
        decide
  · rw [length]
    split <;> omega
  · intro length member
    rw [verificationLengths, if_neg other] at member
    contradiction

/-- What the handler goes on with behind its checks of the position. -/
structure PositionAccepted (position : UInt8) (apdu : List UInt8) : Prop where
  long : 4 ≤ apdu.length
  low : 6 ≤ position.toNat
  high : apdu.length ≠ 4 → position.toNat ≤ apdu.length + 1

theorem toNat_position (low : 6 ≤ position.toNat) : (position - 6).toNat = position.toNat - 6 := by
  rw [UInt8.toNat_sub_of_le]
  · rfl
  · exact UInt8.le_iff_toNat_le.mpr low

theorem taglen_short (long : 4 ≤ apdu.length) :
    (if apdu.length = 4 then 7 else apdu.length + 2) = 7 ↔ apdu.length ≤ 5 := by
  split <;> omega

theorem outlen_template (long : 4 ≤ apdu.length) :
    (if (if apdu.length = 4 then 7 else apdu.length + 2) = 7 then 5
      else (if apdu.length = 4 then 7 else apdu.length + 2) - 2) = if apdu.length ≤ 5 then 5 else apdu.length := by
  by_cases short : apdu.length ≤ 5
  · rw [if_pos ((taglen_short long).mpr short), if_pos short]
  · rw [if_neg (fun same => short ((taglen_short long).mp same)), if_neg short, if_neg (by omega)]
    rfl

theorem low_position (low : 6 ≤ position.toNat) :
    ((position - 6) &&& 0x0f).toNat = position.toNat - 6 ↔ position.toNat ≤ 21 := by
  rw [low_nibble, toNat_position low]
  omega

theorem safe_iff_position (other : control &&& 3 ≠ 2) (low : 6 ≤ position.toNat)
    (buffer : BufferPassed 260 known stack.buffer (verificationWrites control position apdu)
        (verificationLengths control position apdu) passed.out passed.out_len ↔
      TemplateKnown known apdu ∧ (control &&& 3 = 1 → apdu.length = 5 → 5 ≤ known))
    (place : passed.message.position = (position - 6) &&& 0x0f) :
    VerificationSafe known stack.buffer control position apdu passed ↔
      VerificationFits known control position apdu := by
  rw [VerificationFits, if_neg other, ← low_position low, ← buffer]
  constructor
  · intro safe
    have position := safe.position
    rw [place, controlByte_of_ne other] at position
    exact ⟨position, safe.buffer⟩
  · intro fits
    refine ⟨fits.2, ?_⟩
    rw [place, controlByte_of_ne other]
    exact fits.1

theorem bcd_safe_iff (accepted : PositionAccepted position apdu) (short : apdu.length ≤ 255)
    (format : control &&& 3 = 0)
    (called : (callSecure tags stack timeout (control &&& 3) (pinBcd (control >>> 4) (position - 6)
      (stored stack.buffer 0 (if apdu.length = 4 then apdu ++ [0] else apdu))
      (if apdu.length = 4 then 7 else apdu.length + 2))).passed = some passed) :
    VerificationSafe known stack.buffer control position apdu passed ↔
      VerificationFits known control position apdu := by
  have other : control &&& 3 ≠ 2 := by
    rw [format]
    decide
  obtain ⟨out, length, place⟩ := passed_callSecure (.inl rfl) called
  have writes : verificationWrites control position apdu = templateWrites apdu ++ [(4, [0])] := by
    rw [verificationWrites, if_pos format]
  have buffer : BufferPassed 260 known stack.buffer (verificationWrites control position apdu)
        (verificationLengths control position apdu) passed.out passed.out_len ↔
      TemplateKnown known apdu ∧ (control &&& 3 = 1 → apdu.length = 5 → 5 ≤ known) := by
    rw [verification_template accepted.long short other _ writes (.inr rfl) ?_
      (length.trans (outlen_template accepted.long))]
    · refine and_congr_right fun _ => iff_of_true nofun fun ascii => ?_
      rw [format] at ascii
      contradiction
    · rw [out, writes, applied_append, applied_template]
      rfl
  rw [if_neg (fun both => other both.1)] at place
  exact safe_iff_position other accepted.low buffer place

theorem ascii_safe_iff (accepted : PositionAccepted position apdu) (short : apdu.length ≤ 255)
    (format : control &&& 3 = 1)
    (called : (callSecure tags stack timeout (control &&& 3) (pinAscii (control >>> 4) (position - 6)
      (stored stack.buffer 0 (if apdu.length = 4 then apdu ++ [0] else apdu))
      (if apdu.length = 4 then 7 else apdu.length + 2))).passed = some passed) :
    VerificationSafe known stack.buffer control position apdu passed ↔
      VerificationFits known control position apdu := by
  have other : control &&& 3 ≠ 2 := by
    rw [format]
    decide
  have notBcd : control &&& 3 ≠ 0 := by
    rw [format]
    decide
  obtain ⟨out, length, place⟩ := passed_callSecure (.inr rfl) called
  have writes : verificationWrites control position apdu =
      templateWrites apdu ++ if apdu.length ≤ 5 then [] else [(4, [0])] := by
    rw [verificationWrites, if_neg notBcd, if_pos format]
  have small : (if apdu.length ≤ 5 then [] else [(4, [0])]) = ([] : List BufferWrite) ∨
      (if apdu.length ≤ 5 then [] else [(4, [0])]) = ([(4, [0])] : List BufferWrite) := by
    split
    · exact .inl rfl
    · exact .inr rfl
  have buffer : BufferPassed 260 known stack.buffer (verificationWrites control position apdu)
        (verificationLengths control position apdu) passed.out passed.out_len ↔
      TemplateKnown known apdu ∧ (control &&& 3 = 1 → apdu.length = 5 → 5 ≤ known) := by
    rw [verification_template accepted.long short other _ writes small ?_
      (length.trans (outlen_template accepted.long))]
    · refine and_congr_right fun _ => ⟨fun fits _ five => fits (if_pos (by omega)) five, fun fits _ five => ?_⟩
      exact fits format five
    · rw [out, writes, applied_append, applied_template]
      by_cases short : apdu.length ≤ 5
      · rw [if_pos short, pinAscii, if_pos ((taglen_short accepted.long).mpr short)]
        rfl
      · rw [if_neg short, pinAscii, if_neg (fun same => short ((taglen_short accepted.long).mp same))]
        rfl
  rw [if_neg (fun both => other both.1)] at place
  exact safe_iff_position other accepted.low buffer place

theorem lc_template (memory : Nat → UInt8) (long : 4 ≤ apdu.length) :
    (stored memory 0 (if apdu.length = 4 then apdu ++ [0] else apdu) 4).toNat = templateLc apdu := by
  rw [templateLc]
  by_cases four : apdu.length = 4
  · rw [if_pos four, stored, if_pos (Nat.zero_le 4), List.getD_append_right _ _ _ _ (by omega), four,
      List.getD_eq_default apdu _ (by omega)]
    rfl
  · rw [if_neg four, stored, if_pos (Nat.zero_le 4), List.getD_eq_getElem _ _ (by omega),
      List.getD_eq_getElem _ _ (by omega)]

theorem templateLc_four (four : apdu.length = 4) : templateLc apdu = 0 := by
  rw [templateLc, List.getD_eq_default _ _ (by omega)]
  rfl

theorem templateLc_lt (apdu : List UInt8) : templateLc apdu < 256 := UInt8.toNat_lt _

/-- A byte of Lc that is raised, or left alone. -/
def keptLc (lc length : Nat) : Nat := if lc < length then length % 256 else lc

theorem applied_raised (memory : Nat → UInt8) {lc length : Nat} (stands : (memory 4).toNat = lc) :
    applied memory ((raisedLc lc length).map fun length => (4, [UInt8.ofNat length])) =
      stored memory 4 [UInt8.ofNat (keptLc lc length)] := by
  rw [raisedLc, keptLc]
  by_cases raised : lc < length
  · rw [if_pos raised, if_pos raised]
    have same : UInt8.ofNat (length % 256) = UInt8.ofNat length := by
      rw [← UInt8.toNat_inj]
      simp
    rw [same]
    rfl
  · rw [if_neg raised, if_neg raised, ← stands, UInt8.ofNat_toNat, stored_self]
    rfl

theorem initialisedAt_raised {lc length index : Nat} :
    InitialisedAt ((raisedLc lc length).map fun length => (4, [UInt8.ofNat length])) index ↔
      lc < length ∧ index = 4 := by
  rw [raisedLc]
  split
  · simp only [List.map_cons, List.map_nil, initialisedAt_cons, initialisedAt_nil, or_false, List.length_singleton]
    omega
  · simp only [List.map_nil, initialisedAt_nil, false_iff]
    omega

theorem inside_raised {lc length : Nat} {write : BufferWrite}
    (made : write ∈ (raisedLc lc length).map fun length => (4, [UInt8.ofNat length])) :
    write.1 + write.2.length ≤ 260 := by
  obtain ⟨length, _, same⟩ := List.mem_map.mp made
  rw [← same]
  exact (by decide : 4 + 1 ≤ 260)

theorem inside_pinBlock {place size : Nat} :
    (∀ write ∈ pinBlock place, write.1 + write.2.length ≤ size) ↔ place + 8 ≤ size := by
  simp only [pinBlock, List.forall_mem_cons, List.length_singleton, List.length_replicate, List.not_mem_nil,
    false_implies, implies_true, and_true]
  omega

theorem ofNat_keptLc (lc place : UInt8) (length : Nat) :
    (if lc.toNat < place.toNat + length then place + UInt8.ofNat length else lc) =
      UInt8.ofNat (keptLc lc.toNat (place.toNat + length)) := by
  have raised : (place.toNat + length) % 256 = (place + UInt8.ofNat length).toNat := by
    rw [UInt8.toNat_add]
    simp
  rw [keptLc]
  split
  · rw [raised, UInt8.ofNat_toNat]
  · rw [UInt8.ofNat_toNat]

theorem keptLc_eq_max {lc length : Nat} (byte : length < 256) : keptLc lc length = max lc length := by
  rw [keptLc]
  split <;> omega

theorem keptLc_lt {lc length : Nat} (small : lc < 256) : keptLc lc length < 256 := by
  rw [keptLc]
  split <;> omega

theorem pinFormat2_fields {PinLength PinPosition : UInt8} {buffer : Nat → UInt8}
    (set : pinFormat2 PinLength PinPosition buffer = some parameters) :
    parameters.PinType = 1 ∧ parameters.PinPosition = PinPosition + 1 ∧
      parameters.buffer = stored (stored buffer 4
        [UInt8.ofNat (keptLc (buffer 4).toNat ((PinPosition + 1).toNat + 7))]) (4 + (PinPosition + 1).toNat)
          (0x2f :: List.replicate 7 0xff) ∧
      parameters.outlen = keptLc (buffer 4).toNat ((PinPosition + 1).toNat + 7) + 5 := by
  have lc := ofNat_keptLc (buffer 4) (PinPosition + 1) 7
  simp only [pinFormat2] at set
  split at set
  · contradiction
  · rw [Option.some.injEq] at set
    rw [← set]
    refine ⟨rfl, rfl, ?_, ?_⟩
    · exact congrArg (fun lc => stored (stored buffer 4 [lc]) _ _) lc
    · have same := congrArg UInt8.toNat lc
      rw [UInt8.toNat_ofNat', Nat.mod_eq_of_lt (keptLc_lt (UInt8.toNat_lt _))] at same
      exact congrArg (· + 5) same

theorem format2_safe_iff (accepted : PositionAccepted position apdu) (short : apdu.length ≤ 255)
    (format : control &&& 3 = 2)
    (switched : pinFormat2 (control >>> 4) (position - 6)
      (stored stack.buffer 0 (if apdu.length = 4 then apdu ++ [0] else apdu)) = some parameters)
    (called : (callSecure tags stack timeout (control &&& 3) parameters).passed = some passed) :
    VerificationSafe known stack.buffer control position apdu passed ↔
      VerificationFits known control position apdu := by
  obtain ⟨typed, placed, buffer, outlen⟩ := pinFormat2_fields switched
  obtain ⟨out, length, place⟩ := passed_callSecure (.inl typed) called
  have low := accepted.low
  have long := accepted.long
  have high := accepted.high
  have byte := position.toNat_lt
  have block : (position - 6 + 1).toNat = position.toNat - 5 := by
    rw [UInt8.toNat_add, toNat_position low]
    change (position.toNat - 6 + 1) % 256 = position.toNat - 5
    omega
  have raise : (position - 6 + 1).toNat + 7 = position.toNat + 2 := by omega
  have start : 4 + (position - 6 + 1).toNat = position.toNat - 1 := by omega
  rw [raise, start, lc_template _ long] at buffer
  rw [raise, lc_template _ long] at outlen
  have lengths : verificationLengths control position apdu = raisedLc (templateLc apdu) (position.toNat + 2) :=
    if_pos format
  have writes : verificationWrites control position apdu = templateWrites apdu ++
      ((raisedLc (templateLc apdu) (position.toNat + 2)).map (fun length => (4, [UInt8.ofNat length])) ++
        pinBlock (position.toNat - 1)) := by
    rw [verificationWrites, format, lengths]
    rfl
  have made : passed.out = applied stack.buffer (verificationWrites control position apdu) := by
    rw [out, buffer, writes, applied_append, applied_append, applied_template, applied_pinBlock,
      applied_raised _ (lc_template _ long)]
  have position_eq : passed.message.position.toNat = position.toNat - 6 + controlByte control := by
    rw [place, format, placed, controlByte, if_pos format]
    split
    · rename_i behind
      have more := UInt8.lt_iff_toNat_lt.mp behind.2
      change (1 : UInt8).toNat < _ at more
      rw [UInt8.toNat_add, UInt8.toNat_sub_of_le _ _ (UInt8.le_of_lt behind.2), block]
      change (1 + (position.toNat - 5 - 1)) % 256 = _
      rw [block] at more
      change 1 < _ at more
      omega
    · rename_i first
      have one : ¬ position - 6 + 1 > 1 := fun more => first ⟨rfl, more⟩
      rw [low_nibble, block]
      have most := UInt8.le_iff_toNat_le.mp (UInt8.not_lt.mp one)
      rw [block] at most
      change _ ≤ 1 at most
      omega
  have initialised (index : Nat) : InitialisedAt (knownWrites known (verificationWrites control position apdu)) index ↔
      index < min apdu.length known ∨ (index = 4 ∧ templateLc apdu < position.toNat + 2) ∨
        (position.toNat - 1 ≤ index ∧ index < position.toNat + 7) := by
    rw [writes, initialisedAt_known, initialisedAt_append, initialisedAt_raised, initialisedAt_pinBlock]
    by_cases four : apdu.length = 4
    · have empty := templateLc_four four
      omega
    · omega
  have lc := templateLc_lt apdu
  have bytes (fits : position.toNat ≤ 253) :
      passed.out_len = max (templateLc apdu) (position.toNat + 2) + 5 := by
    rw [length, outlen, keptLc_eq_max (by omega)]
  rw [VerificationFits, if_pos format]
  constructor
  · intro safe
    have fits : position.toNat ≤ 253 := by
      have inside := inside_pinBlock.mp fun write member => safe.buffer.inside write (by
        rw [writes]
        exact List.mem_append_right _ (List.mem_append_right _ member))
      omega
    refine ⟨fits, fun index below => ?_⟩
    rw [← initialised]
    exact safe.buffer.initialised index (by rw [bytes fits]; exact below)
  · intro fits
    refine ⟨⟨made, ?_, ?_, ?_, ?_⟩, position_eq⟩
    · intro write member
      rw [writes] at member
      rcases List.mem_append.mp member with template | later
      · exact inside_template long short template
      · rcases List.mem_append.mp later with raised | written
        · exact inside_raised raised
        · exact inside_pinBlock.mpr (by omega) write written
    · rw [bytes fits.1]
      omega
    · intro index below
      rw [bytes fits.1] at below
      rw [initialised]
      exact fits.2 index below
    · intro length member
      rw [lengths, raisedLc] at member
      split at member
      · rw [List.mem_singleton.mp member]
        omega
      · contradiction

/-- What is passed on for a tag 52 is safe exactly when position, template and Lc fit. -/
theorem pinCommand_safe_iff (short : apdu.length ≤ 255)
    (called : (pinCommand tags stack timeout control position apdu).passed = some passed) :
    VerificationSafe known stack.buffer control position apdu passed ↔
      VerificationFits known control position apdu := by
  rw [pinCommand] at called
  by_cases refused : apdu.length < 4 ∨ position ≤ 5
  · rw [if_pos refused] at called
    contradiction
  · rw [if_neg refused] at called
    have fine := not_or.mp refused
    have low : 6 ≤ position.toNat := by
      have more := UInt8.lt_iff_toNat_lt.mp (UInt8.not_le.mp fine.2)
      exact more
    by_cases far : apdu.length ≠ 4 ∧
        ((position - 6).toNat : Int) > ((if apdu.length = 4 then 7 else apdu.length + 2 : Nat) : Int) - 7
    · simp only [if_pos far] at called
      contradiction
    · simp only [if_neg far] at called
      have accepted : PositionAccepted position apdu := by
        refine ⟨Nat.not_lt.mp fine.1, low, ?_⟩
        intro more
        have near : ¬ ((position - 6).toNat : Int) >
            ((if apdu.length = 4 then 7 else apdu.length + 2 : Nat) : Int) - 7 := fun exceeds => far ⟨more, exceeds⟩
        rw [if_neg more, toNat_position low] at near
        omega
      by_cases bcd : control &&& 3 = 0
      · rw [if_pos bcd] at called
        exact bcd_safe_iff accepted short bcd called
      · rw [if_neg bcd] at called
        by_cases ascii : control &&& 3 = 1
        · rw [if_pos ascii] at called
          exact ascii_safe_iff accepted short ascii called
        · rw [if_neg ascii] at called
          by_cases format : control &&& 3 = 2
          · rw [if_pos format] at called
            cases switched : pinFormat2 (control >>> 4) (position - 6)
                (stored stack.buffer 0 (if apdu.length = 4 then apdu ++ [0] else apdu)) with
            | none =>
                rw [switched] at called
                contradiction
            | some parameters =>
                rw [switched] at called
                exact format2_safe_iff accepted short format switched called
          · rw [if_neg format] at called
            contradiction

end Cyberjack.Eca
