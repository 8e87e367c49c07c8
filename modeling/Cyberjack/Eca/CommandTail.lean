import Cyberjack.Eca.PinBounds

namespace Cyberjack.Eca

open Cyberjack.Foundation

/-! # Bytes behind the command

Which commands `CtData` answers without a look at what its command buffer holds
behind them.
-/

variable {call : CtCall} {lengths : Lengths} {other : Nat → UInt8} {reader : CtReader} {frame : Frame}

/-! ## 80 60 -/

theorem singleTag_eq (cmd : Nat → UInt8) (tagvalue : UInt8) :
    singleTag cmd tagvalue =
      if (parameterTag cmd tagvalue).isSome = false then some none
      else (onlyByte (parameterTag cmd tagvalue)).map some := by
  rw [singleTag]
  rcases parameterTag cmd tagvalue with _ | _ | ⟨_, _ | _⟩
  · rfl
  · rfl
  · rfl
  · rfl

theorem singleTag_on (agrees : call.Agrees lengths other) (counted : 5 ≤ call.lenc)
    (inside : 5 + (call.cmd 4).toNat ≤ call.lenc) (tagvalue : UInt8) :
    singleTag other tagvalue = singleTag call.cmd tagvalue := by
  have lc : other 4 = call.cmd 4 := (agrees.same 4 (by omega)).symm
  have data : Lengths.Inside ⟨(call.cmd 4).toNat, some 5, -1⟩ call.lenc :=
    ⟨by simp only [Option.getD_some]; push_cast; omega, .inr ⟨by simp, le_refl 5⟩⟩
  have tag (cmd : Nat → UInt8) (same : cmd 4 = call.cmd 4) : parameterTag cmd tagvalue =
      commandTag cmd ⟨(call.cmd 4).toNat, some 5, -1⟩ tagvalue := by
    rw [parameterTag, commandTag, same]
    rfl
  rw [singleTag_eq, singleTag_eq, tag other lc, tag call.cmd rfl, isSome_congr agrees.same data,
    onlyByte_congr agrees.same data]

/-- Lc of 80 60 is inside the command, and so is what it counts. -/
def InterfaceInside (call : CtCall) : Prop :=
  call.cmd 2 ≠ 0x01 ∨ call.cmd 3 ≠ 0x00 ∨
    (5 ≤ call.lenc ∧ (call.cmd 4 < 3 ∨ 5 + (call.cmd 4).toNat ≤ call.lenc))

theorem setAddress_on (tags : ∀ tagvalue, singleTag other tagvalue = singleTag call.cmd tagvalue) :
    setAddress (call.on other) = setAddress call := by
  have change : changeProtocol (call.on other) = changeProtocol call := rfl
  simp only [setAddress, CtCall.on_cmd, tags, CtCall.on_status, change]

theorem setInterface_on (agrees : call.Agrees lengths other) (ends : InterfaceInside call) :
    setInterface (call.on other) = setInterface call := by
  obtain ⟨_, _, P1, P2⟩ := agrees.header
  by_cases refused : call.cmd 2 ≠ 0x01 ∨ call.cmd 3 ≠ 0x00
  · simp only [setInterface, CtCall.on_cmd, P1, P2, if_pos refused, CtCall.on_status]
  · have inside : 5 ≤ call.lenc ∧ (call.cmd 4 < 3 ∨ 5 + (call.cmd 4).toNat ≤ call.lenc) := by
      rcases ends with first | second | inside
      · exact absurd (.inl first) refused
      · exact absurd (.inr second) refused
      · exact inside
    have lc : other 4 = call.cmd 4 := (agrees.same 4 (by omega)).symm
    by_cases short : call.cmd 4 < 3
    · simp only [setInterface, CtCall.on_cmd, P1, P2, lc, if_neg refused, if_pos short, CtCall.on_status]
    · have tags := singleTag_on agrees inside.1 (inside.2.resolve_left short)
      simp only [setInterface, CtCall.on_cmd, P1, P2, lc, if_neg refused, if_neg short, CtCall.on_status,
        tags, setAddress_on tags]

/-! ## 20 70 to 20 76 -/

/-- The bytes that are moved to the front stand behind one another. -/
theorem moved_congr {memory memory' : Nat → UInt8} {limit target source count : Nat}
    (same : SameBelow limit memory memory') (inside : source + count ≤ limit) :
    SameBelow limit (moved memory target source count) (moved memory' target source count) := by
  intro index below
  rw [moved, moved, stored, stored, bytesAt_congr same inside, same index below]

theorem applicationInput_on (agrees : call.Agrees lengths other) (counted : lengths.Lc ≠ -1) {lenc : Nat}
    (inside : lenc ≤ call.lenc) :
    applicationInput other lengths lenc = applicationInput call.cmd lengths lenc := by
  have four := agrees.four
  have data := agrees.inside.counted
  have offset := agrees.inside.behind.resolve_left counted
  have front : SameBelow call.lenc (moved call.cmd 0 3 (lenc - 3)) (moved other 0 3 (lenc - 3)) :=
    moved_congr agrees.same (by omega)
  have pushed := @moved_congr _ _ _ 1 (lengths.data_ptr.getD 0 - 3) lengths.Lc.toNat front (by omega)
  exact (bytesAt_congr pushed (by omega)).symm

theorem KTLightCall_on (agrees : call.Agrees lengths other) :
    KTLightCall reader (call.on other) lengths = KTLightCall reader call lengths := by
  obtain ⟨_, INS, P1, P2⟩ := agrees.header
  by_cases counted : lengths.Lc = -1
  · simp only [KTLightCall, CtCall.on_cmd, P1, P2, if_pos counted, CtCall.on_status]
  · have answers : applicationCall reader (call.on other) = applicationCall reader call := rfl
    have whole := applicationInput_on agrees counted (le_refl _)
    have cut := applicationInput_on agrees counted (Nat.sub_le call.lenc 1)
    simp only [KTLightCall, CtCall.on_cmd, CtCall.on_lenc, INS, P1, P2, if_neg counted, CtCall.on_status,
      answers, whole, cut]

/-! ## The files of the reader -/

theorem selectFile_on (agrees : call.Agrees lengths other) (files : ReaderFiles) :
    selectFile files (call.on other) lengths = selectFile files call lengths := by
  obtain ⟨_, _, P1, P2⟩ := agrees.header
  by_cases two : lengths.Lc = 2
  · have counted := agrees.inside.counted
    have offset := agrees.inside.behind.resolve_left (by omega)
    have fifth : other 5 = call.cmd 5 := (agrees.same 5 (by omega)).symm
    have sixth : other 6 = call.cmd 6 := (agrees.same 6 (by omega)).symm
    have noRoom : (call.on other).noRoom = call.noRoom := rfl
    simp only [selectFile, CtCall.on_cmd, CtCall.on_lenr, P1, P2, fifth, sixth, agrees.data, CtCall.on_status,
      CtCall.on_answers, noRoom]
  · simp only [selectFile, CtCall.on_cmd, P1, P2, ne_eq, two, not_false_eq_true, if_true, CtCall.on_status]

/-! ## The card -/

theorem commandBytes_congr {cmd : Nat → UInt8} {lenc : Nat} (same : SameBelow lenc cmd other) :
    commandBytes other lenc = commandBytes cmd lenc := by
  apply List.map_congr_left
  intro index member
  exact (same index (List.mem_range.mp member)).symm

theorem case4Apdu_congr {cmd : Nat → UInt8} {lenc : Nat} (same : SameBelow lenc cmd other)
    (counted : lenc = 6 + (cmd 4).toNat ∧ cmd 4 ≠ 0) (counted' : lenc = 6 + (other 4).toNat ∧ other 4 ≠ 0) :
    case4Apdu other lenc counted' = case4Apdu cmd lenc counted := by
  simp only [case4Apdu, commandBytes_congr same]

theorem transmitToCard_congr {cmd : Nat → UInt8} {lenc : Nat} (same : SameBelow lenc cmd other)
    (stack : TransmitStack) (passes : Nat) (room : Room) :
    transmitToCard reader stack passes room other lenc = transmitToCard reader stack passes room cmd lenc := by
  have bytes := commandBytes_congr same
  by_cases header : lenc < 4
  · have bytes4 (memory : Nat → UInt8) : ¬ (lenc = 5 + (memory 4).toNat ∧ memory 4 ≠ 0) := by omega
    have bytes5 (memory : Nat → UInt8) : ¬ (lenc = 6 + (memory 4).toNat ∧ memory 4 ≠ 0) := by omega
    have four : lenc ≠ 4 := by omega
    have five : lenc ≠ 5 := by omega
    simp only [transmitToCard, if_neg four, if_neg five, if_neg (bytes4 _), dif_neg (bytes5 _), bytes]
  · have first : bytesAt other 0 4 = bytesAt cmd 0 4 := (bytesAt_congr same (by omega)).symm
    by_cases four : lenc = 4
    · simp only [transmitToCard, if_pos four, first, bytes]
    · have lc : other 4 = cmd 4 := (same 4 (by omega)).symm
      by_cases counted : lenc = 6 + (cmd 4).toNat ∧ cmd 4 ≠ 0
      · have counted' : lenc = 6 + (other 4).toNat ∧ other 4 ≠ 0 := by rwa [lc]
        simp only [transmitToCard, if_neg four, first, bytes, lc, dif_pos counted,
          case4Apdu_congr same counted counted']
      · simp only [transmitToCard, if_neg four, first, bytes, lc, dif_neg counted]

theorem _IfdTransmit_congr {cmd : Nat → UInt8} {lenc : Nat} (same : SameBelow lenc cmd other)
    (stack : TransmitStack) (passes : Nat) (room : Room) :
    _IfdTransmit reader stack passes room other lenc = _IfdTransmit reader stack passes room cmd lenc := by
  by_cases five : lenc = 5
  · have at0 : other 0 = cmd 0 := (same 0 (by omega)).symm
    have at1 : other 1 = cmd 1 := (same 1 (by omega)).symm
    have at2 : other 2 = cmd 2 := (same 2 (by omega)).symm
    have at3 : other 3 = cmd 3 := (same 3 (by omega)).symm
    have at4 : other 4 = cmd 4 := (same 4 (by omega)).symm
    simp only [_IfdTransmit, at0, at1, at2, at3, at4, transmitToCard_congr same]
  · simp only [_IfdTransmit, five, false_and, and_false, if_false, transmitToCard_congr same]

theorem commandToCard_on (same : SameBelow call.lenc call.cmd other) :
    commandToCard reader frame (call.on other) = commandToCard reader frame call := by
  simp only [commandToCard, CtCall.on_lenr, CtCall.on_lenc, CtCall.on_response, CtCall.on_cmd,
    _IfdTransmit_congr same]

/-! ## The dispatch -/

/-- What a command of class 20 looks for ends inside it. -/
structure ObjectsInside (reader : CtReader) (call : CtCall) (lengths : Lengths) : Prop where
  text : call.cmd 1 = 0x16 ∧ reader.IsClass2 ∧ (reader.IsClass3 = false ∨ reader.mktComp) →
    InputInside call lengths
  shown : call.cmd 1 = 0x17 ∧ reader.IsClass3 ∧ reader.mktComp → OutputInside call lengths
  verification : call.cmd 1 = 0x18 ∧ reader.IsClass2 → VerificationInside reader.CheckUpdate call lengths
  modification : call.cmd 1 = 0x19 ∧ reader.IsClass2 → ModifyInside reader.CheckUpdate call lengths

theorem class20_on (agrees : call.Agrees lengths other) (ends : ObjectsInside reader call lengths) :
    class20 reader frame (call.on other) lengths = class20 reader frame call lengths := by
  obtain ⟨_, INS, _, _⟩ := agrees.header
  simp only [class20, CtCall.on_cmd, INS, resetCT_on agrees, requestIcc_on agrees, getStatus_on agrees,
    deactivateIcc_on agrees, ejectIcc_on agrees, KTLightCall_on agrees, CtCall.on_status]
  repeat (apply ite_congr rfl (fun _ => rfl); intro _)
  apply ite_congr rfl
  · intro asked
    exact performInput_on agrees (ends.text asked) _
  intro _
  apply ite_congr rfl
  · intro asked
    exact performOutput_on agrees (ends.shown asked)
  intro _
  apply ite_congr rfl
  · intro asked
    exact performVerify_on agrees reader _ (ends.verification asked)
  intro _
  apply ite_congr rfl
  · intro asked
    exact performModify_on agrees reader _ (ends.modification asked)
  intro _
  rfl

/-- No byte behind the command counts. -/
structure StaysInside (reader : CtReader) (call : CtCall) (lengths : Lengths) : Prop where
  reset : call.cmd 0 = 0x20 → ObjectsInside reader call lengths
  interface : call.cmd 0 = 0x80 → call.cmd 1 = 0x60 → InterfaceInside call

theorem commandToReader_on (agrees : call.Agrees lengths other) (ends : StaysInside reader call lengths) :
    commandToReader reader frame (call.on other) lengths = commandToReader reader frame call lengths := by
  obtain ⟨CLA, INS, _, _⟩ := agrees.header
  have reads (files : ReaderFiles) : readBinary files (call.on other) = readBinary files call := rfl
  simp only [commandToReader, CtCall.on_cmd, CLA, INS, selectFile_on agrees, reads, CtCall.on_status]
  apply ite_congr rfl (fun _ => rfl)
  intro _
  apply ite_congr rfl
  · intro class20
    exact class20_on agrees (ends.reset class20)
  intro _
  apply ite_congr rfl
  · intro class80
    apply ite_congr rfl
    · intro ins60
      exact setInterface_on agrees (ends.interface class80 ins60)
    intro _
    rfl
  intro _
  rfl

/-- The answer, the members and what is asked of the reader object depend on the command alone. -/
theorem ctCommand_on (same : SameBelow call.lenc call.cmd other)
    (ends : call.ToReader → 2 ≤ call.lenr → ∀ lengths ∈ parseLengths reader.linux call.cmd call.lenc,
      StaysInside reader call lengths) :
    ctCommand reader frame (call.on other) = ctCommand reader frame call := by
  by_cases toReader : call.ToReader
  · have toReader' : (call.on other).ToReader := toReader
    rw [ctCommand, ctCommand, if_pos toReader, if_pos toReader', CtCall.on_sad, CtCall.on_dad,
      CtCall.on_response, CtCall.on_lenr]
    by_cases small : call.lenr < 2
    · rw [if_pos small, if_pos small]
    · have parsed : parseLengths reader.linux other call.lenc =
          parseLengths reader.linux call.cmd call.lenc :=
        parseLengths_congr fun index below => (same index below).symm
      rw [if_neg small, if_neg small, CtCall.on_cmd, CtCall.on_lenc, parsed]
      cases taken : parseLengths reader.linux call.cmd call.lenc with
      | none => rfl
      | some lengths =>
          have bounds := parseLengths_inside taken
          exact commandToReader_on ⟨same, bounds.1, bounds.2⟩ (ends toReader (by omega) lengths taken)
  · have toReader' : ¬ (call.on other).ToReader := toReader
    rw [ctCommand, ctCommand, if_neg toReader, if_neg toReader', commandToCard_on same, CtCall.on_sad,
      CtCall.on_dad, CtCall.on_response]

/-- 80 60 01 00 with the protocol T=0. -/
def chooseT0 : CtCall where
  sad := 2
  dad := 1
  cmd := inMemory [0x80, 0x60, 0x01, 0x00, 0x03, 0x22, 0x01, 0x01]
  lenc := 8
  response _ := 0
  lenr := 2

def classOne : CtReader where
  linux := true
  IsClass2 := false
  IsClass3 := false
  CheckUpdate := false
  mktComp := false
  ktLight := false
  ktLightGC := false
  kernelRevision := none
  HardwareMask := 0
  Version := 0
  productString := []
  ecom_a_ident := false
  PID := 0x400
  ProductString := []
  packageVersion := []
  inputBufferSize := 5120
  m_ApduNorm := .pcsc
  m_bIsRF := false
  ecr := false
  derivedPID := none
  m_SerialNumber _ := 0
  m_SerialNumberLength := 0
  m_ATR _ := 0
  m_ATR_Length := 0

/-- What an earlier command has left behind does not show. -/
theorem ctCommand_on_chosen :
    ctCommand classOne ⟨⟨fun _ => 0, (0, 0)⟩, ⟨.filled 258 0, fun _ => 0⟩, 0⟩
        (chooseT0.on (inMemory [0x80, 0x60, 0x01, 0x00, 0x03, 0x22, 0x01, 0x01, 0x44, 0x01, 0x13])) =
      ctCommand classOne ⟨⟨fun _ => 0, (0, 0)⟩, ⟨.filled 258 0, fun _ => 0⟩, 0⟩ chooseT0 := by
  apply ctCommand_on
  · unfold SameBelow
    decide
  · intro _ _ lengths _
    exact ⟨nofun, fun _ _ => .inr (.inr ⟨by decide, .inr (by decide)⟩)⟩

end Cyberjack.Eca
