import Cyberjack.Eca.AtrLength

namespace Cyberjack.Eca

open Cyberjack.Foundation

/-! # What an ATR decides alone

`m_ATR` holds the end of an earlier ATR behind the present one.
-/

/-- `m_PossibleProtocols`, `m_ActiveProtocol` and the members for the interface bytes. -/
structure Parameters where
  m_PossibleProtocols : UInt32
  m_ActiveProtocol : UInt32
  members : InterfaceBytes
deriving Repr, DecidableEq

/-- `AnalyseATR` before it has found anything. -/
def Parameters.none : Parameters := ⟨0, 0, .default⟩

/-- A card without an ATR of ISO 7816. -/
def Parameters.raw : Parameters := ⟨SCARD_PROTOCOL_RAW, SCARD_PROTOCOL_RAW, .default⟩

/-- The protocols that the interface bytes stand for. -/
def AtrScan.protocols (scan : AtrScan) : UInt32 × UInt32 :=
  if scan.error = 0 then
    if scan.specific then
      if scan.TD1 &&& 0x0f = 0 then (SCARD_PROTOCOL_T0, SCARD_PROTOCOL_T0) else (SCARD_PROTOCOL_T1, SCARD_PROTOCOL_T1)
    else
      ((if scan.protocol &&& 1 ≠ 0 then SCARD_PROTOCOL_T0 else 0) |||
        (if scan.protocol &&& 2 ≠ 0 then SCARD_PROTOCOL_T1 else 0), 0)
  else (0, 0)

def InterfaceScan.parameters (scan : InterfaceScan) : Parameters :=
  ⟨scan.found.protocols.1, scan.found.protocols.2, scan.members⟩

/-- The first byte of an ATR of ISO 7816, of a memory card for `SetSyncParameters`, and of other memory cards. -/
def IsIso (first : UInt8) : Prop := first = 0x3b ∨ first = 0x3f

def IsSync (first : UInt8) : Prop := first = 0x2c ∨ first = 0x92 ∨ first = 0xa2 ∨ first = 0x82

def IsMemory (first : UInt8) : Prop := first = 0xff ∨ first &&& 0xf0 = 0x80

instance (first : UInt8) : Decidable (IsIso first) := inferInstanceAs (Decidable (_ ∨ _))

instance (first : UInt8) : Decidable (IsSync first) := inferInstanceAs (Decidable (_ ∨ _))

instance (first : UInt8) : Decidable (IsMemory first) := inferInstanceAs (Decidable (_ ∨ _))

/-- The parameters for the bytes of an ATR, of which `accepted` says whether its length is right; none where
an interface byte is missing. -/
def derivedFrom (m_ApduNorm : ApduNorm) (warm accepted : Bool) : List UInt8 → Option Parameters
  | [] => some .none
  | first :: rest =>
      if IsIso first then
        if accepted then (scanInterface? (first :: rest) m_ApduNorm warm).map InterfaceScan.parameters
        else some .none
      else if rest.length = 3 ∧ (IsSync first ∨ IsMemory first) then some .raw
      else if first = 0x41 then some .raw
      else some .none

namespace StoredAtr

def Accepted (atr : StoredAtr) : Prop := check_len atr.memory atr.length = 1

instance (atr : StoredAtr) : Decidable atr.Accepted := inferInstanceAs (Decidable (_ = _))

/-- Whether it is accepted does not depend on what stands behind it. -/
def DecidesAlone (atr : StoredAtr) : Prop := ∀ other : StoredAtr, other.bytes = atr.bytes → (other.Accepted ↔ atr.Accepted)

end StoredAtr

/-- A TDi of the ATR behind `place` names a protocol other than T=0. -/
inductive NamesInside (memory : Nat → UInt8) (length : Nat) : Nat → Prop where
  | here {place : Nat} (more : memory place &&& 0x80 ≠ 0) (inside : place + GetBits (memory place &&& 0xf0) < length)
      (other : memory (place + GetBits (memory place &&& 0xf0)) &&& 0x0f ≠ 0) : NamesInside memory length place
  | further {place : Nat} (more : memory place &&& 0x80 ≠ 0) (inside : place + GetBits (memory place &&& 0xf0) < length)
      (names : NamesInside memory length (place + GetBits (memory place &&& 0xf0))) : NamesInside memory length place

/-- T0 is missing, or the TDi of the ATR behind `place` lead to one of the two places behind it, where `check_len`
looks. -/
inductive LeadsOut (memory : Nat → UInt8) (length : Nat) : Nat → Prop where
  | missing {place : Nat} (outside : place = length) : LeadsOut memory length place
  | here {place : Nat} (inside : place < length) (more : memory place &&& 0x80 ≠ 0)
      (outside : length ≤ place + GetBits (memory place &&& 0xf0))
      (near : place + GetBits (memory place &&& 0xf0) ≤ length + 1) : LeadsOut memory length place
  | further {place : Nat} (more : memory place &&& 0x80 ≠ 0) (inside : place + GetBits (memory place &&& 0xf0) < length)
      (leads : LeadsOut memory length (place + GetBits (memory place &&& 0xf0))) : LeadsOut memory length place

/-- An ATR that ends among its interface bytes, and whose checksum does not tell. -/
def StoredAtr.Disguised (atr : StoredAtr) : Prop := announcedBytes (atr.bytes.drop 1) = none ∧ atr.sum = 0

/-- A disguised ATR is refused whatever stands behind it, or it names another protocol itself and has the interface
bytes that are looked at. -/
def StoredAtr.KeepsToItself (atr : StoredAtr) (m_ApduNorm : ApduNorm) (warm : Bool) : Prop :=
  atr.Disguised → (¬ NamesInside atr.memory atr.length 1 ∧ ¬ LeadsOut atr.memory atr.length 1) ∨
    (NamesInside atr.memory atr.length 1 ∧ (scanInterface? atr.bytes m_ApduNorm warm).isSome)

/-! ## The way through the TDi -/

variable {memory : Nat → UInt8} {length place : Nat}

/-- What stands behind the ATR is replaced. -/
def withBehind (memory : Nat → UInt8) (length : Nat) (byte : UInt8) (index : Nat) : UInt8 :=
  if index < length then memory index else byte

theorem NamesInside.names (names : NamesInside memory length place) : NamesOther memory length place := by
  induction names with
  | here more inside other => exact .here more (Nat.le_of_lt (Nat.lt_succ_of_lt inside)) other
  | further more inside _ ih => exact .further more (Nat.le_of_lt (Nat.lt_succ_of_lt inside)) ih

theorem NamesInside.place_lt (names : NamesInside memory length place) : place < length := by
  cases names with
  | here _ inside _ => omega
  | further _ inside _ => omega

/-- What a TDi outside names shows only where the way leads out. -/
theorem NamesOther.inside_or (names : NamesOther memory length place) (start : place ≤ length) :
    NamesInside memory length place ∨ LeadsOut memory length place := by
  induction names with
  | @here place more near other =>
      by_cases first : place = length
      · exact .inr (.missing first)
      · by_cases inside : place + GetBits (memory place &&& 0xf0) < length
        · exact .inl (.here more inside other)
        · exact .inr (.here (by omega) more (Nat.le_of_not_lt inside) near)
  | @further place more near _ ih =>
      by_cases first : place = length
      · exact .inr (.missing first)
      · by_cases inside : place + GetBits (memory place &&& 0xf0) < length
        · cases ih (Nat.le_of_lt inside) with
          | inl names => exact .inl (.further more inside names)
          | inr leads => exact .inr (.further more inside leads)
        · exact .inr (.here (by omega) more (Nat.le_of_not_lt inside) near)

/-- Behind the ATR another protocol can be named. -/
theorem LeadsOut.names (leads : LeadsOut memory length place) :
    NamesOther (withBehind memory length 0x81) length place := by
  have kept {place : Nat} (inside : place < length) : withBehind memory length 0x81 place = memory place := if_pos inside
  have filled {place : Nat} (outside : ¬ place < length) : withBehind memory length 0x81 place = 0x81 := if_neg outside
  induction leads with
  | @missing place outside =>
      have T0 := filled (show ¬ place < length by omega)
      have one : GetBits ((0x81 : UInt8) &&& 0xf0) = 1 := by decide
      apply NamesOther.here
      · rw [T0]
        decide
      · rw [T0, one]
        omega
      · rw [T0, one, filled (by omega)]
        decide
  | @here place inside more outside near =>
      rw [← kept inside] at more outside near
      apply NamesOther.here more near
      rw [filled (by omega)]
      decide
  | @further place more inside _ ih =>
      rw [← kept (show place < length by omega)] at more inside ih
      exact .further more (by omega) ih

/-- And none. -/
theorem NamesOther.of_zeros (names : NamesOther (withBehind memory length 0) length place) :
    NamesInside memory length place := by
  have kept {place : Nat} (inside : place < length) : withBehind memory length 0 place = memory place := if_pos inside
  have zero {place : Nat} (outside : ¬ place < length) : withBehind memory length 0 place = 0 := if_neg outside
  induction names with
  | @here place more near other =>
      by_cases start : place < length
      · rw [kept start] at more near other
        by_cases inside : place + GetBits (memory place &&& 0xf0) < length
        · rw [kept inside] at other
          exact .here more inside other
        · rw [zero inside] at other
          contradiction
      · rw [zero start] at more
        contradiction
  | @further place more near rest ih =>
      by_cases start : place < length
      · rw [kept start] at more near ih
        exact .further more ih.place_lt ih
      · rw [zero start] at more
        contradiction

theorem namesInside_congr {other : Nat → UInt8} (same : ∀ index, index < length → other index = memory index)
    (names : NamesInside memory length place) : NamesInside other length place := by
  induction names with
  | @here place more inside named =>
      rw [← same place (by omega)] at more inside named
      rw [← same _ inside] at named
      exact .here more inside named
  | @further place more inside _ ih =>
      rw [← same place (by omega)] at more inside ih
      exact .further more inside ih

theorem leadsOut_congr {other : Nat → UInt8} (same : ∀ index, index < length → other index = memory index)
    (leads : LeadsOut memory length place) : LeadsOut other length place := by
  induction leads with
  | missing outside => exact .missing outside
  | @here place inside more outside near =>
      rw [← same place inside] at more outside near
      exact .here inside more outside near
  | @further place more inside _ ih =>
      rw [← same place (by omega)] at more inside ih
      exact .further more inside ih

/-! ## What is accepted -/

namespace StoredAtr

variable {atr other : StoredAtr}

theorem same_of_bytes (same : other.bytes = atr.bytes) :
    other.length = atr.length ∧ ∀ index, index < atr.length → other.memory index = atr.memory index := by
  have length : other.length = atr.length := by
    have lengths := congrArg List.length same
    rwa [bytes, bytes, List.length_map, List.length_map, List.length_range, List.length_range] at lengths
  refine ⟨length, ?_⟩
  intro index inside
  apply other.cell
  rw [same, bytes, List.getElem?_map, List.getElem?_range inside]
  rfl

/-- The ATR with another memory behind it. -/
def withBehind (atr : StoredAtr) (byte : UInt8) : StoredAtr :=
  ⟨Eca.withBehind atr.memory atr.length byte, atr.length, atr.short⟩

theorem bytes_withBehind (atr : StoredAtr) (byte : UInt8) : (atr.withBehind byte).bytes = atr.bytes := by
  apply List.map_congr_left
  intro index member
  exact if_pos (List.mem_range.mp member)

/-- Where all interface bytes are there, they decide. -/
theorem decidesAlone_of_complete {named : Bool} {behind : List UInt8}
    (found : announcedBytes (atr.bytes.drop 1) = some (named, behind)) : atr.DecidesAlone := by
  intro other same
  have there : 1 < atr.length := by
    change announcedBytes (bytesFrom atr.memory atr.length 1) = _ at found
    have inside := (announcedBytes_inside found).1
    omega
  have K : other.K = atr.K := by
    rw [StoredAtr.K, StoredAtr.K, (same_of_bytes same).2 1 there]
  have sum : other.sum = atr.sum := by
    rw [StoredAtr.sum, StoredAtr.sum, same]
  have found' := found
  rw [← same] at found'
  rw [Accepted, Accepted, announced_iff found, announced_iff found', K, sum]

theorem accepted_truncated (missing : announcedBytes (atr.bytes.drop 1) = none) (same : other.bytes = atr.bytes) :
    other.Accepted ↔ NamesOther other.memory atr.length 1 ∧ atr.sum = 0 := by
  have sum : other.sum = atr.sum := by
    rw [StoredAtr.sum, StoredAtr.sum, same]
  rw [← same] at missing
  rw [Accepted, truncated_iff missing, (same_of_bytes same).1, sum]

/-- A disguised ATR decides alone where it names another protocol or nobody can. -/
theorem decidesAlone_disguised (present : 0 < atr.length) (disguised : atr.Disguised) :
    atr.DecidesAlone ↔ (NamesInside atr.memory atr.length 1 ∨ ¬ LeadsOut atr.memory atr.length 1) := by
  obtain ⟨missing, sum⟩ := disguised
  constructor
  · intro decides
    by_cases leads : LeadsOut atr.memory atr.length 1
    · have first := decides (atr.withBehind 0x81) (atr.bytes_withBehind _)
      have second := decides (atr.withBehind 0) (atr.bytes_withBehind _)
      have accepted := (accepted_truncated missing (atr.bytes_withBehind _)).mpr ⟨leads.names, sum⟩
      have names := (accepted_truncated missing (atr.bytes_withBehind _)).mp (second.mpr (first.mp accepted))
      exact .inl names.1.of_zeros
    · exact .inr leads
  · intro alone other same
    have inside := (same_of_bytes same).2
    have back : ∀ index, index < atr.length → atr.memory index = other.memory index := by
      intro index below
      exact (inside index below).symm
    rw [accepted_truncated missing same, accepted_truncated missing rfl, and_iff_left sum, and_iff_left sum]
    cases alone with
    | inl names => exact iff_of_true (namesInside_congr inside names).names names.names
    | inr keeps =>
        by_cases names : NamesInside atr.memory atr.length 1
        · exact iff_of_true (namesInside_congr inside names).names names.names
        · apply iff_of_false
          · intro others
            cases others.inside_or present with
            | inl inside' => exact names (namesInside_congr back inside')
            | inr leads => exact keeps (leadsOut_congr back leads)
          · intro own
            exact (own.inside_or present).elim names keeps

/-- The ATR decides alone whether it is accepted, and has what is then looked at, exactly where it keeps to itself. -/
theorem keepsToItself_iff (present : 0 < atr.length) (m_ApduNorm : ApduNorm) (warm : Bool) :
    (atr.DecidesAlone ∧ (atr.Accepted → (scanInterface? atr.bytes m_ApduNorm warm).isSome)) ↔
      atr.KeepsToItself m_ApduNorm warm := by
  cases found : announcedBytes (atr.bytes.drop 1) with
  | some announced =>
      obtain ⟨scan, scanned, _⟩ := scan_inside found m_ApduNorm warm
      rw [KeepsToItself, Disguised, found, scanned]
      exact iff_of_true ⟨decidesAlone_of_complete found, fun _ => rfl⟩ fun disguised => nomatch disguised.1
  | none =>
      have accepted := accepted_truncated found rfl
      by_cases sum : atr.sum = 0
      · have disguised : atr.Disguised := ⟨found, sum⟩
        rw [KeepsToItself, decidesAlone_disguised present disguised, accepted, and_iff_left sum,
          forall_prop_of_true disguised]
        constructor
        · intro ⟨alone, looked⟩
          by_cases names : NamesInside atr.memory atr.length 1
          · exact .inr ⟨names, looked names.names⟩
          · exact .inl ⟨names, alone.resolve_left names⟩
        · intro keeps
          cases keeps with
          | inl refused =>
              refine ⟨.inr refused.2, ?_⟩
              intro names
              exact ((names.inside_or present).elim refused.1 refused.2).elim
          | inr names => exact ⟨.inl names.1, fun _ => names.2⟩
      · have refused (other : StoredAtr) (same : other.bytes = atr.bytes) : ¬ other.Accepted := by
          rw [accepted_truncated found same]
          exact fun both => sum both.2
        apply iff_of_true
        · refine ⟨fun other same => iff_of_false (refused other same) (refused atr rfl), ?_⟩
          intro accepted
          exact absurd accepted (refused atr rfl)
        · exact fun disguised => absurd disguised.2 sum

end StoredAtr

/-! ## Scanning more than the ATR -/

variable {data more : List UInt8} {m_ApduNorm : ApduNorm} {members : InterfaceBytes}

/-- The bytes of the ATR are the first of these. -/
def Begins (data more : List UInt8) : Prop := ∀ (index : Nat) (byte : UInt8), data[index]? = some byte → more[index]? = some byte

theorem interfaceByte?_more (begins : Begins data more) {Dx mask default : UInt8} {ptr : Nat} {result : UInt8 × Nat}
    (found : interfaceByte? data Dx mask ptr default = some result) :
    interfaceByte? more Dx mask ptr default = some result := by
  rw [interfaceByte?] at found ⊢
  split at found
  · case isTrue there =>
      rw [Option.map_eq_some_iff] at found
      obtain ⟨byte, cell, same⟩ := found
      rw [if_pos there, begins _ _ cell, Option.map_some, same]
  · case isFalse absent =>
      rw [if_neg absent]
      exact found

theorem scanT1?_more (begins : Begins data more) {Dx : UInt8} {ptr : Nat} {result : InterfaceBytes × Bool}
    (found : scanT1? data m_ApduNorm Dx members ptr = some result) :
    scanT1? more m_ApduNorm Dx members ptr = some result := by
  simp only [scanT1?, Option.bind_eq_bind, Option.bind_eq_some_iff] at found
  obtain ⟨TA3, first, TB3, second, TC3, third, same⟩ := found
  simp only [scanT1?, Option.bind_eq_bind, interfaceByte?_more begins first, interfaceByte?_more begins second,
    interfaceByte?_more begins third, Option.bind_some]
  exact same

theorem scanTD1?_more (begins : Begins data more) {error : Bool} {ptr : Nat} {scan : InterfaceScan}
    (found : scanTD1? data m_ApduNorm members error ptr = some scan) :
    scanTD1? more m_ApduNorm members error ptr = some scan := by
  simp only [scanTD1?, Option.bind_eq_bind, Option.bind_eq_some_iff] at found
  obtain ⟨TD1, place, TA2, first, TC2, second, rest⟩ := found
  simp only [scanTD1?, Option.bind_eq_bind, begins _ _ place, interfaceByte?_more begins first,
    interfaceByte?_more begins second, Option.bind_some]
  split at rest
  · case isTrue set =>
      rw [if_pos set]
      rw [Option.bind_eq_some_iff] at rest
      obtain ⟨Dx, cell, rest⟩ := rest
      rw [begins _ _ cell, Option.bind_some]
      split at rest
      · case isTrue t1 =>
          rw [if_pos t1]
          rw [Option.bind_eq_some_iff] at rest
          obtain ⟨wrong, scanned, same⟩ := rest
          rw [scanT1?_more begins scanned, Option.bind_some]
          exact same
      · case isFalse other =>
          rw [if_neg other]
          exact rest
  · case isFalse last =>
      rw [if_neg last]
      exact rest

theorem scanInterface?_more (begins : Begins data more) {warm : Bool} {scan : InterfaceScan}
    (found : scanInterface? data m_ApduNorm warm = some scan) : scanInterface? more m_ApduNorm warm = some scan := by
  simp only [scanInterface?, Option.bind_eq_bind, Option.bind_eq_some_iff] at found
  obtain ⟨T0, place, TA1, first, TB1, second, TC1, third, rest⟩ := found
  simp only [scanInterface?, Option.bind_eq_bind, begins _ _ place, interfaceByte?_more begins first,
    interfaceByte?_more begins second, interfaceByte?_more begins third, Option.bind_some]
  split at rest
  · case isTrue set =>
      rw [if_pos set]
      exact scanTD1?_more begins rest
  · case isFalse last =>
      rw [if_neg last]
      exact rest

/-- Only TD1 with a protocol of the reader makes a card specific without an error. -/
theorem scanTD1_specific {atr : Nat → UInt8} {m_TC1 : UInt8} {error : Bool} {ptr : Nat}
    (right : (scanTD1 atr m_ApduNorm m_TC1 error ptr).error = 0) :
    (scanTD1 atr m_ApduNorm m_TC1 error ptr).TD1 &&& 0x0f = 0 ∨ (scanTD1 atr m_ApduNorm m_TC1 error ptr).TD1 &&& 0x0f = 1 := by
  have small : ∀ byte : UInt8, ¬ byte &&& 0x0f > 1 → byte &&& 0x0f = 0 ∨ byte &&& 0x0f = 1 := by decide +kernel
  have clear {flag : Bool} (none : flag.toNat = 0) : flag = false := by
    cases flag with
    | false => rfl
    | true => contradiction
  simp only [scanTD1] at right ⊢
  split at right
  · case isTrue set =>
      rw [if_pos set]
      have none := clear right
      simp only [Bool.or_eq_false_iff, decide_eq_false_iff_not] at none
      exact small _ none.1.1.1.1.1.2
  · case isFalse last =>
      rw [if_neg last]
      have none := clear right
      simp only [Bool.or_eq_false_iff, decide_eq_false_iff_not] at none
      exact small _ none.1.1.1.1.2

theorem scanATR_specific {atr : Nat → UInt8} {m_ATR_Length : Nat} {warm : Bool}
    (right : (scanATR atr m_ATR_Length m_ApduNorm warm).error = 0)
    (specific : (scanATR atr m_ATR_Length m_ApduNorm warm).specific = true) :
    (scanATR atr m_ATR_Length m_ApduNorm warm).TD1 &&& 0x0f = 0 ∨
      (scanATR atr m_ATR_Length m_ApduNorm warm).TD1 &&& 0x0f = 1 := by
  simp only [scanATR] at right specific ⊢
  split at right
  · case isTrue accepted =>
      rw [if_pos accepted] at specific ⊢
      simp only [scanInterface] at right specific ⊢
      split at right
      · case isTrue more =>
          rw [if_pos more]
          exact scanTD1_specific right
      · case isFalse last =>
          rw [if_neg last] at specific
          contradiction
  · case isFalse refused =>
      split at right
      · contradiction
      · contradiction

end Cyberjack.Eca
