import Cyberjack.Foundation.Loop
import Cyberjack.Foundation.Reads
import Cyberjack.Eca.Transfer

namespace Cyberjack.Eca

open Cyberjack.Foundation

/-! # Key files

`CEC30Reader::_CtIsKeyUpdateRecommended`: the walk through a file of
certificates that checks it, and what such a file is.
-/

structure tKeyInfo where
  KNr : UInt8
  Version : UInt8
deriving Repr, DecidableEq

/-- `m_ReaderInfo.Keys` -/
structure KeySlots where
  first : tKeyInfo
  second : tKeyInfo
deriving Repr, DecidableEq

namespace KeySlots

def emptySlot : tKeyInfo := ⟨0xff, 0xff⟩

def Vacant (Keys : KeySlots) : Prop := Keys.first = emptySlot ∨ Keys.second = emptySlot

/-- A slot has the key in an older version. -/
def Outdated (Keys : KeySlots) (number version : UInt8) : Prop :=
  (number = Keys.first.KNr ∧ version > Keys.first.Version) ∨
    (number = Keys.second.KNr ∧ version > Keys.second.Version)

variable {Keys : KeySlots} {number version : UInt8}

instance : Decidable Keys.Vacant := by
  unfold Vacant
  infer_instance

instance : Decidable (Keys.Outdated number version) := by
  unfold Outdated
  infer_instance

end KeySlots

/-- The variables of the walk. -/
structure WalkState where
  ptr : Nat
  len : Nat
  IsRoot : Bool
  KV : UInt8 → UInt8
  IsRecommended : Bool
  EstimatedUpdateTime : UInt32

def WalkState.start (data : List UInt8) : WalkState := ⟨0, data.length, true, fun _ => 0, false, 0⟩

/-- The length and the key of a certificate. -/
structure CertificateHead where
  help : Nat
  number : UInt8
  version : UInt8
deriving Repr, DecidableEq

/-- The tests up to the one for the version. -/
def readHead (data : List UInt8) (state : WalkState) : Reads CjError CertificateHead := do
  Reads.refuseIf .dataCorrupt (state.len < 23 ∨ (state.IsRoot = false ∧ state.len < 36))
  Reads.expect .dataCorrupt data state.ptr [0x7F, 0x21, 0x82]
  let help ← Reads.short data (state.ptr + 3)
  Reads.refuseIf .dataCorrupt (help < 18 ∨ (state.IsRoot = false ∧ help < 31))
  Reads.refuseIf .dataCorrupt (state.len - 5 < help)
  Reads.expect .dataCorrupt data (state.ptr + 5) [0x52, 0x04, 0x65, 0x63, 0x6F, 0x6D, 0x51, 0x02]
  Reads.expect .dataCorrupt data (state.ptr + 15) [0x81, 0x82]
  let number ← Reads.byte data (state.ptr + 13)
  let version ← Reads.byte data (state.ptr + 14)
  Reads.refuseIf .dataCorrupt (state.KV number ≥ version)
  return ⟨help, number, version⟩

/-- The tests of the signature object, which begins at `ptr` behind a key of `size` bytes. -/
def readSignature (data : List UInt8) (help size ptr : Nat) : Reads CjError Nat := do
  Reads.expect .dataCorrupt data ptr [0x83, 0x82]
  let help3 ← Reads.short data (ptr + 2)
  Reads.refuseIf .dataCorrupt (help3 < 9 ∨ size + 4 + help3 ≠ help)
  Reads.expect .dataCorrupt data (ptr + 4) [0x51, 0x02]
  Reads.expect .dataCorrupt data (ptr + 8) [0x84, 0x82]
  let help4 ← Reads.short data (ptr + 10)
  Reads.refuseIf .dataCorrupt (help3 ≠ help4 + 8)
  return ptr + 4 + help3

/-- The tests of the key and of the signature; the pointer behind them. -/
def readBody (data : List UInt8) (IsRoot : Bool) (help ptr : Nat) : Reads CjError Nat := do
  let help1 ← Reads.short data (ptr + 12)
  Reads.refuseIf .dataCorrupt (help < 17 + help1 ∨ (IsRoot = false ∧ help < 30 + help1) ∨ help1 < 1)
  let help2 ← Reads.byte data (ptr + 15 + help1)
  let tag ← Reads.byte data (ptr + 14 + help1)
  Reads.refuseIf .dataCorrupt (tag ≠ 0x82 ∨ (IsRoot = true ∧ 16 + help1 + help2.toNat ≠ help) ∨
    (IsRoot = false ∧ help < 29 + help1 + help2.toNat) ∨ help2 < 1)
  if IsRoot then return ptr + (16 + help1 + help2.toNat)
  else readSignature data help (16 + help1 + help2.toNat) (ptr + (16 + help1 + help2.toNat))

inductive WalkEnd where
  | outside
  | corrupt (IsRecommended : Bool) (EstimatedUpdateTime : UInt32)
  | complete (IsRecommended : Bool) (EstimatedUpdateTime : UInt32) (KV : UInt8 → UInt8)

def WalkState.stop (state : WalkState) : Stop CjError → WalkEnd
  | .outside => .outside
  | .refused _ => .corrupt state.IsRecommended state.EstimatedUpdateTime

/-- The two reasons to recommend the update. -/
def WalkState.recommend (Keys : KeySlots) (head : CertificateHead) (state : WalkState) : WalkState :=
  let outdated := if Keys.Outdated head.number head.version then 5000 else 0
  let vacant := if Keys.Vacant ∧ state.KV head.number = 0 then 1000 else 0
  { state with
    IsRecommended := state.IsRecommended || outdated != 0 || vacant != 0
    EstimatedUpdateTime := state.EstimatedUpdateTime + outdated + vacant }

/-- One pass of the `for` loop. -/
def certificateBody (Keys : KeySlots) (data : List UInt8) : Body WalkState Unit Empty WalkEnd :=
  fun state _ =>
    if state.len = 0 then
      ([], .done (.complete state.IsRecommended state.EstimatedUpdateTime state.KV))
    else
      match readHead data state with
      | .error stop => ([], .done (state.stop stop))
      | .ok head =>
          let recommended := state.recommend Keys head
          match readBody data state.IsRoot head.help (state.ptr + 5) with
          | .error stop => ([], .done (recommended.stop stop))
          | .ok ptr =>
              ([], .again { recommended with
                ptr := ptr
                len := state.len - 5 - head.help
                IsRoot := false
                KV := Function.update state.KV head.number head.version })

/-- `CEC30Reader::_CtIsKeyUpdateRecommended`, up to a number of passes. -/
def recommendation (Keys : KeySlots) (data : List UInt8) (passes : Nat) :
    Run WalkState Unit Empty WalkEnd :=
  run (certificateBody Keys data) (.start data) (List.replicate passes ())

/-! ## What a key file is -/

/-- The key that has signed a certificate, and its signature. -/
structure Signer where
  number : UInt8
  version : UInt8
  signature : List UInt8
  nonempty : signature ≠ []

def Signer.encode (signer : Signer) : List UInt8 :=
  [0x83, 0x82] ++ shortBytes (signer.signature.length + 8) ++
    [0x51, 0x02, signer.number, signer.version, 0x84, 0x82] ++ shortBytes signer.signature.length ++
    signer.signature

def signatureObject : Option Signer → List UInt8
  | none => []
  | some signer => signer.encode

structure Certificate where
  number : UInt8
  version : UInt8
  modulus : List UInt8
  exponent : List UInt8
  signer : Option Signer
  modulus_nonempty : modulus ≠ []
  exponent_nonempty : exponent ≠ []
  exponent_short : exponent.length < 256
  bounded : 16 + modulus.length + exponent.length + (signatureObject signer).length < 65536

namespace Certificate

def keyObject (certificate : Certificate) : List UInt8 :=
  [0x52, 0x04, 0x65, 0x63, 0x6F, 0x6D, 0x51, 0x02] ++ [certificate.number, certificate.version] ++
    [0x81, 0x82] ++ (shortBytes certificate.modulus.length ++ certificate.modulus ++
      [0x82, UInt8.ofNat certificate.exponent.length] ++ certificate.exponent)

def content (certificate : Certificate) : List UInt8 :=
  certificate.keyObject ++ signatureObject certificate.signer

def encode (certificate : Certificate) : List UInt8 :=
  [0x7F, 0x21, 0x82] ++ shortBytes certificate.content.length ++ certificate.content

end Certificate

/-- The first certificate is one of a root key, the others are signed. -/
def Chained : Bool → List Certificate → Prop
  | _, [] => True
  | IsRoot, certificate :: rest => certificate.signer.isNone = IsRoot ∧ Chained false rest

/-- Every version is above that of the same number before. -/
def Rising (KV : UInt8 → UInt8) : List Certificate → Prop
  | [] => True
  | certificate :: rest =>
      KV certificate.number < certificate.version ∧
        Rising (Function.update KV certificate.number certificate.version) rest

variable {data : List UInt8} {state : WalkState} {help ptr size : Nat}

/-- The bytes that the tests of `readHead` read. -/
def headBytes (head : CertificateHead) : List UInt8 :=
  [0x7F, 0x21, 0x82] ++ shortBytes head.help ++
    ([0x52, 0x04, 0x65, 0x63, 0x6F, 0x6D, 0x51, 0x02] ++ [head.number, head.version] ++ [0x81, 0x82])

theorem stands_headBytes_iff {head : CertificateHead} :
    Stands data ptr (headBytes head) ↔
      Stands data ptr [0x7F, 0x21, 0x82] ∧ Stands data (ptr + 3) (shortBytes head.help) ∧
      Stands data (ptr + 5) [0x52, 0x04, 0x65, 0x63, 0x6F, 0x6D, 0x51, 0x02] ∧
      Stands data (ptr + 13) [head.number] ∧ Stands data (ptr + 14) [head.version] ∧
      Stands data (ptr + 15) [0x81, 0x82] := by
  simp only [headBytes, stands_append, stands_pair, List.length_append, List.length_cons,
    List.length_nil, length_shortBytes, Nat.add_assoc, Nat.reduceAdd, and_assoc]

theorem readHead_eq_ok {head : CertificateHead} :
    readHead data state = .ok head ↔
      (23 ≤ state.len ∧ (state.IsRoot = false → 36 ≤ state.len)) ∧
      (18 ≤ head.help ∧ (state.IsRoot = false → 31 ≤ head.help)) ∧ head.help < 65536 ∧
      head.help ≤ state.len - 5 ∧ state.KV head.number < head.version ∧
      Stands data state.ptr (headBytes head) := by
  simp only [readHead, stands_headBytes_iff, Reads.bind_eq_ok, Reads.refuseIf_eq_ok,
    Reads.expect_eq_ok, Reads.short_eq_ok, Reads.byte_eq_ok, Reads.pure_eq_ok, exists_const]
  constructor
  · rintro ⟨long, tag, help, ⟨bounded, length⟩, least, inside, holder, keyTag, number, first, version,
      second, newer, rfl⟩
    simp only [not_or, not_and, not_lt, ge_iff_le, UInt8.not_le] at *
    exact ⟨long, least, bounded, inside, newer, tag, length, holder, first, second, keyTag⟩
  · rintro ⟨long, least, bounded, inside, newer, tag, length, holder, first, second, keyTag⟩
    simp only [not_or, not_and, not_lt, ge_iff_le, UInt8.not_le]
    exact ⟨long, tag, head.help, ⟨bounded, length⟩, least, inside, holder, keyTag, head.number, first,
      head.version, second, newer, rfl⟩

@[simp] theorem Signer.length_encode (signer : Signer) :
    signer.encode.length = 12 + signer.signature.length := by
  simp only [encode, List.length_append, List.length_cons, List.length_nil, length_shortBytes]

theorem Signer.stands_encode_iff (signer : Signer) :
    Stands data ptr signer.encode ↔
      Stands data ptr [0x83, 0x82] ∧ Stands data (ptr + 2) (shortBytes (signer.signature.length + 8)) ∧
      Stands data (ptr + 4) [0x51, 0x02] ∧ Stands data (ptr + 6) [signer.number] ∧
      Stands data (ptr + 7) [signer.version] ∧ Stands data (ptr + 8) [0x84, 0x82] ∧
      Stands data (ptr + 10) (shortBytes signer.signature.length) ∧
      Stands data (ptr + 12) signer.signature := by
  have tagged : [0x51, 0x02, signer.number, signer.version, 0x84, 0x82] =
      ([0x51, 0x02] : List UInt8) ++ [signer.number] ++ [signer.version] ++ [0x84, 0x82] := rfl
  simp only [encode, tagged, stands_append, List.length_append, List.length_cons, List.length_nil,
    length_shortBytes, Nat.reduceAdd, and_assoc]

theorem readSignature_eq_ok {after : Nat} (bounded : help < 65536)
    (inside : ptr + (help - size) ≤ data.length) :
    readSignature data help size ptr = .ok after ↔
      ∃ signer : Signer, Stands data ptr signer.encode ∧ size + signer.encode.length = help ∧
        after = ptr + signer.encode.length := by
  simp only [readSignature, Reads.bind_eq_ok, Reads.refuseIf_eq_ok, Reads.expect_eq_ok,
    Reads.short_eq_ok, Reads.pure_eq_ok, exists_const, Signer.length_encode, Signer.stands_encode_iff]
  constructor
  · rintro ⟨tag, help3, ⟨_, length3⟩, consistent, signerTag, signatureTag, help4, ⟨_, length4⟩, equal, rfl⟩
    have total : help3 = help4 + 8 ∧ 9 ≤ help3 ∧ size + 4 + help3 = help := by omega
    obtain ⟨number, first⟩ := exists_stands (show ptr + 6 < data.length by omega)
    obtain ⟨version, second⟩ := exists_stands (show ptr + 7 < data.length by omega)
    obtain ⟨signature, rfl, stands⟩ := exists_stands_slice (show ptr + 12 + help4 ≤ data.length by omega)
    have nonempty : signature ≠ [] := List.length_pos_iff.mp (by omega)
    rw [total.1] at length3
    exact ⟨⟨number, version, signature, nonempty⟩,
      ⟨tag, length3, signerTag, first, second, signatureTag, length4, stands⟩, by dsimp only; omega, by dsimp only; omega⟩
  · rintro ⟨signer, ⟨tag, length3, signerTag, _, _, signatureTag, length4, _⟩, total, rfl⟩
    have positive := List.length_pos_iff.mpr signer.nonempty
    exact ⟨tag, signer.signature.length + 8, ⟨by omega, length3⟩, by omega, signerTag, signatureTag,
      signer.signature.length, ⟨by omega, length4⟩, by omega, by omega⟩

theorem signatureObject_least {signer : Option Signer} (signed : signer.isNone = false) :
    13 ≤ (signatureObject signer).length := by
  cases signer with
  | none => contradiction
  | some signer =>
      have nonempty := List.length_pos_iff.mpr signer.nonempty
      simp only [signatureObject, Signer.length_encode]
      omega

def keyBytes (modulus exponent : List UInt8) : List UInt8 :=
  shortBytes modulus.length ++ modulus ++ [0x82, UInt8.ofNat exponent.length] ++ exponent

theorem stands_keyBytes_iff {modulus exponent : List UInt8} :
    Stands data (ptr + 12) (keyBytes modulus exponent) ↔
      Stands data (ptr + 12) (shortBytes modulus.length) ∧ Stands data (ptr + 14) modulus ∧
      Stands data (ptr + 14 + modulus.length) [0x82] ∧
      Stands data (ptr + 15 + modulus.length) [UInt8.ofNat exponent.length] ∧
      Stands data (ptr + 16 + modulus.length) exponent := by
  have second : ptr + 12 + (2 + modulus.length) = ptr + 14 + modulus.length := by omega
  have third : ptr + 14 + modulus.length + 1 = ptr + 15 + modulus.length := by omega
  have fourth : ptr + 12 + (2 + modulus.length + 2) = ptr + 16 + modulus.length := by omega
  simp only [keyBytes, stands_append, stands_pair, List.length_append, List.length_cons, List.length_nil,
    length_shortBytes, and_assoc, Nat.reduceAdd, Nat.zero_add, second, third, fourth]

theorem readBody_eq_ok {IsRoot : Bool} {after : Nat} (bounded : help < 65536)
    (inside : ptr + help ≤ data.length) :
    readBody data IsRoot help ptr = .ok after ↔
      ∃ (modulus exponent : List UInt8) (signer : Option Signer),
        (modulus ≠ [] ∧ exponent ≠ [] ∧ exponent.length < 256 ∧ signer.isNone = IsRoot) ∧
        16 + modulus.length + exponent.length + (signatureObject signer).length = help ∧
        Stands data (ptr + 12) (keyBytes modulus exponent) ∧
        Stands data (ptr + 16 + modulus.length + exponent.length) (signatureObject signer) ∧
        after = ptr + help := by
  simp only [readBody, Reads.bind_eq_ok, Reads.refuseIf_eq_ok, Reads.short_eq_ok, Reads.byte_eq_ok,
    exists_const, stands_keyBytes_iff]
  constructor
  · rintro ⟨help1, ⟨_, length1⟩, least, help2, length2, tag, tagged, consistent, finished⟩
    have small := help2.toNat_lt
    have positive : 1 ≤ help1 ∧ 1 ≤ help2.toNat ∧ tag = 0x82 := by
      have one : help2 < 1 ↔ help2.toNat < 1 := UInt8.lt_iff_toNat_lt
      rw [one] at consistent
      refine ⟨by omega, by omega, not_not.mp fun other => consistent (.inl other)⟩
    obtain ⟨first, second, rfl⟩ := positive
    obtain ⟨modulus, rfl, modulusStands⟩ :=
      exists_stands_slice (show ptr + 14 + help1 ≤ data.length by omega)
    obtain ⟨exponent, counted, exponentStands⟩ :=
      exists_stands_slice (show ptr + 16 + modulus.length + help2.toNat ≤ data.length by
        cases IsRoot <;> simp only [true_and, Bool.false_eq_true, false_and] at consistent <;> omega)
    have same : help2 = UInt8.ofNat exponent.length := by
      rw [counted, UInt8.ofNat_toNat]
    rw [same] at length2
    cases IsRoot with
    | true =>
        rw [if_pos rfl, Reads.pure_eq_ok] at finished
        simp only [true_and] at consistent
        refine ⟨modulus, exponent, none, ⟨List.length_pos_iff.mp first, List.length_pos_iff.mp (by omega),
          by omega, rfl⟩, ?_, ⟨length1, modulusStands, tagged, length2, exponentStands⟩, stands_nil, ?_⟩
        · simp only [signatureObject, List.length_nil]
          omega
        · omega
    | false =>
        simp only [true_and] at consistent
        rw [if_neg (by simp), readSignature_eq_ok bounded (by omega)] at finished
        obtain ⟨signer, stands, total, rfl⟩ := finished
        refine ⟨modulus, exponent, some signer, ⟨List.length_pos_iff.mp first,
          List.length_pos_iff.mp (by omega), by omega, rfl⟩, ?_,
          ⟨length1, modulusStands, tagged, length2, exponentStands⟩, ?_, ?_⟩
        · simp only [signatureObject]
          omega
        · rw [counted]
          simpa only [signatureObject, Nat.add_assoc] using stands
        · omega
  · rintro ⟨modulus, exponent, signer, ⟨some1, some2, short, root⟩, total,
      ⟨length1, _, tagged, length2, _⟩, stands, rfl⟩
    have positive1 := List.length_pos_iff.mpr some1
    have positive2 := List.length_pos_iff.mpr some2
    have counted : (UInt8.ofNat exponent.length).toNat = exponent.length := by
      rw [UInt8.toNat_ofNat']
      omega
    have one : ¬ UInt8.ofNat exponent.length < 1 := by
      rw [UInt8.lt_iff_toNat_lt, counted]
      exact Nat.not_lt.mpr positive2
    have least : IsRoot = false → 13 ≤ (signatureObject signer).length := by
      intro signed
      exact signatureObject_least (root.trans signed)
    refine ⟨modulus.length, ⟨by omega, length1⟩, ?_, UInt8.ofNat exponent.length, length2, 0x82, tagged, ?_⟩
    · cases IsRoot with
      | true =>
          simp only [Bool.true_eq_false, false_and, false_or]
          omega
      | false =>
          have signed := least rfl
          simp only [true_and]
          omega
    · rw [counted]
      cases signer with
      | none =>
          cases root
          simp only [signatureObject, List.length_nil] at total
          refine ⟨?_, ?_⟩
          · simp only [ne_eq, not_true_eq_false, true_and, Option.isNone_none, one, or_false, false_or,
              Bool.true_eq_false, false_and]
            omega
          · rw [if_pos (by rfl), Reads.pure_eq_ok]
            omega
      | some signer =>
          cases root
          simp only [signatureObject] at total stands
          have nonempty := least rfl
          simp only [signatureObject] at nonempty
          refine ⟨?_, ?_⟩
          · simp only [ne_eq, not_true_eq_false, Option.isNone_some, one, or_false, false_or,
              Bool.false_eq_true, false_and, true_and]
            omega
          · rw [if_neg (by simp), readSignature_eq_ok bounded (by omega)]
            refine ⟨signer, ?_, by omega, by omega⟩
            simpa only [Nat.add_assoc] using stands

theorem readHead_inside (inside : state.ptr + state.len = data.length) :
    Reads.Inside (readHead data state) := by
  refine Reads.inside_bind Reads.inside_refuseIf fun _ passed => ?_
  have long := Reads.refuseIf_eq_ok.mp passed
  have bounds : state.ptr + 23 ≤ data.length := by omega
  refine Reads.inside_bind (Reads.inside_expect (by simp only [List.length_cons, List.length_nil]; omega))
    fun _ _ => ?_
  refine Reads.inside_bind (Reads.inside_short (by omega)) fun help _ => ?_
  refine Reads.inside_bind Reads.inside_refuseIf fun _ _ => ?_
  refine Reads.inside_bind Reads.inside_refuseIf fun _ _ => ?_
  refine Reads.inside_bind (Reads.inside_expect (by simp only [List.length_cons, List.length_nil]; omega))
    fun _ _ => ?_
  refine Reads.inside_bind (Reads.inside_expect (by simp only [List.length_cons, List.length_nil]; omega))
    fun _ _ => ?_
  refine Reads.inside_bind (Reads.inside_byte (by omega)) fun number _ => ?_
  refine Reads.inside_bind (Reads.inside_byte (by omega)) fun version _ => ?_
  exact Reads.inside_bind Reads.inside_refuseIf fun _ _ => Reads.inside_pure

theorem readSignature_inside (inside : ptr + 13 ≤ data.length) :
    Reads.Inside (readSignature data help size ptr) := by
  refine Reads.inside_bind (Reads.inside_expect (by simp only [List.length_cons, List.length_nil]; omega))
    fun _ _ => ?_
  refine Reads.inside_bind (Reads.inside_short (by omega)) fun help3 _ => ?_
  refine Reads.inside_bind Reads.inside_refuseIf fun _ _ => ?_
  refine Reads.inside_bind (Reads.inside_expect (by simp only [List.length_cons, List.length_nil]; omega))
    fun _ _ => ?_
  refine Reads.inside_bind (Reads.inside_expect (by simp only [List.length_cons, List.length_nil]; omega))
    fun _ _ => ?_
  refine Reads.inside_bind (Reads.inside_short (by omega)) fun help4 _ => ?_
  exact Reads.inside_bind Reads.inside_refuseIf fun _ _ => Reads.inside_pure

/-- The lengths are tested before the bytes they lead to are read. -/
theorem readBody_inside {IsRoot : Bool} (least : 18 ≤ help) (inside : ptr + help ≤ data.length) :
    Reads.Inside (readBody data IsRoot help ptr) := by
  refine Reads.inside_bind (Reads.inside_short (by omega)) fun help1 _ => ?_
  refine Reads.inside_bind Reads.inside_refuseIf fun _ passed => ?_
  have fits := Reads.refuseIf_eq_ok.mp passed
  refine Reads.inside_bind (Reads.inside_byte (by omega)) fun help2 _ => ?_
  refine Reads.inside_bind (Reads.inside_byte (by omega)) fun tag _ => ?_
  refine Reads.inside_bind Reads.inside_refuseIf fun _ passed => ?_
  have rest := Reads.refuseIf_eq_ok.mp passed
  cases IsRoot with
  | true => exact Reads.inside_pure
  | false =>
      simp only [true_and] at rest
      exact readSignature_inside (by omega)

namespace Certificate

def head (certificate : Certificate) : CertificateHead :=
  ⟨certificate.content.length, certificate.number, certificate.version⟩

theorem length_keyObject (certificate : Certificate) :
    certificate.keyObject.length = 16 + certificate.modulus.length + certificate.exponent.length := by
  simp only [keyObject, List.length_append, List.length_cons, List.length_nil, length_shortBytes]
  omega

theorem length_content (certificate : Certificate) :
    certificate.content.length = 16 + certificate.modulus.length + certificate.exponent.length +
      (signatureObject certificate.signer).length := by
  rw [content, List.length_append, length_keyObject]

theorem length_encode (certificate : Certificate) :
    certificate.encode.length = 5 + certificate.content.length := by
  simp only [encode, List.length_append, List.length_cons, List.length_nil, length_shortBytes]

theorem encode_eq (certificate : Certificate) :
    certificate.encode = headBytes certificate.head ++
      keyBytes certificate.modulus certificate.exponent ++ signatureObject certificate.signer := by
  simp only [encode, headBytes, keyBytes, content, keyObject, head, List.append_assoc]

theorem stands_encode_iff (certificate : Certificate) :
    Stands data ptr certificate.encode ↔ Stands data ptr (headBytes certificate.head) ∧
      Stands data (ptr + 17) (keyBytes certificate.modulus certificate.exponent) ∧
      Stands data (ptr + 21 + certificate.modulus.length + certificate.exponent.length)
        (signatureObject certificate.signer) := by
  have behind : (headBytes certificate.head ++ keyBytes certificate.modulus certificate.exponent).length =
      21 + certificate.modulus.length + certificate.exponent.length := by
    simp only [headBytes, keyBytes, List.length_append, List.length_cons, List.length_nil,
      length_shortBytes]
    omega
  rw [encode_eq, stands_append, stands_append, behind, and_assoc]
  simp only [Nat.add_assoc]
  rfl

end Certificate

/-- The next certificate is one that the walk passes. -/
def Passes (data : List UInt8) (state : WalkState) (certificate : Certificate) : Prop :=
  certificate.signer.isNone = state.IsRoot ∧ state.KV certificate.number < certificate.version ∧
    Stands data state.ptr certificate.encode

/-- The state behind a certificate. -/
def WalkState.behind (Keys : KeySlots) (certificate : Certificate) (state : WalkState) : WalkState :=
  { state.recommend Keys certificate.head with
    ptr := state.ptr + certificate.encode.length
    len := state.len - certificate.encode.length
    IsRoot := false
    KV := Function.update state.KV certificate.number certificate.version }

/-- The walk is where its pointer and its length say. -/
def WalkState.Placed (data : List UInt8) (state : WalkState) : Prop := state.ptr + state.len = data.length

variable {Keys : KeySlots} {next : WalkState}

theorem certificateBody_inside (placed : state.Placed data) :
    (certificateBody Keys data state ()).2 ≠ .done .outside := by
  rw [certificateBody]
  split
  · simp
  cases found : readHead data state with
  | error stop =>
      cases stop with
      | outside => exact absurd found (readHead_inside placed)
      | refused error => simp [WalkState.stop]
  | ok head =>
      obtain ⟨_, least, _, fits, _, stands⟩ := readHead_eq_ok.mp found
      have bounds := stands.inside (by simp [headBytes])
      cases passed : readBody data state.IsRoot head.help (state.ptr + 5) with
      | error stop =>
          cases stop with
          | outside =>
              have inside : state.ptr + 5 + head.help ≤ data.length := by
                rw [← placed]
                omega
              exact absurd passed (readBody_inside least.1 inside)
          | refused error => simp [passed, WalkState.stop]
      | ok ptr => simp [passed]

/-- The tests of the head let every certificate through that the walk passes. -/
theorem readHead_passes {certificate : Certificate} (placed : state.Placed data)
    (passes : Passes data state certificate) : readHead data state = .ok certificate.head := by
  obtain ⟨root, newer, stands⟩ := passes
  have whole := stands.inside (by simp [Certificate.encode])
  have bounded := certificate.bounded
  have length := certificate.length_content
  have positive1 := List.length_pos_iff.mpr certificate.modulus_nonempty
  have positive2 := List.length_pos_iff.mpr certificate.exponent_nonempty
  have total : state.ptr + state.len = data.length := placed
  have least : state.IsRoot = false → 13 ≤ (signatureObject certificate.signer).length := by
    intro signed
    exact signatureObject_least (root.trans signed)
  rw [certificate.length_encode] at whole
  rw [readHead_eq_ok]
  dsimp only [Certificate.head]
  refine ⟨⟨by omega, fun signed => ?_⟩, ⟨by omega, fun signed => ?_⟩, by omega, by omega, newer,
    (certificate.stands_encode_iff.mp stands).1⟩
  · have := least signed
    omega
  · have := least signed
    omega

theorem certificateBody_again_iff (placed : state.Placed data) (more : state.len ≠ 0) :
    (certificateBody Keys data state ()).2 = .again next ↔
      ∃ certificate, Passes data state certificate ∧ next = state.behind Keys certificate := by
  rw [certificateBody, if_neg more]
  constructor
  · intro passed
    cases found : readHead data state with
    | error stop => simp [found] at passed
    | ok head =>
        obtain ⟨_, least, bounded, fits, newer, headStands⟩ := readHead_eq_ok.mp found
        have inside : state.ptr + 5 + head.help ≤ data.length := by
          rw [← placed]
          omega
        cases ended : readBody data state.IsRoot head.help (state.ptr + 5) with
        | error stop => simp [found, ended] at passed
        | ok ptr =>
            simp only [found, ended, Next.again.injEq] at passed
            obtain ⟨modulus, exponent, signer, ⟨some1, some2, short, root⟩, total, keyStands, stands, rfl⟩ :=
              (readBody_eq_ok bounded inside).mp ended
            have equal : 16 + modulus.length + exponent.length + (signatureObject signer).length < 65536 := by
              omega
            let certificate : Certificate :=
              ⟨head.number, head.version, modulus, exponent, signer, some1, some2, short, equal⟩
            have length : certificate.content.length = head.help := by
              rw [certificate.length_content]
              exact total
            have same : certificate.head = head := by
              rw [Certificate.head, length]
            refine ⟨certificate, ⟨root, newer, ?_⟩, ?_⟩
            · rw [Certificate.stands_encode_iff, same]
              exact ⟨headStands, keyStands, stands⟩
            · rw [← passed, WalkState.behind, same, certificate.length_encode, length, Nat.sub_sub,
                ← Nat.add_assoc]
  · rintro ⟨certificate, passes, rfl⟩
    have found := readHead_passes placed passes
    obtain ⟨root, _, stands⟩ := passes
    have whole := stands.inside (by simp [Certificate.encode])
    have bounded := certificate.bounded
    have length := certificate.length_content
    rw [certificate.length_encode] at whole
    obtain ⟨_, keyStands, signatureStands⟩ := certificate.stands_encode_iff.mp stands
    have ended : readBody data state.IsRoot certificate.head.help (state.ptr + 5) =
        .ok (state.ptr + 5 + certificate.head.help) := by
      dsimp only [Certificate.head]
      rw [readBody_eq_ok (by omega) (by omega)]
      refine ⟨certificate.modulus, certificate.exponent, certificate.signer,
        ⟨certificate.modulus_nonempty, certificate.exponent_nonempty, certificate.exponent_short, root⟩,
        length.symm, keyStands, signatureStands, rfl⟩
    simp only [found, ended, WalkState.behind, certificate.length_encode, Nat.sub_sub, Nat.add_assoc]
    rfl

/-- What the certificates of a file have to be behind a state of the walk. -/
structure Continues (data : List UInt8) (state : WalkState) (certificates : List Certificate) : Prop where
  chained : Chained state.IsRoot certificates
  rising : Rising state.KV certificates
  text : data.drop state.ptr = certificates.flatMap Certificate.encode

/-- A file of certificates: every version is positive and above those of its number before. -/
structure KeyFile (certificates : List Certificate) : Prop where
  chained : Chained true certificates
  positive : ∀ certificate ∈ certificates, 0 < certificate.version
  increasing : certificates.Pairwise fun earlier later =>
    earlier.number = later.number → earlier.version < later.version

theorem rising_iff {KV : UInt8 → UInt8} {certificates : List Certificate} :
    Rising KV certificates ↔
      (∀ certificate ∈ certificates, KV certificate.number < certificate.version) ∧
      certificates.Pairwise fun earlier later =>
        earlier.number = later.number → earlier.version < later.version := by
  induction certificates generalizing KV with
  | nil => simp [Rising]
  | cons certificate rest ih =>
      rw [Rising, ih, List.pairwise_cons]
      constructor
      · rintro ⟨newer, above, increasing⟩
        have later : ∀ other ∈ rest, certificate.number = other.number →
            certificate.version < other.version := by
          intro other member same
          have raised := above other member
          rwa [← same, Function.update_self] at raised
        refine ⟨?_, later, increasing⟩
        intro other member
        cases member with
        | head => exact newer
        | tail _ member =>
            by_cases same : certificate.number = other.number
            · exact same ▸ UInt8.lt_trans newer (later other member same)
            · have raised := above other member
              rwa [Function.update_of_ne (Ne.symm same)] at raised
      · rintro ⟨above, later, increasing⟩
        refine ⟨above certificate List.mem_cons_self, ?_, increasing⟩
        intro other member
        by_cases same : certificate.number = other.number
        · rw [← same, Function.update_self]
          exact later other member same
        · rw [Function.update_of_ne (Ne.symm same)]
          exact above other (List.mem_cons_of_mem _ member)

theorem continues_start_iff {certificates : List Certificate} :
    Continues data (.start data) certificates ↔
      KeyFile certificates ∧ data = certificates.flatMap Certificate.encode := by
  constructor
  · rintro ⟨chained, rising, text⟩
    obtain ⟨positive, increasing⟩ := rising_iff.mp rising
    exact ⟨⟨chained, positive, increasing⟩, text⟩
  · rintro ⟨⟨chained, positive, increasing⟩, text⟩
    exact ⟨chained, rising_iff.mpr ⟨positive, increasing⟩, text⟩

/-- Where the certificates begin, and the end of the file. -/
def boundaries (ptr : Nat) : List Certificate → List Nat
  | [] => [ptr]
  | certificate :: rest => ptr :: boundaries (ptr + certificate.encode.length) rest

theorem stands_of_drop {chunk rest : List UInt8} (split : data.drop ptr = chunk ++ rest) :
    Stands data ptr chunk ∧ data.drop (ptr + chunk.length) = rest := by
  refine ⟨⟨rest, split.symm⟩, ?_⟩
  rw [← List.drop_drop, split, List.drop_left]

theorem drop_of_stands {chunk : List UInt8} (stands : Stands data ptr chunk) :
    data.drop ptr = chunk ++ data.drop (ptr + chunk.length) := by
  obtain ⟨rest, split⟩ := stands
  rw [← List.drop_drop, ← split, List.drop_left]

variable (Keys) in
theorem continues_cons_iff {certificate : Certificate} {rest : List Certificate} :
    Continues data state (certificate :: rest) ↔
      Passes data state certificate ∧ Continues data (state.behind Keys certificate) rest := by
  constructor
  · rintro ⟨chained, rising, text⟩
    rw [List.flatMap_cons] at text
    obtain ⟨stands, left⟩ := stands_of_drop text
    exact ⟨⟨chained.1, rising.1, stands⟩, chained.2, rising.2, left⟩
  · rintro ⟨⟨root, newer, stands⟩, chained, rising, text⟩
    refine ⟨⟨root, chained⟩, ⟨newer, rising⟩, ?_⟩
    rw [drop_of_stands stands, List.flatMap_cons]
    exact congrArg _ text

theorem continues_end_iff {certificates : List Certificate} (placed : state.Placed data)
    (ended : state.len = 0) : Continues data state certificates ↔ certificates = [] := by
  have nothing : data.drop state.ptr = [] := by
    have total : state.ptr + state.len = data.length := placed
    exact List.drop_eq_nil_of_le (by omega)
  constructor
  · intro continues
    cases certificates with
    | nil => rfl
    | cons certificate rest =>
        have text := continues.text
        rw [nothing, List.flatMap_cons] at text
        exact absurd text.symm (by simp [Certificate.encode])
  · rintro rfl
    exact ⟨trivial, trivial, nothing⟩

variable (Keys) in
theorem behind_placed {certificate : Certificate} (placed : state.Placed data)
    (passes : Passes data state certificate) : (state.behind Keys certificate).Placed data := by
  have inside := passes.2.2.inside (by simp [Certificate.encode])
  have total : state.ptr + state.len = data.length := placed
  change state.ptr + certificate.encode.length + (state.len - certificate.encode.length) = data.length
  omega

variable (Keys) in
theorem behind_shorter {certificate : Certificate} (placed : state.Placed data)
    (passes : Passes data state certificate) :
    state.len = (state.behind Keys certificate).len + certificate.encode.length := by
  have inside := passes.2.2.inside (by simp [Certificate.encode])
  have total : state.ptr + state.len = data.length := placed
  change state.len = state.len - certificate.encode.length + certificate.encode.length
  omega

variable (Keys) in
/-- In front of the end of the file the next certificate is the one that the pass finds. -/
theorem continues_again {certificates : List Certificate} (placed : state.Placed data)
    (more : state.len ≠ 0) (continues : Continues data state certificates) :
    ∃ certificate rest, certificates = certificate :: rest ∧
      (certificateBody Keys data state ()).2 = .again (state.behind Keys certificate) ∧
      Continues data (state.behind Keys certificate) rest := by
  cases certificates with
  | nil =>
      have length := congrArg List.length continues.text
      have total : state.ptr + state.len = data.length := placed
      rw [List.length_drop, List.flatMap_nil, List.length_nil] at length
      omega
  | cons certificate rest =>
      obtain ⟨passes, behind⟩ := (continues_cons_iff Keys).mp continues
      exact ⟨certificate, rest, rfl,
        (certificateBody_again_iff placed more).mpr ⟨certificate, passes, rfl⟩, behind⟩

/-- `Res` is `CJ_SUCCESS`. -/
def WalkEnd.Complete : WalkEnd → Prop
  | .complete _ _ _ => True
  | _ => False

def WalkEnd.IsRecommended : WalkEnd → Bool
  | .complete IsRecommended _ _ => IsRecommended
  | .corrupt IsRecommended _ => IsRecommended
  | .outside => false

theorem certificateBody_incomplete {walked : WalkEnd} (more : state.len ≠ 0)
    (ended : (certificateBody Keys data state ()).2 = .done walked) : ¬ walked.Complete := by
  rw [certificateBody, if_neg more] at ended
  have stopped (at_ : WalkState) (stop : Stop CjError) : ¬ (at_.stop stop).Complete := by
    cases stop <;> exact id
  cases found : readHead data state with
  | error stop =>
      simp only [found, Next.done.injEq] at ended
      rw [← ended]
      exact stopped _ _
  | ok head =>
      cases passed : readBody data state.IsRoot head.help (state.ptr + 5) with
      | error stop =>
          simp only [found, passed, Next.done.injEq] at ended
          rw [← ended]
          exact stopped _ _
      | ok ptr => simp [found, passed] at ended

variable (Keys) in
/-- The walk ends inside the data, and completes exactly on certificates. -/
theorem walk_ends {passes : Nat} (placed : state.Placed data) (enough : state.len < passes) :
    ∃ walked, (run (certificateBody Keys data) state (List.replicate passes ())).outcome = .done walked ∧
      walked ≠ .outside ∧
      (walked.Complete ↔ ∃ certificates, Continues data state certificates) := by
  induction passes generalizing state with
  | zero => omega
  | succ passes ih =>
      rw [List.replicate_succ]
      cases stepped : certificateBody Keys data state () with
      | mk output after =>
          have second : (certificateBody Keys data state ()).2 = after := by rw [stepped]
          by_cases ended : state.len = 0
          · have result := second
            rw [certificateBody, if_pos ended] at result
            cases result
            rw [run_done stepped]
            exact ⟨_, rfl, by simp, iff_of_true trivial ⟨[], (continues_end_iff placed ended).mpr rfl⟩⟩
          cases after with
          | again next =>
              obtain ⟨certificate, passed, rfl⟩ := (certificateBody_again_iff placed ended).mp second
              have shorter := behind_shorter Keys placed passed
              have length := certificate.length_encode
              obtain ⟨walked, outcome, inside, complete⟩ :=
                ih (behind_placed Keys placed passed) (by omega)
              rw [run_again stepped]
              refine ⟨walked, outcome, inside, complete.trans ⟨?_, ?_⟩⟩
              · rintro ⟨certificates, continues⟩
                exact ⟨certificate :: certificates, (continues_cons_iff Keys).mpr ⟨passed, continues⟩⟩
              · rintro ⟨certificates, continues⟩
                obtain ⟨found, rest, rfl, again, behind⟩ := continues_again Keys placed ended continues
                rw [second, Next.again.injEq] at again
                exact ⟨rest, again ▸ behind⟩
          | done walked =>
              rw [run_done stepped]
              refine ⟨walked, rfl, ?_, iff_of_false (certificateBody_incomplete ended second) ?_⟩
              · rintro rfl
                exact certificateBody_inside placed second
              · rintro ⟨certificates, continues⟩
                obtain ⟨_, _, _, again, _⟩ := continues_again Keys placed ended continues
                rw [second] at again
                contradiction

theorem length_le_text (certificates : List Certificate) :
    certificates.length ≤ (certificates.flatMap Certificate.encode).length := by
  induction certificates with
  | nil => exact Nat.le_refl 0
  | cons certificate rest ih =>
      rw [List.flatMap_cons, List.length_append, List.length_cons, certificate.length_encode]
      omega

/-- The passes of a complete walk begin at the certificates. -/
theorem walk_boundaries {passes : Nat} {certificates : List Certificate} (placed : state.Placed data)
    (enough : certificates.length < passes) (continues : Continues data state certificates) :
    (run (certificateBody Keys data) state (List.replicate passes ())).turns.map (·.before.ptr) =
      boundaries state.ptr certificates := by
  induction certificates generalizing passes state with
  | nil =>
      obtain ⟨passes, rfl⟩ := Nat.exists_eq_succ_of_ne_zero (Nat.ne_of_gt enough)
      have ended : state.len = 0 := by
        by_contra more
        obtain ⟨_, _, split, _⟩ := continues_again Keys placed more continues
        contradiction
      rw [List.replicate_succ, run_done (by rw [certificateBody, if_pos ended])]
      rfl
  | cons certificate rest ih =>
      obtain ⟨passes, rfl⟩ := Nat.exists_eq_succ_of_ne_zero (Nat.ne_of_gt (Nat.zero_lt_of_lt enough))
      obtain ⟨passed, behind⟩ := (continues_cons_iff Keys).mp continues
      have shorter := behind_shorter Keys placed passed
      have length := certificate.length_encode
      have again : (certificateBody Keys data state ()).2 = .again (state.behind Keys certificate) :=
        (certificateBody_again_iff placed (by omega)).mpr ⟨certificate, passed, rfl⟩
      have stepped : certificateBody Keys data state () =
          ((certificateBody Keys data state ()).1, .again (state.behind Keys certificate)) := by
        rw [← again]
      rw [List.replicate_succ, run_again stepped, List.map_cons, boundaries,
        ih (behind_placed Keys placed passed) (Nat.lt_of_succ_lt_succ enough) behind]
      rfl

end Cyberjack.Eca
