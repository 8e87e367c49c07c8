import Cyberjack.Eca.AtrLength

namespace Cyberjack.Eca.ContactlessAtr

open Cyberjack.Foundation

/-! # The ATR of a contactless card

`CECRReader::IfdPower` behind the call of its base, with the bytes that the
responses have brought.
-/

/-- A byte of memory; `none` is one that no response has brought. -/
abbrev Cell := Option UInt8

/-- What must not happen. -/
inductive Broken where
  | writtenOutside
  | notReceived
deriving Repr, DecidableEq

/-- The answer to the activation, which is in `m_ATR`. -/
structure ActivationResponse where
  bytes : List UInt8
  long : 6 ≤ bytes.length
  short : bytes.length ≤ 12

def ActivationResponse.m_ATR (response : ActivationResponse) : Buffer Cell 33 where
  cells := response.bytes.map some ++ List.replicate (33 - response.bytes.length) none
  length_cells := by
    have short := response.short
    simp only [List.length_append, List.length_map, List.length_replicate]
    omega

/-- What `Transfer` brings for the request of the ATS. -/
inductive AtsResponse where
  | failed
  | answered (bStatus : UInt8) (abData : List UInt8)
deriving Repr, DecidableEq

/-- How `IfdPower` ends; `copied` historical bytes are in an ATR that has been built. -/
inductive Ending where
  | returned (result : RSCT_IFD_RESULT)
  | built (copied : Nat) (m_ATR : Buffer Cell 33) (m_ATR_Length : Nat) (tooSmall : Bool)
deriving DecidableEq

def copy (m_ATR : Buffer Cell 33) (offset : Nat) (cells : List Cell) : Except Broken (Buffer Cell 33) :=
  match m_ATR.store? offset cells with
  | none => .error .writtenOutside
  | some m_ATR => .ok m_ATR

/-- A byte that decides how the function goes on. -/
def received (bytes : List UInt8) (index : Nat) : Except Broken UInt8 :=
  match bytes[index]? with
  | none => .error .notReceived
  | some byte => .ok byte

/-- `count` bytes of a response from `offset` on. -/
def slice (bytes : List UInt8) (offset count : Nat) : List Cell := (List.range count).map fun index => bytes[offset + index]?

/-- The exclusive or of cells; it is known where all of them are. -/
def xorCells (cells : List Cell) : Cell := cells.foldl (fun tck cell => tck.bind fun tck => cell.map (tck ^^^ ·)) (some 0)

/-- The end of both branches. -/
def finish (OrginalATR_Length copied : Nat) (m_ATR : Buffer Cell 33) (m_ATR_Length : Nat) : Except Broken Ending := do
  let tck := xorCells ((m_ATR.cells.take m_ATR_Length).drop 1)
  let m_ATR ← copy m_ATR m_ATR_Length [tck]
  return .built copied m_ATR (m_ATR_Length + 1) (OrginalATR_Length < m_ATR_Length + 1)

/-- A type A card is selected and the bytes are those of its ATS. -/
def selectTCL (OrginalATR_Length : Nat) (m_ATR : Buffer Cell 33) (bStatus : UInt8) (abData : List UInt8) :
    Except Broken Ending :=
  if bStatus &&& 3 = 2 then return .returned .noMedia
  else if bStatus &&& 3 = 1 ∨ bStatus &&& 0x40 ≠ 0 then return .returned .ioTimeout
  else do
    let m_ATR ← copy m_ATR 0 [some 0x3b, some 0x80, some 0x80, some 0x01]
    let first ← received abData 0
    if first > 15 then return .returned .noMedia
    else
      let i := GetBits (((← received abData 2) &&& 0x70) >>> 4)
      let first := first - UInt8.ofNat (2 + i)
      let m_ATR ← copy m_ATR 1 [(m_ATR.get 1).map (· ||| first)]
      let m_ATR ← copy m_ATR 4 (slice abData (3 + i) first.toNat)
      finish OrginalATR_Length first.toNat m_ATR (first.toNat + 4)

/-- The name of a Mifare Classic card, where there is one. -/
def mifareName (merkSAK : UInt8) : List Cell :=
  if merkSAK &&& 0xdf = 0x08 then [some 0x03, some 0x00, some 0x01]
  else if merkSAK &&& 0xdf = 0x09 then [some 0x03, some 0x00, some 0x26]
  else if merkSAK &&& 0xdf = 0x18 then [some 0x03, some 0x00, some 0x02]
  else []

def mifare (OrginalATR_Length : Nat) (m_ATR : Buffer Cell 33) (merkSAK : UInt8) : Except Broken Ending := do
  let m_ATR ← copy m_ATR 0 ([0x3b, 0x8f, 0x80, 0x01, 0x80, 0x4f, 0x0c, 0xA0, 0x00, 0x00, 0x03, 0x06, 0x00, 0x00, 0x00,
    0x00, 0x00, 0x00, 0x00].map some)
  let m_ATR ← copy m_ATR 12 (mifareName merkSAK)
  finish OrginalATR_Length 15 m_ATR 19

def typeB (OrginalATR_Length : Nat) (m_ATR : Buffer Cell 33) : Except Broken Ending := do
  let m_ATR ← copy m_ATR 4 ((m_ATR.cells.drop 1).take 8)
  let m_ATR ← copy m_ATR 0 [some 0x3b, some 0x88, some 0x80, some 0x01]
  finish OrginalATR_Length 8 m_ATR 12

/-- A card of type A is selected for its ATS. -/
def bDoSelectTCL (PrefereMifareClasic : Bool) (SAK : UInt8) : Bool :=
  SAK &&& 0x20 != 0 && !((SAK == 0x28 || SAK == 0x38) && PrefereMifareClasic)

/-- `CECRReader::IfdPower` for a card that has been activated. -/
def IfdPower (PrefereMifareClasic : Bool) (OrginalATR_Length : Nat) (response : ActivationResponse) (ats : AtsResponse) :
    Except Broken Ending := do
  let first ← received response.bytes 0
  if first = 0x41 then
    let SAK ← received response.bytes 1
    if bDoSelectTCL PrefereMifareClasic SAK then
      match ats with
      | .failed => return .returned .deviceNotConnected
      | .answered bStatus abData => selectTCL OrginalATR_Length response.m_ATR bStatus abData
    else mifare OrginalATR_Length response.m_ATR SAK
  else if first = 0x42 then typeB OrginalATR_Length response.m_ATR
  else return .returned .success

/-! ## What should come out -/

/-- All bytes of the ATR have been received, or are the driver's own, and `check_len` accepts them. -/
structure BuiltRight (copied : Nat) (m_ATR : Buffer Cell 33) (m_ATR_Length : Nat) (bytes : List UInt8) : Prop where
  known : m_ATR.cells.take m_ATR_Length = bytes.map some
  length : m_ATR_Length = bytes.length
  accepted : check_len (fun index => bytes.getD index 0) bytes.length = 1
  count : (bytes.getD 1 0 &&& 0x0f).toNat = copied
  sum : xorSum (bytes.drop 1) = 0

/-- No write is outside, no decision depends on a byte that is missing, and an ATR is right. -/
def Right (ended : Except Broken Ending) : Prop :=
  match ended with
  | .error _ => False
  | .ok (.returned _) => True
  | .ok (.built copied m_ATR m_ATR_Length _) => ∃ bytes, BuiltRight copied m_ATR m_ATR_Length bytes

/-- The ATS brings its first byte and, up to 15, the third one and as many bytes as the first counts, the
ones in front of the historical bytes among them. -/
def EnoughAts (abData : List UInt8) : Prop :=
  ∃ first : UInt8, abData[0]? = some first ∧
    (first ≤ 15 → ∃ third : UInt8, abData[2]? = some third ∧ 2 + GetBits ((third &&& 0x70) >>> 4) ≤ first.toNat ∧
      (first.toNat = 2 + GetBits ((third &&& 0x70) >>> 4) ∨ first.toNat < abData.length))

/-- The ATS of a card that is selected is enough, and a type B card has answered with nine bytes. -/
structure Enough (PrefereMifareClasic : Bool) (response : ActivationResponse) (ats : AtsResponse) : Prop where
  typeA : response.bytes.getD 0 0 = 0x41 → bDoSelectTCL PrefereMifareClasic (response.bytes.getD 1 0) = true →
    ∀ bStatus abData, ats = .answered bStatus abData → bStatus &&& 3 ≠ 2 → bStatus &&& 3 ≠ 1 → bStatus &&& 0x40 = 0 →
      EnoughAts abData
  typeB : response.bytes.getD 0 0 = 0x42 → 9 ≤ response.bytes.length

/-! ## Cells -/

variable {cells : List Cell} {m_ATR after : Buffer Cell 33} {offset count : Nat}

theorem known_iff : (∃ known : List UInt8, cells = known.map some) ↔ none ∉ cells := by
  induction cells with
  | nil => simp
  | cons cell rest ih =>
      cases cell with
      | none =>
          constructor
          · intro ⟨known, same⟩
            cases known with
            | nil => contradiction
            | cons byte known => cases same
          · intro missing
            exact absurd List.mem_cons_self missing
      | some byte =>
          rw [List.mem_cons, not_or, ← ih]
          constructor
          · intro ⟨known, same⟩
            cases known with
            | nil => contradiction
            | cons first known =>
                rw [List.map_cons, List.cons.injEq] at same
                exact ⟨nofun, known, same.2⟩
          · intro ⟨_, known, same⟩
            exact ⟨byte :: known, by rw [List.map_cons, same]⟩

theorem xorCells_known (known : List UInt8) : xorCells (known.map some) = some (xorSum known) := by
  have general : ∀ start, (known.map some).foldl (fun tck cell => tck.bind fun tck => cell.map (tck ^^^ ·)) (some start) =
      some (known.foldl (· ^^^ ·) start) := by
    induction known with
    | nil => exact fun start => rfl
    | cons byte rest ih => exact fun start => ih (start ^^^ byte)
  exact general 0

theorem slice_length (bytes : List UInt8) (offset count : Nat) : (slice bytes offset count).length = count := by
  rw [slice, List.length_map, List.length_range]

theorem slice_known_iff (bytes : List UInt8) : none ∉ slice bytes offset count ↔ count = 0 ∨ offset + count ≤ bytes.length := by
  rw [slice, List.mem_map]
  constructor
  · intro all
    by_cases nothing : count = 0
    · exact .inl nothing
    · by_cases inside : offset + count ≤ bytes.length
      · exact .inr inside
      · refine absurd ⟨count - 1, ?_, ?_⟩ all
        · rw [List.mem_range]
          omega
        · rw [List.getElem?_eq_none_iff]
          omega
  · intro enough missing
    obtain ⟨index, member, nothing⟩ := missing
    rw [List.mem_range] at member
    rw [List.getElem?_eq_none_iff] at nothing
    omega

theorem copy_ok (room : offset + cells.length ≤ 33) : copy m_ATR offset cells = .ok (m_ATR.store offset cells room) := by
  rw [copy, Buffer.store?_of_room m_ATR room]

theorem copy_outside (outside : 33 < offset + cells.length) : copy m_ATR offset cells = .error .writtenOutside := by
  have none_ : m_ATR.store? (offset : Int) cells = none := by
    rw [Buffer.store?_eq_none]
    omega
  rw [copy, none_]

/-! ## The ATR -/

theorem T0_low (few : count ≤ 15) :
    (0x80 ||| UInt8.ofNat count) &&& 0x80 ≠ 0 ∧ GetBits ((0x80 ||| UInt8.ofNat count) &&& 0xf0) = 1 ∧
      ((0x80 ||| UInt8.ofNat count) &&& 0x0f).toNat = count := by
  have all : ∀ count < 16, (0x80 ||| UInt8.ofNat count) &&& 0x80 ≠ 0 ∧
      GetBits ((0x80 ||| UInt8.ofNat count) &&& 0xf0) = 1 ∧ ((0x80 ||| UInt8.ofNat count) &&& 0x0f).toNat = count := by
    decide
  exact all count (by omega)

/-- The form that all these ATRs have. -/
def synthetic (hist : List UInt8) : List UInt8 := [0x3b, 0x80 ||| UInt8.ofNat hist.length, 0x80, 0x01] ++ hist

theorem announcedBytes_synthetic {hist : List UInt8} (few : hist.length ≤ 15) (tck : UInt8) :
    announcedBytes ((synthetic hist ++ [tck]).drop 1) = some (true, hist ++ [tck]) := by
  obtain ⟨set, one, _⟩ := T0_low few
  have ends : GetBits ((0x01 : UInt8) &&& 0xf0) = 0 := by decide
  have goesOn : GetBits ((0x80 : UInt8) &&& 0xf0) = 1 := by decide
  have last : announcedBytes (0x01 :: (hist ++ [tck])) = some (false, hist ++ [tck]) := by
    rw [announcedBytes, ends, if_neg (Nat.not_lt_zero _), if_neg (by decide), List.drop_zero]
  have second : announcedBytes (0x80 :: 0x01 :: (hist ++ [tck])) = some (true, hist ++ [tck]) := by
    rw [announcedBytes, goesOn, if_neg (by simp), if_pos (by decide), Nat.sub_self, List.drop_zero, last]
    simp
    decide
  change announcedBytes ((0x80 ||| UInt8.ofNat hist.length) :: 0x80 :: 0x01 :: (hist ++ [tck])) = _
  rw [announcedBytes, one, if_neg (by simp), if_pos set, Nat.sub_self, List.drop_zero, second]
  simp

theorem synthetic_accepted {hist : List UInt8} (few : hist.length ≤ 15) {tck : UInt8}
    (sum : xorSum ((synthetic hist ++ [tck]).drop 1) = 0) :
    check_len (fun index => (synthetic hist ++ [tck]).getD index 0) (synthetic hist ++ [tck]).length = 1 := by
  let atr : StoredAtr := ⟨fun index => (synthetic hist ++ [tck]).getD index 0, (synthetic hist ++ [tck]).length, by
    simp only [synthetic, List.length_append, List.length_cons, List.length_nil]
    omega⟩
  have bytes : atr.bytes = synthetic hist ++ [tck] := by
    apply List.ext_getElem
    · simp [atr, StoredAtr.bytes]
    · intro index first second
      simp [atr, StoredAtr.bytes, List.getElem?_eq_getElem second]
  have found : announcedBytes (atr.bytes.drop 1) = some (true, hist ++ [tck]) := by
    rw [bytes, announcedBytes_synthetic few]
  exact (atr.announced_iff found).mpr (.inl ⟨rfl, by rw [StoredAtr.sum, bytes, sum]⟩)

/-- The end of both branches is right exactly if all historical bytes have been received. -/
theorem finish_right_iff {OrginalATR_Length copied : Nat} {hist : List Cell} (size : hist.length = copied) (few : copied ≤ 15)
    (begins : m_ATR.cells.take (copied + 4) = [some 0x3b, some (0x80 ||| UInt8.ofNat copied), some 0x80, some 0x01] ++ hist) :
    Right (finish OrginalATR_Length copied m_ATR (copied + 4)) ↔ none ∉ hist := by
  rw [finish, begins]
  generalize sum : xorCells (([some 0x3b, some (0x80 ||| UInt8.ofNat copied), some 0x80, some 0x01] ++ hist).drop 1) = tck
  have room : copied + 4 + [tck].length ≤ 33 := by
    rw [List.length_singleton]
    omega
  have whole := Buffer.take_store m_ATR room
  rw [begins, List.length_singleton] at whole
  rw [copy_ok room]
  constructor
  · intro ⟨bytes, right⟩ missing
    have unknown : none ∈ bytes.map some := by
      rw [← right.known, whole]
      simp [missing]
    exact known_iff.mp ⟨bytes, rfl⟩ unknown
  · intro all
    obtain ⟨known, same⟩ := known_iff.mpr all
    have length : known.length = copied := by rw [← size, same, List.length_map]
    have header : [some 0x3b, some (0x80 ||| UInt8.ofNat copied), some 0x80, some 0x01] ++ hist =
        (synthetic known).map some := by
      rw [same, synthetic, List.map_append, length]
      rfl
    rw [header, ← List.map_drop, xorCells_known] at sum
    subst sum
    rw [header] at whole
    have zero : xorSum ((synthetic known ++ [xorSum ((synthetic known).drop 1)]).drop 1) = 0 := by
      rw [List.drop_append_of_le_length (by simp [synthetic]), xorSum_append, xorSum_cons, xorSum_nil, UInt8.xor_zero,
        UInt8.xor_self]
    refine ⟨synthetic known ++ [xorSum ((synthetic known).drop 1)], ?_, ?_, synthetic_accepted (by omega) zero, ?_, zero⟩
    · rw [List.map_append]
      exact whole
    · simp [synthetic, length]
    · rw [← length]
      exact (T0_low (by omega)).2.2

/-! ## The branches -/

theorem mifareName_known (merkSAK : UInt8) : (mifareName merkSAK).length ≤ 3 ∧ none ∉ mifareName merkSAK := by
  unfold mifareName
  split
  · simp
  · split
    · simp
    · split <;> simp

theorem mifare_right (OrginalATR_Length : Nat) (m_ATR : Buffer Cell 33) (merkSAK : UInt8) :
    Right (mifare OrginalATR_Length m_ATR merkSAK) := by
  obtain ⟨short, known⟩ := mifareName_known merkSAK
  have room : 0 + ([0x3b, 0x8f, 0x80, 0x01, 0x80, 0x4f, 0x0c, 0xA0, 0x00, 0x00, 0x03, 0x06, 0x00, 0x00, 0x00,
    0x00, 0x00, 0x00, 0x00].map some : List Cell).length ≤ 33 := by decide
  have first := Buffer.take_store_zero m_ATR room
  rw [mifare, copy_ok room]
  generalize m_ATR.store 0 _ room = written at first
  have inside : 12 + (mifareName merkSAK).length ≤ 33 := by omega
  change Right (do
    let m_ATR ← copy written 12 (mifareName merkSAK)
    finish OrginalATR_Length 15 m_ATR 19)
  rw [copy_ok inside]
  have front : written.cells.take 12 = (written.cells.take 19).take 12 := by
    rw [List.take_take]
    rfl
  have begins : (written.store 12 (mifareName merkSAK) inside).cells.take (15 + 4) =
      [some 0x3b, some (0x80 ||| UInt8.ofNat 15), some 0x80, some 0x01] ++
        ([some 0x80, some 0x4f, some 0x0c, some 0xA0, some 0x00, some 0x00, some 0x03, some 0x06] ++ mifareName merkSAK ++
          (List.replicate 7 (some 0x00)).drop (mifareName merkSAK).length) := by
    rw [Buffer.take_store_of_ge written inside (by omega), front, show written.cells.take 19 = _ from first, ← List.drop_drop]
    rfl
  apply (finish_right_iff _ (Nat.le_refl 15) begins).mpr
  · intro missing
    rw [List.mem_append, List.mem_append] at missing
    rcases missing with (missing | missing) | missing
    · simp at missing
    · exact known missing
    · have zeros := List.mem_of_mem_drop missing
      simp at zeros
  · simp only [List.length_append, List.length_cons, List.length_nil, List.length_drop, List.length_replicate]
    omega

theorem typeB_right_iff (OrginalATR_Length : Nat) (response : ActivationResponse) :
    Right (typeB OrginalATR_Length response.m_ATR) ↔ 9 ≤ response.bytes.length := by
  have long := response.long
  have short := response.short
  have size : ((response.m_ATR.cells.drop 1).take 8).length = 8 := by
    simp [ActivationResponse.m_ATR]
    omega
  have room : 4 + ((response.m_ATR.cells.drop 1).take 8).length ≤ 33 := by omega
  have header : 0 + ([some 0x3b, some 0x88, some 0x80, some 0x01] : List Cell).length ≤ 33 := by decide
  have moved := Buffer.take_store response.m_ATR room
  rw [size] at moved
  rw [typeB, copy_ok room]
  generalize response.m_ATR.store 4 _ room = written at moved
  change Right (do
    let m_ATR ← copy written 0 [some 0x3b, some 0x88, some 0x80, some 0x01]
    finish OrginalATR_Length 8 m_ATR 12) ↔ _
  rw [copy_ok header]
  have begins := Buffer.take_store_of_ge written header (show 0 + 4 ≤ 12 by decide)
  have four : (response.m_ATR.cells.take 4).length = 4 := by
    rw [List.length_take, response.m_ATR.length_cells]
    decide
  rw [show written.cells.take 12 = _ from moved, List.drop_left' (by rw [four]; rfl)] at begins
  change Right (finish OrginalATR_Length 8 _ (8 + 4)) ↔ _
  rw [finish_right_iff size (by decide) begins]
  by_cases nine : 9 ≤ response.bytes.length
  · refine iff_of_true ?_ nine
    rw [← known_iff]
    refine ⟨(response.bytes.drop 1).take 8, ?_⟩
    rw [ActivationResponse.m_ATR, List.drop_append_of_le_length (by simp; omega),
      List.take_append_of_le_length (by simp; omega), List.map_take, List.map_drop]
  · refine iff_of_false (fun all => all ?_) nine
    apply List.mem_of_getElem? (i := 7)
    rw [ActivationResponse.m_ATR, List.getElem?_take_of_lt (by decide), List.getElem?_drop,
      List.getElem?_append_right (by simp; omega)]
    rw [List.length_map, List.getElem?_replicate, if_pos (by omega)]

/-- The historical bytes of the ATS lie inside the ATR exactly if its first byte counts them. -/
theorem counted_iff {first : UInt8} {i : Nat} (low : first ≤ 15) (few : i ≤ 3) :
    (first - UInt8.ofNat (2 + i)).toNat ≤ 29 ↔ 2 + i ≤ first.toNat := by
  have bound : first.toNat ≤ 15 := low
  have small : (UInt8.ofNat (2 + i)).toNat = 2 + i := by
    rw [UInt8.toNat_ofNat']
    omega
  rw [UInt8.toNat_sub, small]
  omega

/-- The bytes of an ATS, whose first byte is at most 15. -/
theorem ats_right_iff (OrginalATR_Length : Nat) {i : Nat} {first : UInt8} (abData : List UInt8) (low : first ≤ 15) (few : i ≤ 3)
    (begins : m_ATR.cells.take 4 = [some 0x3b, some 0x80, some 0x80, some 0x01]) :
    Right (do
      let first := first - UInt8.ofNat (2 + i)
      let m_ATR ← copy m_ATR 1 [(m_ATR.get 1).map (· ||| first)]
      let m_ATR ← copy m_ATR 4 (slice abData (3 + i) first.toNat)
      finish OrginalATR_Length first.toNat m_ATR (first.toNat + 4)) ↔
    2 + i ≤ first.toNat ∧ (first.toNat = 2 + i ∨ first.toNat < abData.length) := by
  have T0 : m_ATR.get 1 = some 0x80 := by
    rw [Buffer.get, Buffer.getD_of_take _ begins (by decide)]
    rfl
  have room : 1 + [(m_ATR.get 1).map (· ||| (first - UInt8.ofNat (2 + i)))].length ≤ 33 := by
    rw [List.length_singleton]
    decide
  have counted := counted_iff low few
  dsimp only
  rw [copy_ok room]
  have second := Buffer.take_store_of_ge m_ATR room (show 1 + 1 ≤ 4 by decide)
  have front : m_ATR.cells.take 1 = (m_ATR.cells.take 4).take 1 := by
    rw [List.take_take]
    rfl
  rw [front, begins] at second
  generalize count_ : first - UInt8.ofNat (2 + i) = count at room counted second
  generalize m_ATR.store 1 _ room = written at second
  change Right (do
    let m_ATR ← copy written 4 (slice abData (3 + i) count.toNat)
    finish OrginalATR_Length count.toNat m_ATR (count.toNat + 4)) ↔ _
  have length := slice_length abData (3 + i) count.toNat
  by_cases inside : 2 + i ≤ first.toNat
  · have short := counted.mpr inside
    have bound : first.toNat ≤ 15 := low
    have exact_ : count.toNat = first.toNat - (2 + i) := by
      have small : (UInt8.ofNat (2 + i)).toNat = 2 + i := by
        rw [UInt8.toNat_ofNat']
        omega
      rw [← count_, UInt8.toNat_sub, small]
      omega
    have fits : 4 + (slice abData (3 + i) count.toNat).length ≤ 33 := by omega
    have third := Buffer.take_store written fits
    rw [length, Nat.add_comm 4] at third
    have header : written.cells.take 4 =
        [some 0x3b, some (0x80 ||| UInt8.ofNat count.toNat), some 0x80, some 0x01] := by
      rw [second, T0, UInt8.ofNat_toNat]
      rfl
    rw [header] at third
    rw [copy_ok fits]
    change Right (finish OrginalATR_Length count.toNat _ (count.toNat + 4)) ↔ _
    have known := @slice_known_iff (3 + i) count.toNat abData
    rw [finish_right_iff length (by omega) third, known, and_iff_right inside]
    omega
  · rw [copy_outside (by rw [length]; omega)]
    exact iff_of_false id fun both => inside both.1

theorem interfaceCount_le : ∀ third : UInt8, GetBits ((third &&& 0x70) >>> 4) ≤ 3 := by decide +kernel

theorem selectTCL_right_iff (OrginalATR_Length : Nat) (m_ATR : Buffer Cell 33) (bStatus : UInt8) (abData : List UInt8) :
    Right (selectTCL OrginalATR_Length m_ATR bStatus abData) ↔
      (bStatus &&& 3 ≠ 2 → bStatus &&& 3 ≠ 1 → bStatus &&& 0x40 = 0 → EnoughAts abData) := by
  unfold selectTCL
  by_cases absent : bStatus &&& 3 = 2
  · rw [if_pos absent]
    exact iff_of_true trivial fun present => absurd absent present
  · rw [if_neg absent]
    by_cases failed : bStatus &&& 3 = 1 ∨ bStatus &&& 0x40 ≠ 0
    · rw [if_pos failed]
      refine iff_of_true trivial fun _ active fine => ?_
      cases failed with
      | inl inactive => exact absurd inactive active
      | inr failed => exact absurd fine failed
    · rw [if_neg failed]
      rw [not_or, not_not] at failed
      have room : 0 + ([some 0x3b, some 0x80, some 0x80, some 0x01] : List Cell).length ≤ 33 := by decide
      have begins := Buffer.take_store_zero m_ATR room
      rw [copy_ok room]
      generalize m_ATR.store 0 _ room = written at begins
      have wanted : (bStatus &&& 3 ≠ 2 → bStatus &&& 3 ≠ 1 → bStatus &&& 0x40 = 0 → EnoughAts abData) ↔ EnoughAts abData :=
        ⟨fun enough => enough absent failed.1 failed.2, fun enough _ _ _ => enough⟩
      rw [wanted, EnoughAts]
      cases zero : abData[0]? with
      | none =>
          have missing : received abData 0 = .error .notReceived := by rw [received, zero]
          rw [missing]
          exact iff_of_false id fun ⟨_, same, _⟩ => by contradiction
      | some first =>
          have there : received abData 0 = .ok first := by rw [received, zero]
          rw [there]
          change Right (if first > 15 then _ else _) ↔ _
          by_cases long : first > 15
          · rw [if_pos long]
            refine iff_of_true trivial ⟨first, rfl, fun low => absurd low (UInt8.not_le.mpr long)⟩
          · rw [if_neg long]
            have low := UInt8.not_lt.mp long
            cases two : abData[2]? with
            | none =>
                have missing : received abData 2 = .error .notReceived := by rw [received, two]
                rw [missing]
                refine iff_of_false id fun ⟨other, same, rest⟩ => ?_
                cases same
                obtain ⟨_, same, _⟩ := rest low
                contradiction
            | some third =>
                have there : received abData 2 = .ok third := by rw [received, two]
                rw [there]
                refine (ats_right_iff OrginalATR_Length abData low (interfaceCount_le third) begins).trans ?_
                constructor
                · intro enough
                  exact ⟨first, rfl, fun _ => ⟨third, rfl, enough⟩⟩
                · intro ⟨other, same, rest⟩
                  cases same
                  obtain ⟨_, same, enough⟩ := rest low
                  cases same
                  exact enough

theorem received_getD {bytes : List UInt8} {index : Nat} (inside : index < bytes.length) :
    received bytes index = .ok (bytes.getD index 0) := by
  rw [received, List.getElem?_eq_getElem inside, List.getD_eq_getElem _ _ inside]

/-- The branch that a response leads to. -/
theorem IfdPower_eq (PrefereMifareClasic : Bool) (OrginalATR_Length : Nat) (response : ActivationResponse)
    (ats : AtsResponse) :
    IfdPower PrefereMifareClasic OrginalATR_Length response ats =
      if response.bytes.getD 0 0 = 0x41 then
        if bDoSelectTCL PrefereMifareClasic (response.bytes.getD 1 0) = true then
          match ats with
          | .failed => .ok (.returned .deviceNotConnected)
          | .answered bStatus abData => selectTCL OrginalATR_Length response.m_ATR bStatus abData
        else mifare OrginalATR_Length response.m_ATR (response.bytes.getD 1 0)
      else if response.bytes.getD 0 0 = 0x42 then typeB OrginalATR_Length response.m_ATR
      else .ok (.returned .success) := by
  have long := response.long
  unfold IfdPower
  rw [received_getD (show 0 < response.bytes.length by omega), received_getD (show 1 < response.bytes.length by omega)]
  rfl

/-- The ATR of a contactless card is right exactly if the responses have brought what it is made of. -/
theorem atr_right_iff (PrefereMifareClasic : Bool) (OrginalATR_Length : Nat) (response : ActivationResponse)
    (ats : AtsResponse) :
    Right (IfdPower PrefereMifareClasic OrginalATR_Length response ats) ↔ Enough PrefereMifareClasic response ats := by
  rw [IfdPower_eq]
  by_cases typeA : response.bytes.getD 0 0 = 0x41
  · have notB : response.bytes.getD 0 0 ≠ 0x42 := by
      rw [typeA]
      decide
    rw [if_pos typeA]
    by_cases selects : bDoSelectTCL PrefereMifareClasic (response.bytes.getD 1 0) = true
    · rw [if_pos selects]
      cases ats with
      | failed => exact iff_of_true trivial ⟨fun _ _ _ _ same => by contradiction, fun typeB => absurd typeB notB⟩
      | answered bStatus abData =>
          dsimp only
          rw [selectTCL_right_iff]
          constructor
          · intro enough
            refine ⟨?_, fun typeB => absurd typeB notB⟩
            intro _ _ status data same
            cases same
            exact enough
          · intro enough
            exact enough.typeA typeA selects bStatus abData rfl
    · rw [if_neg selects]
      exact iff_of_true (mifare_right _ _ _) ⟨fun _ selected => absurd selected selects, fun typeB => absurd typeB notB⟩
  · rw [if_neg typeA]
    by_cases second : response.bytes.getD 0 0 = 0x42
    · rw [if_pos second, typeB_right_iff]
      exact ⟨fun nine => ⟨fun first => absurd first typeA, fun _ => nine⟩, fun enough => enough.typeB second⟩
    · rw [if_neg second]
      exact iff_of_true trivial ⟨fun first => absurd first typeA, fun typeB => absurd typeB second⟩

/-- A type A card with an ATS whose first byte does not count the two bytes in front of the historical ones. -/
def typeACard : ActivationResponse := ⟨[0x41, 0x20, 0x04, 0x01, 0x02, 0x03, 0x04], by decide, by decide⟩

theorem shortAts_not_right : ¬ Right (IfdPower false 33 typeACard (.answered 0 [0x01, 0x00, 0x00])) := by
  rw [IfdPower_eq, if_pos (by decide), if_pos (by decide)]
  dsimp only
  rw [selectTCL_right_iff]
  intro enough
  obtain ⟨first, same, rest⟩ := enough (by decide) (by decide) (by decide)
  cases same
  obtain ⟨third, same, counts, _⟩ := rest (by decide)
  exact absurd counts (Nat.not_le.mpr (Nat.lt_of_lt_of_le (by decide) (Nat.le_add_right 2 _)))

end Cyberjack.Eca.ContactlessAtr
