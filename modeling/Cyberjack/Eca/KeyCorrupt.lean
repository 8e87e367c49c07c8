import Cyberjack.Eca.KeyUpdate

namespace Cyberjack.Eca

open Cyberjack.Foundation

/-! # Key files that are corrupt

What `CEC30Reader::CtKeyUpdate` does with a byte string that is no key file:
the walk that finds the fault also finds whether the update is recommended, and
the fault is returned only in that case.
-/

/-- The last versions behind some certificates. -/
def versionsBehind (KV : UInt8 → UInt8) : List Certificate → UInt8 → UInt8
  | [] => KV
  | certificate :: rest =>
      versionsBehind (Function.update KV certificate.number certificate.version) rest

/-- The bytes begin with the head of a certificate that passes its tests. -/
structure HeadPasses (IsRoot : Bool) (KV : UInt8 → UInt8) (bytes : List UInt8) (head : CertificateHead) :
    Prop where
  long : 23 ≤ bytes.length ∧ (IsRoot = false → 36 ≤ bytes.length)
  least : 18 ≤ head.help ∧ (IsRoot = false → 31 ≤ head.help)
  bounded : head.help < 65536
  inside : 5 + head.help ≤ bytes.length
  newer : KV head.number < head.version
  begins : headBytes head <+: bytes

/-- A key is newer than the one in a slot, or new where a slot is empty. -/
def Recommends (Keys : KeySlots) (KV : UInt8 → UInt8) (head : CertificateHead) : Prop :=
  Keys.Outdated head.number head.version ∨ (Keys.Vacant ∧ KV head.number = 0)

/-- Behind the certificates of `front` stands the head of one more, which asks for the update. -/
structure Asks (Keys : KeySlots) (IsRoot : Bool) (KV : UInt8 → UInt8) (bytes : List UInt8)
    (front : List Certificate) (rest : List UInt8) (head : CertificateHead) : Prop where
  chained : Chained IsRoot front
  rising : Rising KV front
  text : bytes = front.flatMap Certificate.encode ++ rest
  passes : HeadPasses (IsRoot && front.isEmpty) (versionsBehind KV front) rest head
  recommends : Recommends Keys (versionsBehind KV front) head

variable {Keys : KeySlots} {data bytes rest : List UInt8} {state : WalkState} {KV : UInt8 → UInt8}
  {IsRoot : Bool} {front : List Certificate} {head : CertificateHead}

theorem readHead_eq_ok_iff (placed : state.Placed data) :
    readHead data state = .ok head ↔ HeadPasses state.IsRoot state.KV (data.drop state.ptr) head := by
  have length : (data.drop state.ptr).length = state.len := by
    rw [List.length_drop, ← placed, Nat.add_sub_cancel_left]
  rw [readHead_eq_ok]
  constructor
  · rintro ⟨long, least, bounded, inside, newer, stands⟩
    exact ⟨by rwa [length], least, bounded, by omega, newer, stands⟩
  · rintro ⟨long, least, bounded, inside, newer, begins⟩
    rw [length] at long inside
    exact ⟨long, least, bounded, by omega, newer, begins⟩

theorem recommend_iff :
    (state.recommend Keys head).IsRecommended = true ↔
      state.IsRecommended = true ∨ Recommends Keys state.KV head := by
  by_cases outdated : Keys.Outdated head.number head.version <;>
    by_cases vacant : Keys.Vacant ∧ state.KV head.number = 0 <;>
      simp [WalkState.recommend, Recommends, outdated, vacant]

theorem asks_nil_iff :
    Asks Keys IsRoot KV bytes [] rest head ↔
      bytes = rest ∧ HeadPasses IsRoot KV bytes head ∧ Recommends Keys KV head := by
  constructor
  · rintro ⟨_, _, rfl, passes, recommends⟩
    rw [List.isEmpty_nil, Bool.and_true] at passes
    exact ⟨rfl, passes, recommends⟩
  · rintro ⟨rfl, passes, recommends⟩
    refine ⟨trivial, trivial, rfl, ?_, recommends⟩
    rwa [List.isEmpty_nil, Bool.and_true]

/-- The walk at a state finds a reason to recommend the update. -/
def WalkState.Asked (Keys : KeySlots) (data : List UInt8) (state : WalkState) : Prop :=
  ∃ front rest head, Asks Keys state.IsRoot state.KV (data.drop state.ptr) front rest head

theorem asks_cons_iff {certificate : Certificate} :
    Asks Keys state.IsRoot state.KV (data.drop state.ptr) (certificate :: front) rest head ↔
      Passes data state certificate ∧
        Asks Keys false (state.behind Keys certificate).KV
          (data.drop (state.behind Keys certificate).ptr) front rest head := by
  constructor
  · rintro ⟨chained, rising, text, passes, recommends⟩
    rw [List.flatMap_cons, List.append_assoc] at text
    obtain ⟨stands, left⟩ := stands_of_drop text
    rw [List.isEmpty_cons, Bool.and_false] at passes
    exact ⟨⟨chained.1, rising.1, stands⟩, chained.2, rising.2, left, passes, recommends⟩
  · rintro ⟨⟨root, newer, stands⟩, chained, rising, text, passes, recommends⟩
    refine ⟨⟨root, chained⟩, ⟨newer, rising⟩, ?_, ?_, recommends⟩
    · rw [drop_of_stands stands, List.flatMap_cons, List.append_assoc]
      exact congrArg _ text
    · rw [List.isEmpty_cons, Bool.and_false]
      exact passes

variable (Keys) in
theorem certificateBody_passes {certificate : Certificate} (placed : state.Placed data) (more : state.len ≠ 0)
    (passes : Passes data state certificate) :
    (certificateBody Keys data state ()).2 = .again (state.behind Keys certificate) :=
  (certificateBody_again_iff placed more).mpr ⟨certificate, passes, rfl⟩

/-- At a certificate that the walk passes, the reason is its own or lies behind it. -/
theorem asked_passes_iff {certificate : Certificate} (placed : state.Placed data)
    (passes : Passes data state certificate) :
    state.Asked Keys data ↔
      Recommends Keys state.KV certificate.head ∨ (state.behind Keys certificate).Asked Keys data := by
  have found := readHead_passes placed passes
  constructor
  · rintro ⟨front, rest, head, asks⟩
    cases front with
    | nil =>
        obtain ⟨_, here, recommends⟩ := asks_nil_iff.mp asks
        rw [← readHead_eq_ok_iff placed, found, Except.ok.injEq] at here
        exact .inl (here ▸ recommends)
    | cons other front =>
        obtain ⟨there, behind⟩ := asks_cons_iff.mp asks
        have more : state.len ≠ 0 := by
          have shorter := behind_shorter Keys placed passes
          have length := certificate.length_encode
          omega
        have first := certificateBody_passes Keys placed more passes
        have second := certificateBody_passes Keys placed more there
        rw [first, Next.again.injEq] at second
        rw [← second] at behind
        exact .inr ⟨front, rest, head, behind⟩
  · intro reason
    cases reason with
    | inl recommends =>
        exact ⟨[], _, certificate.head, asks_nil_iff.mpr
          ⟨rfl, (readHead_eq_ok_iff placed).mp found, recommends⟩⟩
    | inr behind =>
        obtain ⟨front, rest, head, asks⟩ := behind
        exact ⟨certificate :: front, rest, head, asks_cons_iff.mpr ⟨passes, asks⟩⟩

/-- Where the walk does not go on, the only reason is the head that it has read. -/
theorem asked_stuck_iff (placed : state.Placed data)
    (stuck : ∀ certificate, ¬ Passes data state certificate) :
    state.Asked Keys data ↔
      ∃ head, readHead data state = .ok head ∧ Recommends Keys state.KV head := by
  constructor
  · rintro ⟨front, rest, head, asks⟩
    cases front with
    | nil =>
        obtain ⟨_, here, recommends⟩ := asks_nil_iff.mp asks
        exact ⟨head, (readHead_eq_ok_iff placed).mpr here, recommends⟩
    | cons certificate front => exact absurd (asks_cons_iff.mp asks).1 (stuck certificate)
  · rintro ⟨head, found, recommends⟩
    exact ⟨[], _, head, asks_nil_iff.mpr ⟨rfl, (readHead_eq_ok_iff placed).mp found, recommends⟩⟩

theorem stop_isRecommended {stop : Stop CjError} (inside : state.stop stop ≠ .outside) :
    (state.stop stop).IsRecommended = state.IsRecommended := by
  cases stop with
  | outside => exact absurd rfl inside
  | refused error => rfl

theorem certificateBody_recommends_iff {walked : WalkEnd} (placed : state.Placed data) (more : state.len ≠ 0)
    (ended : (certificateBody Keys data state ()).2 = .done walked) :
    walked.IsRecommended = true ↔ state.IsRecommended = true ∨ state.Asked Keys data := by
  have stuck (certificate : Certificate) : ¬ Passes data state certificate := by
    intro passes
    have again := certificateBody_passes Keys placed more passes
    rw [ended] at again
    contradiction
  have inside : walked ≠ .outside := by
    rintro rfl
    exact certificateBody_inside placed ended
  rw [asked_stuck_iff placed stuck]
  rw [certificateBody, if_neg more] at ended
  cases found : readHead data state with
  | error stop =>
      simp only [found, Next.done.injEq] at ended
      subst ended
      simp [stop_isRecommended inside]
  | ok head =>
      cases passed : readBody data state.IsRoot head.help (state.ptr + 5) with
      | error stop =>
          simp only [found, passed, Next.done.injEq] at ended
          subst ended
          rw [stop_isRecommended inside, recommend_iff]
          simp
      | ok ptr => simp [found, passed] at ended

theorem nothing_asked (placed : state.Placed data) (finished : state.len = 0) :
    ¬ Asks Keys state.IsRoot state.KV (data.drop state.ptr) front rest head := by
  intro asks
  have total : state.ptr + state.len = data.length := placed
  have length := congrArg List.length asks.text
  rw [List.length_drop, List.length_append] at length
  have long := asks.passes.long.1
  omega

/-- The walk recommends the update exactly where it reaches the head of a certificate that asks for it. -/
theorem walk_recommends_iff {passes : Nat} {walked : WalkEnd} (placed : state.Placed data)
    (ended : (run (certificateBody Keys data) state (List.replicate passes ())).outcome = .done walked) :
    walked.IsRecommended = true ↔ state.IsRecommended = true ∨ state.Asked Keys data := by
  induction passes generalizing state with
  | zero => cases ended
  | succ passes ih =>
      rw [List.replicate_succ] at ended
      cases stepped : certificateBody Keys data state () with
      | mk output after =>
          have second : (certificateBody Keys data state ()).2 = after := by rw [stepped]
          by_cases finished : state.len = 0
          · rw [certificateBody, if_pos finished] at second
            cases second
            rw [run_done stepped, Next.done.injEq] at ended
            subst ended
            have nothing : ¬ state.Asked Keys data := by
              intro asked
              obtain ⟨_, _, _, asks⟩ := asked
              exact nothing_asked placed finished asks
            rw [or_iff_left nothing]
            rfl
          cases after with
          | done result =>
              rw [run_done stepped, Next.done.injEq] at ended
              subst ended
              exact certificateBody_recommends_iff placed finished second
          | again next =>
              obtain ⟨certificate, passed, rfl⟩ := (certificateBody_again_iff placed finished).mp second
              rw [run_again stepped] at ended
              rw [ih (behind_placed Keys placed passed) ended, asked_passes_iff placed passed, ← or_assoc]
              exact or_congr_left recommend_iff

/-! ## Malformed data -/

def Malformed (data : List UInt8) : Prop :=
  ¬ ∃ certificates, KeyFile certificates ∧ data = certificates.flatMap Certificate.encode

variable (Keys) in
theorem malformed_iff :
    Malformed data ↔ ∃ IsRecommended time,
      (recommendation Keys data (data.length + 1)).outcome = .done (.corrupt IsRecommended time) := by
  obtain ⟨walked, ends, inside, success, _⟩ := key_file_walked Keys data
  rw [ends _ (Nat.lt_succ_self _), Malformed, ← success]
  cases walked with
  | outside => exact absurd rfl inside
  | corrupt IsRecommended time => exact iff_of_true id ⟨_, _, rfl⟩
  | complete IsRecommended time KV =>
      refine iff_of_false (fun incomplete => incomplete trivial) ?_
      rintro ⟨_, _, same⟩
      cases same

/-- The file asks for the update, in front of its first fault. -/
def UpdateAsked (Keys : KeySlots) (data : List UInt8) : Prop :=
  ∃ front rest head, Asks Keys true (fun _ => 0) data front rest head

/-- An error is returned, and no message has been sent. -/
def Refuses (made : KeyUpdate) : Prop :=
  made.trace = [] ∧ ∃ error Result, made.outcome = .done (.returned (some error) Result)

theorem recommendation_asked_iff {walked : WalkEnd}
    (ended : (recommendation Keys data (data.length + 1)).outcome = .done walked) :
    walked.IsRecommended = true ↔ UpdateAsked Keys data := by
  have placed : (WalkState.start data).Placed data := Nat.zero_add _
  rw [walk_recommends_iff placed ended]
  exact or_iff_right Bool.false_ne_true

/-- On malformed data the reader gets no message in any case. -/
theorem malformed_silent (replies : List KeyReply) (malformed : Malformed data) :
    (CtKeyUpdate Keys data replies).trace = [] := by
  obtain ⟨IsRecommended, time, ended⟩ := (malformed_iff Keys).mp malformed
  rw [CtKeyUpdate, ended]
  cases IsRecommended with
  | true => rfl
  | false => rfl

/-- Malformed data are refused exactly where the update is asked for in front of the fault. -/
theorem malformed_refused_iff (Keys : KeySlots) (data : List UInt8) (replies : List KeyReply)
    (malformed : Malformed data) : Refuses (CtKeyUpdate Keys data replies) ↔ UpdateAsked Keys data := by
  obtain ⟨IsRecommended, time, ended⟩ := (malformed_iff Keys).mp malformed
  rw [Refuses, and_iff_right (malformed_silent replies malformed), ← recommendation_asked_iff ended, CtKeyUpdate, ended]
  cases IsRecommended with
  | true => exact iff_of_true ⟨_, _, rfl⟩ rfl
  | false =>
      refine iff_of_false ?_ Bool.false_ne_true
      rintro ⟨_, _, returned⟩
      cases returned

/-- A byte too many behind a key that the reader does not have yet. -/
theorem newKey_refused :
    Refuses (CtKeyUpdate ⟨⟨1, 5⟩, ⟨2, 5⟩⟩ ((rootKey 1 6).encode ++ [0x00]) []) := by
  refine (malformed_refused_iff _ _ _ ((malformed_iff ⟨⟨1, 5⟩, ⟨2, 5⟩⟩).mpr ⟨true, 5000, rfl⟩)).mpr ?_
  exact ⟨[], _, (rootKey 1 6).head, trivial, trivial, rfl, ⟨by decide, by decide, by decide, by decide,
    by decide, by decide⟩, .inl (by decide)⟩

/-- The same byte behind a key that the reader has is not reported. -/
theorem oldKey_not_refused :
    Malformed ((rootKey 1 5).encode ++ [0x00]) ∧
      ¬ Refuses (CtKeyUpdate ⟨⟨1, 5⟩, ⟨2, 5⟩⟩ ((rootKey 1 5).encode ++ [0x00]) []) := by
  have ended : (recommendation ⟨⟨1, 5⟩, ⟨2, 5⟩⟩ ((rootKey 1 5).encode ++ [0x00])
      (((rootKey 1 5).encode ++ [0x00]).length + 1)).outcome = .done (.corrupt false 0) := rfl
  refine ⟨(malformed_iff _).mpr ⟨false, 0, ended⟩, ?_⟩
  rintro ⟨_, _, _, returned⟩
  rw [CtKeyUpdate, ended] at returned
  cases returned

end Cyberjack.Eca
