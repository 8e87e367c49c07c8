import Cyberjack.Eca.KeyFile

namespace Cyberjack.Eca

open Cyberjack.Foundation

/-! # Key updates

`CEC30Reader::CtKeyUpdate`: the second walk through a key file, which sends to
the reader what its keys ask for.
-/

/-- The variables of the walk, with `m_ReaderInfo.Keys` and `*Result`. -/
structure UpdateState where
  ptr : Nat
  len : Nat
  IsRoot : Bool
  Keys : KeySlots
  Result : UInt32
deriving DecidableEq

/-- The return of an `Escape`, and what it leaves in `*Result`. -/
structure Escaped where
  error : Option CjError
  Result : UInt32
deriving DecidableEq

/-- How the reader takes the update with one certificate. `Keys` is what
`BuildReaderInfo` finds in it afterwards. -/
structure KeyReply where
  firstMask : Option CjError
  update : Escaped
  secondMask : Option CjError
  verify : Escaped
  Keys : KeySlots
deriving DecidableEq

/-- `CCID_ESCAPE_UPDATE_KEY` and `CCID_ESCAPE_VERIFY_KEY` -/
inductive KeyMessage where
  | updateKey (Key : List UInt8)
  | verifyKey (Key : List UInt8)
deriving Repr, DecidableEq

inductive UpdateEnd where
  | outside
  | returned (Res : Option CjError) (Result : UInt32)
deriving Repr, DecidableEq

def ECA_MODULE_ERR_OUT_OF_RESOURCE : UInt32 := 0x00000006

/-- What is read of a certificate in any case; the key has `size` bytes. -/
structure Visit where
  NewKey : Nat
  help : Nat
  size : Nat
  number : UInt8
  version : UInt8
deriving Repr, DecidableEq

def visitAt (data : List UInt8) (state : UpdateState) : Reads Empty Visit := do
  let help ← Reads.short data (state.ptr + 3)
  let NewKey := state.ptr + 5
  let help1 ← Reads.short data (NewKey + 12)
  let help2 ← Reads.byte data (NewKey + (15 + help1))
  let number ← Reads.byte data (NewKey + 8)
  let version ← Reads.byte data (NewKey + 9)
  return ⟨NewKey, help, 16 + help1 + help2.toNat, number, version⟩

/-- `uint32_t` as it stands in memory. -/
def longBytes (value : Nat) : List UInt8 := shortBytes value ++ shortBytes (value / 65536)

def KeySlots.Installs (Keys : KeySlots) (key : tKeyInfo) : Prop := key = Keys.first ∨ key = Keys.second

instance {Keys : KeySlots} {key : tKeyInfo} : Decidable (Keys.Installs key) := by
  unfold KeySlots.Installs
  infer_instance

/-- What is done with a certificate: the messages that install it, or why not. -/
inductive Decision where
  | install (Key signature : List UInt8)
  | skip
  | tooLong
  | unsigned
deriving Repr, DecidableEq

/-- The rule for a slot that is still empty. -/
def EmptyRule (KV : UInt8 → UInt8) (Keys : KeySlots) (number version : UInt8) : Prop :=
  Keys.Vacant ∧ KV number = version

instance {KV : UInt8 → UInt8} {Keys : KeySlots} {number version : UInt8} :
    Decidable (EmptyRule KV Keys number version) := by
  unfold EmptyRule
  infer_instance

def decision (data : List UInt8) (KV : UInt8 → UInt8) (state : UpdateState) (visit : Visit) :
    Reads Empty Decision :=
  let ptr := visit.NewKey + visit.size
  if EmptyRule KV state.Keys visit.number visit.version then
    if visit.size > 800 then return .tooLong
    else do
      let Key ← Reads.bytes data visit.NewKey visit.size
      -- The verification of a key without a predecessor carries `len`.
      return .install Key (longBytes (state.len - 5))
  else if state.IsRoot then return .skip
  else do
    let help3 ← Reads.short data (ptr + 2)
    if state.Keys.Outdated visit.number visit.version then
      let KNr ← Reads.byte data (ptr + 6)
      let Version ← Reads.byte data (ptr + 7)
      if state.Keys.Installs ⟨KNr, Version⟩ then
        if visit.size > 800 ∨ help3 > 796 then return .tooLong
        else
          let Key ← Reads.bytes data visit.NewKey visit.size
          let signature ← Reads.bytes data ptr (help3 + 4)
          return .install Key signature
      else return .unsigned
    else return .skip

/-- The state at the next certificate. -/
def UpdateState.behind (visit : Visit) (state : UpdateState) : UpdateState :=
  { state with
    ptr := visit.NewKey + visit.help
    len := state.len - 5 - visit.help
    IsRoot := false }

/-- The messages of one certificate, up to the first error. -/
def install (reply : KeyReply) (Key signature : List UInt8) (Result : UInt32) (next : UpdateState) :
    List KeyMessage × Next UpdateState UpdateEnd :=
  match reply.firstMask with
  | some error => ([], .done (.returned (some error) Result))
  | none =>
      match reply.update.error, reply.secondMask with
      | some error, _ => ([.updateKey Key], .done (.returned (some error) reply.update.Result))
      | none, some error => ([.updateKey Key], .done (.returned (some error) reply.update.Result))
      | none, none =>
          match reply.verify.error with
          | some error =>
              ([.updateKey Key, .verifyKey signature],
                .done (.returned (some error) reply.verify.Result))
          | none =>
              ([.updateKey Key, .verifyKey signature],
                .again { next with Keys := reply.Keys, Result := reply.verify.Result })

def carryOut (reply : KeyReply) (state : UpdateState) (visit : Visit) :
    Decision → List KeyMessage × Next UpdateState UpdateEnd
  | .skip => ([], .again (state.behind visit))
  | .tooLong => ([], .done (.returned (some .checkResult) ECA_MODULE_ERR_OUT_OF_RESOURCE))
  | .unsigned => ([], .done (.returned (some .dataCorrupt) state.Result))
  | .install Key signature => install reply Key signature state.Result (state.behind visit)

/-- One pass of the `for` loop. -/
def updateBody (data : List UInt8) (KV : UInt8 → UInt8) :
    Body UpdateState KeyReply KeyMessage UpdateEnd :=
  fun state reply =>
    if state.len = 0 then ([], .done (.returned none state.Result))
    else
      match visitAt data state with
      | .error _ => ([], .done .outside)
      | .ok visit =>
          match decision data KV state visit with
          | .error _ => ([], .done .outside)
          | .ok decided => carryOut reply state visit decided

def UpdateState.start (Keys : KeySlots) (data : List UInt8) : UpdateState :=
  ⟨0, data.length, true, Keys, 0⟩

abbrev KeyUpdate := Call UpdateState KeyReply KeyMessage UpdateEnd

/-- `CEC30Reader::CtKeyUpdate` on what the first walk has found. -/
def updateAfter (Keys : KeySlots) (data : List UInt8) (replies : List KeyReply) :
    Next WalkState WalkEnd → KeyUpdate
  | .done (.complete true _ KV) =>
      call (updateBody data KV) ([], .again (.start Keys data)) replies
  | .done (.complete false _ _) => ⟨[], [], .done (.returned none 0)⟩
  | .done (.corrupt true _) => ⟨[], [], .done (.returned (some .dataCorrupt) 0)⟩
  | .done (.corrupt false _) => ⟨[], [], .done (.returned none 0)⟩
  | .done .outside => ⟨[], [], .done .outside⟩
  | .again _ => ⟨[], [], .done .outside⟩

/-- The first walk ends within as many passes as there are bytes, and one. -/
def CtKeyUpdate (Keys : KeySlots) (data : List UInt8) (replies : List KeyReply) : KeyUpdate :=
  updateAfter Keys data replies (recommendation Keys data (data.length + 1)).outcome

abbrev Certificate.visit (ptr : Nat) (certificate : Certificate) : Visit where
  NewKey := ptr + 5
  help := certificate.content.length
  size := certificate.keyObject.length
  number := certificate.number
  version := certificate.version

variable {data : List UInt8} {KV : UInt8 → UInt8} {state : UpdateState} {reply : KeyReply}
  {visit : Visit} {Keys : KeySlots}

/-! ## The two walks -/

theorem visitAt_eq {certificate : Certificate} (stands : Stands data state.ptr certificate.encode) :
    visitAt data state = .ok (certificate.visit state.ptr) := by
  obtain ⟨headStands, keyStands, _⟩ := certificate.stands_encode_iff.mp stands
  obtain ⟨_, length, _, number, version, _⟩ := stands_headBytes_iff.mp headStands
  have keyStands : Stands data (state.ptr + 5 + 12)
      (keyBytes certificate.modulus certificate.exponent) := keyStands
  obtain ⟨length1, _, _, length2, _⟩ := stands_keyBytes_iff.mp keyStands
  have short := certificate.exponent_short
  have bounded := certificate.bounded
  have counted : (UInt8.ofNat certificate.exponent.length).toNat = certificate.exponent.length := by
    rw [UInt8.toNat_ofNat']
    omega
  have content := certificate.length_content
  simp only [visitAt, Reads.bind_eq_ok, Reads.short_eq_ok, Reads.byte_eq_ok, Reads.pure_eq_ok]
  refine ⟨certificate.content.length, ⟨by omega, length⟩, certificate.modulus.length,
    ⟨by omega, length1⟩, UInt8.ofNat certificate.exponent.length, ?_, certificate.number, number,
    certificate.version, version, ?_⟩
  · rw [← Nat.add_assoc]
    exact length2
  · rw [counted, Certificate.visit, certificate.length_keyObject]

/-- The decision about a certificate, in its own terms. -/
def Certificate.decide (KV : UInt8 → UInt8) (Keys : KeySlots) (left : Nat) (certificate : Certificate) :
    Decision :=
  if EmptyRule KV Keys certificate.number certificate.version then
    if certificate.keyObject.length > 800 then .tooLong
    else .install certificate.keyObject (longBytes left)
  else
    match certificate.signer with
    | none => .skip
    | some signer =>
        if Keys.Outdated certificate.number certificate.version then
          if Keys.Installs ⟨signer.number, signer.version⟩ then
            if certificate.keyObject.length > 800 ∨ signer.encode.length > 800 then .tooLong
            else .install certificate.keyObject signer.encode
          else .unsigned
        else .skip

/-- The second walk reads a certificate inside the data and decides about what it is. -/
theorem decision_eq {certificate : Certificate} (stands : Stands data state.ptr certificate.encode)
    (root : certificate.signer.isNone = state.IsRoot) :
    decision data KV state (certificate.visit state.ptr) =
      .ok (certificate.decide KV state.Keys (state.len - 5)) := by
  have whole : Stands data (state.ptr + 5) certificate.content := by
    rw [Certificate.encode, stands_append] at stands
    exact stands.2
  rw [Certificate.content, stands_append] at whole
  obtain ⟨keyStands, signatureStands⟩ := whole
  have key : (Reads.bytes data (state.ptr + 5) certificate.keyObject.length : Reads Empty (List UInt8)) =
      .ok certificate.keyObject := Reads.bytes_eq_ok.mpr ⟨rfl, keyStands⟩
  rw [decision, Certificate.decide]
  dsimp only [Certificate.visit]
  by_cases empty : EmptyRule KV state.Keys certificate.number certificate.version
  · rw [if_pos empty, if_pos empty]
    split
    · rfl
    · rw [key]
      rfl
  rw [if_neg empty, if_neg empty, ← root]
  cases named : certificate.signer with
  | none => rfl
  | some signer =>
      have bounded := certificate.bounded
      simp only [named, signatureObject] at signatureStands bounded
      rw [signer.length_encode] at bounded
      obtain ⟨_, length, _, number, version, _⟩ := signer.stands_encode_iff.mp signatureStands
      have read : (Reads.short data (state.ptr + 5 + certificate.keyObject.length + 2) : Reads Empty Nat) =
          .ok (signer.signature.length + 8) := Reads.short_eq_ok.mpr ⟨by omega, length⟩
      have readNumber : (Reads.byte data (state.ptr + 5 + certificate.keyObject.length + 6) :
          Reads Empty UInt8) = .ok signer.number := Reads.byte_eq_ok.mpr number
      have readVersion : (Reads.byte data (state.ptr + 5 + certificate.keyObject.length + 7) :
          Reads Empty UInt8) = .ok signer.version := Reads.byte_eq_ok.mpr version
      have signature : (Reads.bytes data (state.ptr + 5 + certificate.keyObject.length)
          (signer.signature.length + 8 + 4) : Reads Empty (List UInt8)) = .ok signer.encode :=
        Reads.bytes_eq_ok.mpr ⟨by rw [signer.length_encode]; omega, signatureStands⟩
      have long : signer.signature.length + 8 > 796 ↔ signer.encode.length > 800 := by
        rw [signer.length_encode]
        omega
      simp only [Option.isNone_some, Bool.false_eq_true, if_false, read, Reads.ok_bind, readNumber,
        readVersion, key, signature, long]
      split
      · split
        · split
          · rfl
          · rfl
        · rfl
      · rfl

/-- The certificate that the walk is at. -/
def UpdateState.At (data : List UInt8) (state : UpdateState) (certificate : Certificate) : Prop :=
  certificate.signer.isNone = state.IsRoot ∧ Stands data state.ptr certificate.encode

theorem updateBody_at {certificate : Certificate} (here : state.At data certificate) (more : state.len ≠ 0) :
    updateBody data KV state reply = carryOut reply state (certificate.visit state.ptr)
      (certificate.decide KV state.Keys (state.len - 5)) := by
  rw [updateBody, if_neg more]
  simp only [visitAt_eq here.2, decision_eq here.2 here.1]

/-- What the certificates of a file have to be behind a state of the second walk. -/
structure Follows (data : List UInt8) (state : UpdateState) (certificates : List Certificate) : Prop where
  chained : Chained state.IsRoot certificates
  text : data.drop state.ptr = certificates.flatMap Certificate.encode
  placed : state.ptr + state.len = data.length

theorem Follows.behind {certificate : Certificate} {rest : List Certificate}
    (follows : Follows data state (certificate :: rest)) :
    Follows data (state.behind (certificate.visit state.ptr)) rest := by
  have text := follows.text
  rw [List.flatMap_cons] at text
  obtain ⟨stands, left⟩ := stands_of_drop text
  have whole := stands.inside (by simp [Certificate.encode])
  have placed := follows.placed
  rw [certificate.length_encode] at whole left
  refine ⟨follows.chained.2, ?_, ?_⟩
  · rw [← left, ← Nat.add_assoc]
    rfl
  · change state.ptr + 5 + certificate.content.length +
      (state.len - 5 - certificate.content.length) = data.length
    omega

theorem Follows.at_head {certificate : Certificate} {rest : List Certificate}
    (follows : Follows data state (certificate :: rest)) : state.At data certificate :=
  ⟨follows.chained.1, (stands_of_drop (List.flatMap_cons ▸ follows.text)).1⟩

theorem Follows.end_iff {certificates : List Certificate} (follows : Follows data state certificates) :
    state.len = 0 ↔ certificates = [] := by
  have length := congrArg List.length follows.text
  have placed := follows.placed
  rw [List.length_drop] at length
  cases certificates with
  | nil =>
      rw [List.flatMap_nil, List.length_nil] at length
      exact iff_of_true (by omega) rfl
  | cons certificate rest =>
      rw [List.flatMap_cons, List.length_append, certificate.length_encode] at length
      exact iff_of_false (by omega) (by simp)

/-- A pass at a certificate goes on behind it, with the keys the reader then has, or returns an error. -/
def Steps (state : UpdateState) (certificate : Certificate) : Next UpdateState UpdateEnd → Prop :=
  Next.Satisfies
    (fun next => ∃ Keys Result,
      next = { state.behind (certificate.visit state.ptr) with Keys := Keys, Result := Result })
    (fun ended => ∃ error Result, ended = .returned (some error) Result)

theorem install_steps {certificate : Certificate} {Key signature : List UInt8} {Result : UInt32} :
    Steps state certificate
      (install reply Key signature Result (state.behind (certificate.visit state.ptr))).2 := by
  rw [install]
  cases reply.firstMask with
  | some error => exact ⟨_, _, rfl⟩
  | none =>
      cases reply.update.error with
      | some error => exact ⟨_, _, rfl⟩
      | none =>
          cases reply.secondMask with
          | some error => exact ⟨_, _, rfl⟩
          | none =>
              cases reply.verify.error with
              | some error => exact ⟨_, _, rfl⟩
              | none => exact ⟨_, _, rfl⟩

variable (KV reply) in
theorem updateBody_steps {certificate : Certificate} {rest : List Certificate}
    (follows : Follows data state (certificate :: rest)) :
    Steps state certificate (updateBody data KV state reply).2 := by
  have more : state.len ≠ 0 := fun ended => by simpa using follows.end_iff.mp ended
  rw [updateBody_at follows.at_head more, Steps, carryOut.eq_def]
  cases certificate.decide KV state.Keys (state.len - 5) with
  | skip => exact ⟨_, _, rfl⟩
  | tooLong => exact ⟨_, _, rfl⟩
  | unsigned => exact ⟨_, _, rfl⟩
  | install Key signature => exact install_steps

/-- The passes of a run begin where the certificates do, one after the other. -/
structure Visits (ptr : Nat) (certificates : List Certificate)
    (made : Run UpdateState KeyReply KeyMessage UpdateEnd) : Prop where
  inside : made.outcome ≠ .done .outside
  places : made.turns.map (·.before.ptr) <+: boundaries ptr certificates
  all : ∀ Result, made.outcome = .done (.returned none Result) →
    made.turns.map (·.before.ptr) = boundaries ptr certificates

theorem Visits.cons {certificate : Certificate} {rest : List Certificate}
    {made : Run UpdateState KeyReply KeyMessage UpdateEnd} {output : List KeyMessage}
    (visits : Visits (state.ptr + certificate.encode.length) rest made) :
    Visits state.ptr (certificate :: rest) ⟨⟨state, reply, output⟩ :: made.turns, made.outcome⟩ := by
  refine ⟨visits.inside, ?_, ?_⟩
  · rw [List.map_cons, boundaries]
    exact List.cons_prefix_cons.mpr ⟨rfl, visits.places⟩
  · intro Result returned
    rw [List.map_cons, boundaries, visits.all Result returned]

theorem updates_visit {certificates : List Certificate} (follows : Follows data state certificates)
    (replies : List KeyReply) : Visits state.ptr certificates (run (updateBody data KV) state replies) := by
  induction replies generalizing state certificates with
  | nil => exact ⟨by simp, List.nil_prefix, fun Result returned => by cases returned⟩
  | cons reply rest ih =>
      cases certificates with
      | nil =>
          have ended := follows.end_iff.mpr rfl
          rw [run_done (by rw [updateBody, if_pos ended])]
          exact ⟨by simp, List.prefix_refl _, fun _ _ => rfl⟩
      | cons certificate others =>
          have steps := updateBody_steps KV reply follows
          cases stepped : updateBody data KV state reply with
          | mk output after =>
              rw [stepped] at steps
              cases after with
              | again next =>
                  obtain ⟨Keys, Result, rfl⟩ := steps
                  have behind := follows.behind
                  have next : Follows data { state.behind (certificate.visit state.ptr) with
                      Keys := Keys, Result := Result } others :=
                    ⟨behind.chained, behind.text, behind.placed⟩
                  have later := ih next
                  rw [run_again stepped]
                  refine Visits.cons ?_
                  rw [certificate.length_encode, ← Nat.add_assoc]
                  exact later
              | done ended =>
                  obtain ⟨error, Result, rfl⟩ := steps
                  rw [run_done stepped]
                  refine ⟨by simp, ?_, fun Result returned => by cases returned⟩
                  exact List.cons_prefix_cons.mpr ⟨rfl, List.nil_prefix⟩

/-- The first walk ends on every string, inside it, and succeeds exactly on key
files; the second one goes from certificate to certificate as the first did. -/
structure Walked (Keys : KeySlots) (data : List UInt8) (walked : WalkEnd) : Prop where
  ends : ∀ passes, data.length < passes → (recommendation Keys data passes).outcome = .done walked
  inside : walked ≠ .outside
  success : walked.Complete ↔
    ∃ certificates, KeyFile certificates ∧ data = certificates.flatMap Certificate.encode
  update_inside : ∀ replies, (CtKeyUpdate Keys data replies).outcome ≠ .done .outside
  update_places : walked.Complete → ∀ replies,
    (CtKeyUpdate Keys data replies).turns.map (·.before.ptr) <+:
      (recommendation Keys data (data.length + 1)).turns.map (·.before.ptr)
  update_all : walked.Complete → walked.IsRecommended = true → ∀ replies Result,
    (CtKeyUpdate Keys data replies).outcome = .done (.returned none Result) →
    (CtKeyUpdate Keys data replies).turns.map (·.before.ptr) =
      (recommendation Keys data (data.length + 1)).turns.map (·.before.ptr)

theorem recommendation_boundaries {certificates : List Certificate} (file : KeyFile certificates) :
    (recommendation Keys (certificates.flatMap Certificate.encode)
      ((certificates.flatMap Certificate.encode).length + 1)).turns.map (·.before.ptr) =
      boundaries 0 certificates := by
  have placed : (WalkState.start (certificates.flatMap Certificate.encode)).Placed _ := Nat.zero_add _
  refine walk_boundaries placed ?_ (continues_start_iff.mpr ⟨file, rfl⟩)
  have bounded := length_le_text certificates
  omega

theorem recommended_visits {certificates : List Certificate} (file : KeyFile certificates)
    (replies : List KeyReply) :
    Visits 0 certificates (run (updateBody (certificates.flatMap Certificate.encode) KV)
      (.start Keys (certificates.flatMap Certificate.encode)) replies) :=
  have start : Follows _ (.start Keys (certificates.flatMap Certificate.encode)) certificates :=
    ⟨file.chained, rfl, Nat.zero_add _⟩
  updates_visit start replies

theorem key_file_walked (Keys : KeySlots) (data : List UInt8) : ∃ walked, Walked Keys data walked := by
  have placed : (WalkState.start data).Placed data := Nat.zero_add _
  obtain ⟨walked, first, inside, complete⟩ :=
    walk_ends Keys placed (Nat.lt_succ_self data.length)
  simp only [continues_start_iff] at complete
  have ends : ∀ passes, data.length < passes →
      (recommendation Keys data passes).outcome = .done walked := by
    intro passes enough
    obtain ⟨more, rfl⟩ := Nat.exists_eq_add_of_le (Nat.succ_le_of_lt enough)
    rw [recommendation, List.replicate_add, run_append_of_done first]
    exact first
  have started : (recommendation Keys data (data.length + 1)).outcome = .done walked :=
    ends _ (Nat.lt_succ_self _)
  have walks (succeeded : walked.Complete) (replies : List KeyReply) (KV : UInt8 → UInt8) :
      ∃ certificates, (recommendation Keys data (data.length + 1)).turns.map (·.before.ptr) =
          boundaries 0 certificates ∧
        Visits 0 certificates (run (updateBody data KV) (.start Keys data) replies) := by
    obtain ⟨certificates, file, rfl⟩ := complete.mp succeeded
    exact ⟨certificates, recommendation_boundaries file, recommended_visits file replies⟩
  refine ⟨walked, ends, inside, complete, ?_, ?_, ?_⟩
  · intro replies
    rw [CtKeyUpdate, started]
    cases walked with
    | outside => exact absurd rfl inside
    | corrupt IsRecommended _ => cases IsRecommended <;> simp [updateAfter]
    | complete IsRecommended _ KV =>
        cases IsRecommended with
        | false => simp [updateAfter]
        | true =>
            obtain ⟨_, _, visits⟩ := walks trivial replies KV
            exact visits.inside
  · intro succeeded replies
    rw [CtKeyUpdate, started]
    cases walked with
    | outside => exact absurd rfl inside
    | corrupt => exact succeeded.elim
    | complete IsRecommended _ KV =>
        cases IsRecommended with
        | false => exact List.nil_prefix
        | true =>
            obtain ⟨_, first, visits⟩ := walks trivial replies KV
            rw [first]
            exact visits.places
  · intro succeeded recommended replies Result
    rw [CtKeyUpdate, started]
    cases walked with
    | outside => exact absurd rfl inside
    | corrupt => exact succeeded.elim
    | complete IsRecommended _ KV =>
        cases recommended
        obtain ⟨_, first, visits⟩ := walks trivial replies KV
        rw [first]
        exact visits.all Result

/-- A root key of a number and a version. -/
def rootKey (number version : UInt8) : Certificate where
  number := number
  version := version
  modulus := [0x01]
  exponent := [0x03]
  signer := none
  modulus_nonempty := by decide
  exponent_nonempty := by decide
  exponent_short := by decide
  bounded := by decide

/-- A file with a single root key of version 0 is refused. -/
theorem versionZero_corrupt :
    Chained true [rootKey 1 0] ∧
    [rootKey 1 0].Pairwise (fun earlier later =>
      earlier.number = later.number → earlier.version < later.version) ∧
    (recommendation ⟨⟨1, 5⟩, ⟨2, 5⟩⟩ (rootKey 1 0).encode 24).outcome = .done (.corrupt false 0) :=
  ⟨⟨rfl, trivial⟩, List.pairwise_singleton _ _, rfl⟩

/-! ## Which keys are sent -/

/-- The slot has the key, and not in an older version. -/
def tKeyInfo.Holds (slot : tKeyInfo) (number version : UInt8) : Prop :=
  slot ≠ KeySlots.emptySlot ∧ slot.KNr = number ∧ version ≤ slot.Version

def KeySlots.Holds (Keys : KeySlots) (number version : UInt8) : Prop :=
  Keys.first.Holds number version ∨ Keys.second.Holds number version

/-- The certificate brings no key that is there already, and unless a slot is
empty its signer is there. -/
structure Certificate.Allowed (Keys : KeySlots) (certificate : Certificate) : Prop where
  newer : ¬ Keys.Holds certificate.number certificate.version
  signed : ¬ Keys.Vacant → ∃ signer, certificate.signer = some signer ∧
    Keys.Installs ⟨signer.number, signer.version⟩

/-- Every update message of a pass is for an allowed certificate of the file. -/
def TurnAllowed (data : List UInt8) (turn : Turn UpdateState KeyReply KeyMessage) : Prop :=
  ∀ Key, .updateKey Key ∈ turn.output → ∃ certificate, turn.before.At data certificate ∧
    Key = certificate.keyObject ∧ certificate.Allowed turn.before.Keys

/-- The rule for newer versions lets the certificate through. -/
def VersionRule (Keys : KeySlots) (certificate : Certificate) : Prop :=
  Keys.Outdated certificate.number certificate.version ∧
    ∃ signer, certificate.signer = some signer ∧ Keys.Installs ⟨signer.number, signer.version⟩ ∧
      signer.encode.length ≤ 800

/-- One slot is empty, and the other one has the key already. -/
def MixedSlots (KV : UInt8 → UInt8) (Keys : KeySlots) (certificate : Certificate) : Prop :=
  EmptyRule KV Keys certificate.number certificate.version ∧ certificate.keyObject.length ≤ 800 ∧
    Keys.Holds certificate.number certificate.version

/-- Both slots have a key of this number, one an older and the other not. -/
def TwinSlots (KV : UInt8 → UInt8) (Keys : KeySlots) (certificate : Certificate) : Prop :=
  ¬ EmptyRule KV Keys certificate.number certificate.version ∧ VersionRule Keys certificate ∧
    certificate.keyObject.length ≤ 800 ∧ Keys.Holds certificate.number certificate.version

/-- The slots are neither of the two at a certificate that can be sent. -/
def SlotsOrderly (data : List UInt8) (KV : UInt8 → UInt8) (state : UpdateState) (reply : KeyReply) : Prop :=
  reply.firstMask = none → ∀ certificate, state.At data certificate →
    ¬ MixedSlots KV state.Keys certificate ∧ ¬ TwinSlots KV state.Keys certificate

/-- The versions that the first walk has found last. -/
def newest (Keys : KeySlots) (data : List UInt8) : UInt8 → UInt8 :=
  match (recommendation Keys data (data.length + 1)).outcome with
  | .done (.complete _ _ KV) => KV
  | _ => fun _ => 0

theorem decide_install_iff {certificate : Certificate} {left : Nat} {Key : List UInt8} :
    (∃ signature, certificate.decide KV Keys left = .install Key signature) ↔
      Key = certificate.keyObject ∧ certificate.keyObject.length ≤ 800 ∧
        (EmptyRule KV Keys certificate.number certificate.version ∨
          (¬ EmptyRule KV Keys certificate.number certificate.version ∧ VersionRule Keys certificate)) := by
  rw [Certificate.decide]
  by_cases empty : EmptyRule KV Keys certificate.number certificate.version
  · rw [if_pos empty]
    by_cases long : certificate.keyObject.length > 800
    · rw [if_pos long]
      exact iff_of_false (by simp) fun sent => absurd long (Nat.not_lt.mpr sent.2.1)
    · rw [if_neg long]
      constructor
      · rintro ⟨signature, same⟩
        rw [Decision.install.injEq] at same
        exact ⟨same.1.symm, Nat.not_lt.mp long, .inl empty⟩
      · rintro ⟨rfl, _⟩
        exact ⟨_, rfl⟩
  rw [if_neg empty]
  have only : (EmptyRule KV Keys certificate.number certificate.version ∨
      (¬ EmptyRule KV Keys certificate.number certificate.version ∧ VersionRule Keys certificate)) ↔
      VersionRule Keys certificate := by
    simp only [empty, false_or, not_false_eq_true, true_and]
  rw [only, VersionRule]
  cases named : certificate.signer with
  | none => exact iff_of_false (by simp) (by simp)
  | some signer =>
      by_cases outdated : Keys.Outdated certificate.number certificate.version
      · by_cases installed : Keys.Installs ⟨signer.number, signer.version⟩
        · by_cases long : certificate.keyObject.length > 800 ∨ signer.encode.length > 800
          · simp only [outdated, installed, long, if_true]
            refine iff_of_false (by simp) ?_
            rintro ⟨_, short, _, _, same, _, fits⟩
            cases same
            omega
          · simp only [outdated, installed, long, if_true, if_false, Decision.install.injEq]
            constructor
            · rintro ⟨_, rfl, rfl⟩
              exact ⟨rfl, by omega, trivial, signer, rfl, installed, by omega⟩
            · rintro ⟨rfl, _⟩
              exact ⟨_, rfl, rfl⟩
        · simp only [outdated, installed, if_true, if_false]
          refine iff_of_false (by simp) ?_
          rintro ⟨_, _, _, _, same, signed, _⟩
          cases same
          exact installed signed
      · simp only [outdated, if_false]
        exact iff_of_false (by simp) fun sent => sent.2.2.1

theorem updateKey_mem_install_iff {Key sent signature : List UInt8} {Result : UInt32} {next : UpdateState} :
    KeyMessage.updateKey Key ∈ (install reply sent signature Result next).1 ↔
      reply.firstMask = none ∧ sent = Key := by
  rw [install]
  cases reply.firstMask with
  | some error => simp
  | none =>
      cases reply.update.error with
      | some error => simp [eq_comm]
      | none =>
          cases reply.secondMask with
          | some error => simp [eq_comm]
          | none => cases reply.verify.error <;> simp [eq_comm]

theorem updateBody_sends_iff {certificate : Certificate} {Key : List UInt8}
    (here : state.At data certificate) (more : state.len ≠ 0) :
    KeyMessage.updateKey Key ∈ (updateBody data KV state reply).1 ↔
      reply.firstMask = none ∧
        ∃ signature, certificate.decide KV state.Keys (state.len - 5) = .install Key signature := by
  rw [updateBody_at here more, carryOut.eq_def]
  cases certificate.decide KV state.Keys (state.len - 5) with
  | skip => simp
  | tooLong => simp
  | unsigned => simp
  | install sent signature =>
      simp only [updateKey_mem_install_iff, Decision.install.injEq]
      constructor
      · rintro ⟨passed, rfl⟩
        exact ⟨passed, signature, rfl, rfl⟩
      · rintro ⟨passed, _, rfl, _⟩
        exact ⟨passed, rfl⟩

/-- The key object begins with the number and the version. -/
theorem keyObject_inj {first second : Certificate} (same : first.keyObject = second.keyObject) :
    first.number = second.number ∧ first.version = second.version := by
  have eighth := congrArg (·[8]?) same
  have ninth := congrArg (·[9]?) same
  exact ⟨Option.some.inj eighth, Option.some.inj ninth⟩

theorem turn_allowed_iff {certificates : List Certificate} (follows : Follows data state certificates) :
    TurnAllowed data ⟨state, reply, (updateBody data KV state reply).1⟩ ↔
      SlotsOrderly data KV state reply := by
  cases certificates with
  | nil =>
      have ended := follows.end_iff.mpr rfl
      rw [TurnAllowed, SlotsOrderly, updateBody, if_pos ended]
      refine iff_of_true (fun Key sent => by simp at sent) fun _ certificate here => ?_
      have inside := here.2.inside (by simp [Certificate.encode])
      have placed := follows.placed
      rw [certificate.length_encode] at inside
      omega
  | cons certificate rest =>
      have more : state.len ≠ 0 := fun ended => by simpa using follows.end_iff.mp ended
      have here := follows.at_head
      constructor
      · intro allowed passed other there
        have sent (rule : EmptyRule KV state.Keys other.number other.version ∨
            (¬ EmptyRule KV state.Keys other.number other.version ∧ VersionRule state.Keys other))
            (short : other.keyObject.length ≤ 800) : ¬ state.Keys.Holds other.number other.version := by
          have decided : ∃ signature, other.decide KV state.Keys (state.len - 5) =
              .install other.keyObject signature := decide_install_iff.mpr ⟨rfl, short, rule⟩
          obtain ⟨found, _, same, permitted⟩ :=
            allowed _ ((updateBody_sends_iff there more).mpr ⟨passed, decided⟩)
          obtain ⟨number, version⟩ := keyObject_inj same
          rw [number, version]
          exact permitted.newer
        exact ⟨fun mixed => sent (.inl mixed.1) mixed.2.1 mixed.2.2,
          fun twin => sent (.inr ⟨twin.1, twin.2.1⟩) twin.2.2.1 twin.2.2.2⟩
      · intro orderly Key sent
        obtain ⟨passed, decided⟩ := (updateBody_sends_iff here more).mp sent
        obtain ⟨rfl, short, rule⟩ := decide_install_iff.mp decided
        obtain ⟨unmixed, untwined⟩ := orderly passed certificate here
        refine ⟨certificate, here, rfl, ?_, ?_⟩
        · intro holds
          cases rule with
          | inl empty => exact unmixed ⟨empty, short, holds⟩
          | inr version => exact untwined ⟨version.1, version.2, short, holds⟩
        · intro full
          cases rule with
          | inl empty => exact absurd empty.1 full
          | inr version =>
              obtain ⟨_, signer, named, installed, _⟩ := version.2
              exact ⟨signer, named, installed⟩

/-- The walk is at one of the certificates of a file, or at its end. -/
def Followed (data : List UInt8) (state : UpdateState) : Prop :=
  ∃ certificates, Follows data state certificates

theorem updateBody_followed (state : UpdateState) (reply : KeyReply) (next : UpdateState)
    (followed : Followed data state) (again : (updateBody data KV state reply).2 = .again next) :
    Followed data next := by
  obtain ⟨certificates, follows⟩ := followed
  cases certificates with
  | nil =>
      rw [updateBody, if_pos (follows.end_iff.mpr rfl)] at again
      contradiction
  | cons certificate rest =>
      have steps := updateBody_steps KV reply follows
      rw [again] at steps
      obtain ⟨_, _, rfl⟩ := steps
      have behind := follows.behind
      exact ⟨rest, behind.chained, behind.text, behind.placed⟩

/-- All update messages are allowed exactly in the runs that find the slots orderly. -/
theorem updates_allowed_iff (Keys : KeySlots) (data : List UInt8) (replies : List KeyReply) :
    (∀ turn ∈ (CtKeyUpdate Keys data replies).turns, TurnAllowed data turn) ↔
      Meets (SlotsOrderly data (newest Keys data)) (CtKeyUpdate Keys data replies).turns := by
  obtain ⟨walked, ends, inside, success, _⟩ := key_file_walked Keys data
  have started := ends _ (Nat.lt_succ_self _)
  have none (nothing : (CtKeyUpdate Keys data replies).turns = []) :
      (∀ turn ∈ (CtKeyUpdate Keys data replies).turns, TurnAllowed data turn) ↔
        Meets (SlotsOrderly data (newest Keys data)) (CtKeyUpdate Keys data replies).turns := by
    rw [nothing]
    exact iff_of_true (by simp) meets_nil
  cases walked with
  | outside => exact absurd rfl inside
  | corrupt IsRecommended time =>
      refine none ?_
      rw [CtKeyUpdate, started]
      cases IsRecommended <;> rfl
  | complete IsRecommended time KV =>
      cases IsRecommended with
      | false => exact none (by rw [CtKeyUpdate, started]; rfl)
      | true =>
          obtain ⟨certificates, file, rfl⟩ := success.mp trivial
          have same : newest Keys (certificates.flatMap Certificate.encode) = KV := by
            rw [newest, started]
          rw [same, CtKeyUpdate, started]
          refine forall₂_congr fun turn made => ?_
          have start : Followed (certificates.flatMap Certificate.encode) (.start Keys _) :=
            ⟨certificates, file.chained, rfl, Nat.zero_add _⟩
          obtain ⟨rest, follows⟩ := run_before updateBody_followed start made
          have output := run_output made
          obtain ⟨before, reply, sent⟩ := turn
          dsimp only at output
          rw [output]
          exact turn_allowed_iff follows

/-- Version 3 of key 1 is sent to a reader that has version 5 of it and an empty slot. -/
theorem mixedSlots_not_allowed :
    let data := (rootKey 1 3).encode
    let reply : KeyReply := ⟨none, ⟨none, 0⟩, none, ⟨none, 0⟩, ⟨⟨1, 3⟩, ⟨1, 5⟩⟩⟩
    ¬ ∀ turn ∈ (CtKeyUpdate ⟨⟨0xff, 0xff⟩, ⟨1, 5⟩⟩ data [reply]).turns, TurnAllowed data turn := by
  intro data reply allowed
  have first := allowed _ (List.mem_of_getElem? (i := 0) rfl)
  obtain ⟨certificate, _, same, permitted⟩ := first (rootKey 1 3).keyObject (List.mem_cons_self ..)
  obtain ⟨number, version⟩ := keyObject_inj same
  have newer := permitted.newer
  rw [← number, ← version] at newer
  exact newer (.inr ⟨by decide, rfl, by decide⟩)

end Cyberjack.Eca
