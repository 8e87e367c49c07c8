import Cyberjack.Eca.SerialFrames

namespace Cyberjack.Eca.SerialWrite

open Cyberjack.Foundation

/-! # The calls of write

`_writeLowlevel` of `SerialUnix.cpp` with every call of write(2): what is
passed to it, what it returns, and the bytes that come on the line.
-/

/-- What a call returns: some of the bytes, none or -1; `interrupted` where `errno` is `EINTR` then. -/
inductive WriteReturn where
  | wrote (behindFirst : Nat)
  | nothing (interrupted : Bool)
  | error (interrupted : Bool)
deriving Repr, DecidableEq

/-- The arrays that are passed to write(2). -/
inductive Source where
  | message
  | crc
deriving Repr, DecidableEq

/-- A byte of an array, also outside it. -/
structure Cell where
  source : Source
  index : Int
deriving Repr, DecidableEq

/-- `p`, as the distance from the beginning of its array, and `len`. -/
structure Sending where
  source : Source
  p : Int
  len : UInt32
deriving Repr, DecidableEq

inductive WriteResult where
  | success
  | deviceLost
deriving Repr, DecidableEq

/-- Some cells of an array from an index on. -/
def cellsFrom (source : Source) (p : Int) (count : Nat) : List Cell :=
  (List.range count).map fun index => ⟨source, p + (index : Nat)⟩

/-- The head of a loop; the check bytes follow the message, and `tcdrain` follows them. -/
def loopHead (drained : Bool) (source : Source) (p : Int) (len : UInt32) : Next Sending WriteResult :=
  if len ≠ 0 then .again ⟨source, p, len⟩
  else
    match source with
    | .message => .again ⟨.crc, 0, 2⟩
    | .crc => .done (if drained then .success else .deviceLost)

/-- No call writes more than that. -/
def writeLimit : Nat := 0x7ffff000

/-- A pass of a loop, with the cells that come on the line. -/
def writeBody (drained : Bool) : Body Sending WriteReturn Cell WriteResult := fun sending answer =>
  match answer with
  | .wrote behindFirst =>
      let rv := min (behindFirst + 1) (min sending.len.toNat writeLimit)
      (cellsFrom sending.source sending.p rv,
        loopHead drained sending.source (sending.p + (rv : Nat)) (sending.len - UInt32.ofNat rv))
  | .nothing false => ([], .done .deviceLost)
  | .nothing true => ([], loopHead drained sending.source sending.p sending.len)
  | .error false => ([], .done .deviceLost)
  -- `len-=rv; p+=rv;` with the -1
  | .error true => ([], loopHead drained sending.source (sending.p - 1) (sending.len + 1))

/-- Where the sending of `len` bytes begins. -/
def opening (len : UInt32) : Sending := if len ≠ 0 then ⟨.message, 0, len⟩ else ⟨.crc, 0, 2⟩

def _writeLowlevel (m_devHandle : Int) (len : UInt32) (drained : Bool) (answers : List WriteReturn) :
    Run Sending WriteReturn Cell WriteResult :=
  if m_devHandle < 0 then ⟨[], .done .deviceLost⟩ else run (writeBody drained) (opening len) answers

/-- The message, as an array with bytes around it. -/
def message (Message : Int → UInt8) (len : UInt32) : List UInt8 :=
  (List.range len.toNat).map fun index => Message (index : Nat)

/-- The byte of a cell. -/
def content (Message behind : Int → UInt8) (len : UInt32) (cell : Cell) : UInt8 :=
  match cell.source with
  | .message => Message cell.index
  | .crc => placed behind (checkBytes (message Message len)) cell.index

/-! ## What should be sent -/

/-- The message and its check bytes, each byte once and in order. -/
def frame (len : UInt32) : List Cell := cellsFrom .message 0 len.toNat ++ cellsFrom .crc 0 2

def size (len : UInt32) : Source → Nat
  | .message => len.toNat
  | .crc => 2

/-- What is passed lies inside its array. -/
def Inside (len : UInt32) (sending : Sending) : Prop :=
  0 ≤ sending.p ∧ sending.p + sending.len.toNat ≤ size len sending.source

/-- Every call is passed bytes of an array, also the one that has not returned yet, and success means
that the frame is on the line. -/
def Sent (Message behind : Int → UInt8) (len : UInt32) (made : Run Sending WriteReturn Cell WriteResult) : Prop :=
  made.Holds (fun _ sending => Inside len sending)
    (fun past result => result = .success → outputs past = frame len ∧
      (outputs past).map (content Message behind len) = framed (message Message len)) []

/-- A call that -1 is returned from with `EINTR` has bytes of its array in front of it; the length of
2^32-1 bytes becomes 0. -/
def Covered (sending : Sending) (answer : WriteReturn) : Prop :=
  answer = .error true → 0 < sending.p ∨ sending.len = 0xffffffff

def Fails (answer : WriteReturn) : Prop := answer = .nothing false ∨ answer = .error false

/-- Some call of write, or that of `tcdrain`, fails, or one does not return. -/
def Unfinished (drained : Bool) (made : Run Sending WriteReturn Cell WriteResult) : Prop :=
  (∃ turn ∈ made.turns, Fails turn.input) ∨ drained = false ∨ made.outcome.GoesOn

/-- No call is interrupted, or those that are do not matter. -/
def Harmless (drained : Bool) (made : Run Sending WriteReturn Cell WriteResult) : Prop :=
  Meets Covered made.turns ∧ ((∃ turn ∈ made.turns, turn.input = .error true) → Unfinished drained made)

/-! ## The cells of an array -/

variable {drained : Bool} {len : UInt32} {sending : Sending} {answer : WriteReturn} {source : Source} {p : Int}

abbrev Turns := List (Turn Sending WriteReturn Cell)

@[simp] theorem cellsFrom_zero : cellsFrom source p 0 = [] := rfl

theorem cellsFrom_succ (source : Source) (p : Int) (count : Nat) :
    cellsFrom source p (count + 1) = ⟨source, p⟩ :: cellsFrom source (p + 1) count := by
  simp only [cellsFrom, List.range_succ_eq_map, List.map_cons, List.map_map, Int.natCast_zero, Int.add_zero,
    List.cons.injEq, true_and]
  apply List.map_congr_left
  intro index _
  simp only [Function.comp_apply, Nat.succ_eq_add_one, Int.natCast_add, Int.natCast_one, Cell.mk.injEq, true_and]
  omega

theorem cellsFrom_add (source : Source) (p : Int) (first second : Nat) :
    cellsFrom source p (first + second) = cellsFrom source p first ++ cellsFrom source (p + first) second := by
  simp only [cellsFrom, List.range_add, List.map_append, List.map_map]
  congr 1
  apply List.map_congr_left
  intro index _
  rw [Function.comp_apply, Int.natCast_add, Int.add_assoc]

/-- The frame is the message with its check bytes. -/
theorem frame_content (Message behind : Int → UInt8) (len : UInt32) :
    (frame len).map (content Message behind len) = framed (message Message len) := by
  have letters : (cellsFrom .message 0 len.toNat).map (content Message behind len) = message Message len := by
    rw [cellsFrom, List.map_map, message]
    apply List.map_congr_left
    intro index _
    simp [content]
  have checks : (cellsFrom .crc 0 2).map (content Message behind len) = checkBytes (message Message len) := rfl
  rw [frame, framed, List.map_append, letters, checks]

/-! ## One call -/

theorem written_le (behindFirst : Nat) (len : UInt32) : min (behindFirst + 1) (min len.toNat writeLimit) ≤ len.toNat := by
  omega

theorem written_pos (behindFirst : Nat) (filled : len ≠ 0) : 0 < min (behindFirst + 1) (min len.toNat writeLimit) := by
  have some : len.toNat ≠ 0 := fun zero => filled (UInt32.toNat_inj.mp zero)
  have limit : 0 < writeLimit := by decide
  omega

theorem toNat_left {rv : Nat} (inside : rv ≤ len.toNat) : (len - UInt32.ofNat rv).toNat = len.toNat - rv := by
  have bound := len.toNat_lt
  have value : (UInt32.ofNat rv).toNat = rv := UInt32.toNat_ofNat_of_lt' (show rv < 4294967296 by omega)
  have below : UInt32.ofNat rv ≤ len := by
    rw [UInt32.le_iff_toNat_le, value]
    exact inside
  rw [UInt32.toNat_sub_of_le _ _ below, value]

theorem toNat_back (more : len ≠ 0xffffffff) : (len + 1).toNat = len.toNat + 1 := by
  have bound := len.toNat_lt
  have other : len.toNat ≠ 4294967295 := fun same => more (UInt32.toNat_inj.mp same)
  rw [UInt32.toNat_add]
  change (len.toNat + 1) % 4294967296 = _
  omega

theorem loopHead_filled (drained : Bool) (source : Source) (p : Int) (filled : len ≠ 0) :
    loopHead drained source p len = .again ⟨source, p, len⟩ := if_pos filled

/-- The loops go on inside the arrays. -/
theorem loopHead_inside (drained : Bool) {whole : UInt32} (inside : len ≠ 0 → Inside whole ⟨source, p, len⟩) :
    (loopHead drained source p len).Satisfies (Inside whole) (fun _ => True) := by
  unfold loopHead
  split
  · case isTrue filled => exact inside filled
  · cases source with
    | message => exact ⟨Int.le_refl 0, Int.le_refl _⟩
    | crc => trivial

/-- A call leads on inside the arrays exactly if it is covered. -/
theorem body_inside_iff (inside : Inside len sending) :
    (writeBody drained sending answer).2.Satisfies (Inside len) (fun _ => True) ↔ Covered sending answer := by
  obtain ⟨low, high⟩ := inside
  cases answer with
  | wrote behindFirst =>
      refine iff_of_true (loopHead_inside drained fun _ => ?_) (fun same => by contradiction)
      have fits := written_le behindFirst sending.len
      constructor
      · exact Int.add_nonneg low (Int.natCast_nonneg _)
      · dsimp only
        rw [toNat_left fits]
        omega
  | nothing interrupted =>
      refine iff_of_true ?_ (fun same => by contradiction)
      cases interrupted with
      | false => trivial
      | true => exact loopHead_inside drained fun _ => ⟨low, high⟩
  | error interrupted =>
      cases interrupted with
      | false => exact iff_of_true trivial (fun same => by contradiction)
      | true =>
          by_cases full : sending.len = 0xffffffff
          · refine iff_of_true (loopHead_inside drained fun filled => ?_) (fun _ => .inr full)
            exact absurd (by rw [full]; rfl) filled
          · have longer := toNat_back full
            have filled : sending.len + 1 ≠ 0 := by
              intro zero
              rw [zero] at longer
              exact absurd longer (Nat.succ_ne_zero _).symm
            change (loopHead drained sending.source (sending.p - 1) (sending.len + 1)).Satisfies _ _ ↔ _
            rw [loopHead_filled drained sending.source _ filled]
            constructor
            · intro next _
              left
              have atLeast : 0 ≤ sending.p - 1 := next.1
              omega
            · intro covered
              have front := (covered rfl).resolve_right full
              constructor
              · dsimp only
                omega
              · dsimp only
                rw [longer]
                omega

/-! ## The order of the cells -/

/-- What is left to be written. -/
def remaining (sending : Sending) : List Cell :=
  cellsFrom sending.source sending.p sending.len.toNat ++
    match sending.source with
    | .message => cellsFrom .crc 0 2
    | .crc => []

/-- Some call was interrupted. -/
def Interrupted (past : Turns) : Prop := ∃ turn ∈ past, turn.input = .error true

/-- The next cell is not the one that is due. -/
def Missed (len : UInt32) (past : Turns) (sending : Sending) : Prop :=
  ∃ due rest, outputs past ++ due :: rest = frame len ∧
    (sending.source = due.source ∧ sending.p < due.index ∨ sending.source = .crc ∧ due.source = .message)

/-- The cells are in order up to an interruption, and behind it they can no more be the frame. -/
structure Course (len : UInt32) (past : Turns) (sending : Sending) : Prop where
  filled : sending.len ≠ 0
  order : ¬ Interrupted past ∧ outputs past ++ remaining sending = frame len ∨
    Interrupted past ∧ (¬ outputs past <+: frame len ∨ Missed len past sending)

/-- What a success says. -/
def Arrived (len : UInt32) (past : Turns) (result : WriteResult) : Prop :=
  result = .success → (outputs past = frame len ↔ ¬ Interrupted past)

theorem interrupted_snoc {past : Turns} {output : List Cell} :
    Interrupted (past ++ [⟨sending, answer, output⟩]) ↔ Interrupted past ∨ answer = .error true := by
  simp [Interrupted, or_and_right, exists_or]

theorem remaining_take {rv : Nat} (inside : rv ≤ sending.len.toNat) :
    remaining sending = cellsFrom sending.source sending.p rv ++
      remaining ⟨sending.source, sending.p + (rv : Nat), sending.len - UInt32.ofNat rv⟩ := by
  have split : sending.len.toNat = rv + (sending.len.toNat - rv) := by omega
  rw [remaining, remaining, toNat_left inside]
  conv => lhs; rw [split, cellsFrom_add, List.append_assoc]

/-- The head of a loop in a run that was not interrupted. -/
theorem loopHead_quiet {past : Turns} {left : UInt32} (quiet : ¬ Interrupted past)
    (whole : outputs past ++ remaining ⟨source, p, left⟩ = frame len) :
    (loopHead drained source p left).Satisfies (Course len past) (Arrived len past) := by
  unfold loopHead
  split
  · case isTrue filled => exact ⟨filled, .inl ⟨quiet, whole⟩⟩
  · case isFalse empty =>
      have zero : left = 0 := not_not.mp empty
      rw [zero] at whole
      cases source with
      | message => exact ⟨by decide, .inl ⟨quiet, whole⟩⟩
      | crc =>
          intro _
          exact iff_of_true (by simpa [remaining] using whole) quiet

/-- The head of a loop in a run that was interrupted. -/
theorem loopHead_interrupted {past : Turns} {left : UInt32} (interrupted : Interrupted past)
    (wrong : ¬ outputs past <+: frame len ∨ Missed len past ⟨source, p, left⟩) :
    (loopHead drained source p left).Satisfies (Course len past) (Arrived len past) := by
  unfold loopHead
  split
  · case isTrue filled => exact ⟨filled, .inr ⟨interrupted, wrong⟩⟩
  · cases source with
    | message =>
        refine ⟨by decide, .inr ⟨interrupted, wrong.imp_right fun missed => ?_⟩⟩
        obtain ⟨due, rest, order, behind | other⟩ := missed
        · exact ⟨due, rest, order, .inr ⟨rfl, behind.1.symm⟩⟩
        · cases other.1
    | crc =>
        intro _
        refine iff_of_false (fun same => ?_) (not_not.mpr interrupted)
        cases wrong with
        | inl bad => exact bad (same ▸ List.prefix_refl _)
        | inr missed =>
            obtain ⟨due, rest, order, _⟩ := missed
            have lengths := congrArg List.length (order.trans same.symm)
            rw [List.length_append, List.length_cons] at lengths
            omega

/-- What is written where another cell is due cannot be the frame. -/
theorem missed_written {past : Turns} (missed : Missed len past sending) {cells : List Cell} {rest : List Cell}
    (written : cells = ⟨sending.source, sending.p⟩ :: rest) : ¬ outputs past ++ cells <+: frame len := by
  intro begins
  obtain ⟨due, more, order, place⟩ := missed
  rw [← order, written, List.prefix_append_right_inj, List.cons_prefix_cons] at begins
  have same := begins.1
  cases place with
  | inl behind =>
      rw [← same] at behind
      exact absurd behind.2 (Int.lt_irrefl _)
  | inr other =>
      rw [← same] at other
      rw [other.1] at other
      cases other.2

/-- The next byte is due where nothing was interrupted. -/
theorem remaining_due (filled : sending.len ≠ 0) :
    ∃ rest, remaining sending = ⟨sending.source, sending.p⟩ :: rest := by
  have some : sending.len.toNat ≠ 0 := fun zero => filled (UInt32.toNat_inj.mp zero)
  obtain ⟨more, count⟩ := Nat.exists_eq_succ_of_ne_zero some
  rw [remaining, count, cellsFrom_succ, List.cons_append]
  exact ⟨_, rfl⟩

theorem outputs_idle (past : Turns) : outputs (past ++ [⟨sending, answer, []⟩]) = outputs past := by
  rw [outputs_append, outputs_singleton, List.append_nil]

theorem wrong_idle {past : Turns} {next : Sending} (sending : Sending) (answer : WriteReturn)
    (wrong : ¬ outputs past <+: frame len ∨ Missed len past next) :
    ¬ outputs (past ++ [⟨sending, answer, []⟩]) <+: frame len ∨ Missed len (past ++ [⟨sending, answer, []⟩]) next := by
  rw [Missed, outputs_idle]
  exact wrong

/-- A call that is interrupted leaves out the byte that is due. -/
theorem back_missed {past : Turns} (course : Course len past sending) :
    ¬ outputs past <+: frame len ∨ Missed len past ⟨sending.source, sending.p - 1, sending.len + 1⟩ := by
  cases course.order with
  | inl straight =>
      obtain ⟨rest, due⟩ := remaining_due course.filled
      right
      refine ⟨⟨sending.source, sending.p⟩, rest, ?_, .inl ⟨rfl, ?_⟩⟩
      · rw [← due]
        exact straight.2
      · dsimp only
        omega
  | inr astray =>
      refine astray.2.imp_right fun missed => ?_
      obtain ⟨due, rest, order, place⟩ := missed
      refine ⟨due, rest, order, place.imp_left fun behind => ⟨behind.1, ?_⟩⟩
      have before := behind.2
      dsimp only
      omega

theorem body_course {past : Turns} (course : Course len past sending) :
    (writeBody drained sending answer).2.Satisfies
      (Course len (past ++ [⟨sending, answer, (writeBody drained sending answer).1⟩]))
      (Arrived len (past ++ [⟨sending, answer, (writeBody drained sending answer).1⟩])) := by
  cases answer with
  | wrote behindFirst =>
      have fits := written_le behindFirst sending.len
      have some := written_pos behindFirst course.filled
      generalize rv_eq : min (behindFirst + 1) (min sending.len.toNat writeLimit) = rv at fits some
      have made : writeBody drained sending (.wrote behindFirst) = (cellsFrom sending.source sending.p rv,
          loopHead drained sending.source (sending.p + (rv : Nat)) (sending.len - UInt32.ofNat rv)) := by
        rw [← rv_eq]
        rfl
      rw [made]
      dsimp only
      cases course.order with
      | inl straight =>
          apply loopHead_quiet
          · rw [interrupted_snoc]
            exact not_or.mpr ⟨straight.1, by simp⟩
          · rw [outputs_append, outputs_singleton, List.append_assoc, ← remaining_take fits]
            exact straight.2
      | inr astray =>
          apply loopHead_interrupted
          · exact interrupted_snoc.mpr (.inl astray.1)
          · left
            rw [outputs_append, outputs_singleton]
            cases astray.2 with
            | inl bad => exact fun begins => bad ((List.prefix_append _ _).trans begins)
            | inr missed =>
                obtain ⟨more, rfl⟩ := Nat.exists_eq_succ_of_ne_zero (Nat.ne_of_gt some)
                exact missed_written missed (cellsFrom_succ sending.source sending.p more)
  | nothing interrupted =>
      cases interrupted with
      | false =>
          intro success
          contradiction
      | true =>
          cases course.order with
          | inl straight =>
              apply loopHead_quiet
              · rw [interrupted_snoc]
                exact not_or.mpr ⟨straight.1, by simp⟩
              · exact (@outputs_idle sending (.nothing true) past).symm ▸ straight.2
          | inr astray =>
              exact loopHead_interrupted (interrupted_snoc.mpr (.inl astray.1)) (wrong_idle _ _ astray.2)
  | error interrupted =>
      cases interrupted with
      | false =>
          intro success
          contradiction
      | true => exact loopHead_interrupted (interrupted_snoc.mpr (.inr rfl)) (wrong_idle _ _ (back_missed course))

/-! ## The whole message -/

theorem opening_inside (len : UInt32) : Inside len (opening len) := by
  unfold opening
  split
  · exact ⟨Int.le_refl 0, by simp [size]⟩
  · exact ⟨Int.le_refl 0, Int.le_refl _⟩

theorem opening_course (len : UInt32) : Course len [] (opening len) := by
  have quiet : ¬ Interrupted [] := by simp [Interrupted]
  unfold opening
  split
  · case isTrue filled => exact ⟨filled, .inl ⟨quiet, rfl⟩⟩
  · case isFalse empty =>
      rw [not_not.mp empty]
      exact ⟨by decide, .inl ⟨quiet, rfl⟩⟩

/-- A success comes with the frame exactly if nothing was interrupted. -/
theorem run_arrived (len : UInt32) (drained : Bool) (answers : List WriteReturn)
    (success : (run (writeBody drained) (opening len) answers).outcome = .done .success) :
    outputs (run (writeBody drained) (opening len) answers).turns = frame len ↔
      ¬ Interrupted (run (writeBody drained) (opening len) answers).turns := by
  have arrived := @run_invariant _ _ _ _ (writeBody drained) _ _
    (fun _ _ _ course => body_course course) [] _ (opening_course len) answers
  rw [success] at arrived
  exact arrived rfl

theorem loopHead_ends (drained : Bool) (source : Source) (p : Int) (left : UInt32) :
    (loopHead drained source p left).Satisfies (fun _ => True) (fun result => result = .success ↔ drained = true) := by
  unfold loopHead
  split
  · trivial
  · cases source with
    | message => trivial
    | crc =>
        cases drained with
        | true => exact iff_of_true rfl rfl
        | false => exact iff_of_false (by simp) (by simp)

/-- The calls that decide whether there is a success. -/
theorem body_ends {past : Turns} (fine : ∀ turn ∈ past, ¬ Fails turn.input) :
    (writeBody drained sending answer).2.Satisfies
      (fun _ => ∀ turn ∈ past ++ [⟨sending, answer, (writeBody drained sending answer).1⟩], ¬ Fails turn.input)
      (fun result => result = .success ↔
        (∀ turn ∈ past ++ [⟨sending, answer, (writeBody drained sending answer).1⟩], ¬ Fails turn.input) ∧ drained = true) := by
  by_cases failed : Fails answer
  · have lost : (writeBody drained sending answer).2 = .done .deviceLost := by
      cases failed with
      | inl none => rw [none]; rfl
      | inr error => rw [error]; rfl
    rw [lost]
    refine iff_of_false (by simp) fun all => ?_
    exact all.1 _ (List.mem_append_right _ List.mem_cons_self) failed
  · have all : ∀ turn ∈ past ++ [⟨sending, answer, (writeBody drained sending answer).1⟩], ¬ Fails turn.input := by
      intro turn member
      cases List.mem_append.mp member with
      | inl before => exact fine turn before
      | inr here =>
          rw [List.mem_singleton.mp here]
          exact failed
    have onward : (writeBody drained sending answer).2.Satisfies (fun _ => True) (fun result => result = .success ↔ drained = true) := by
      cases answer with
      | wrote behindFirst => exact loopHead_ends drained _ _ _
      | nothing interrupted =>
          cases interrupted with
          | false => exact absurd (.inl rfl) failed
          | true => exact loopHead_ends drained _ _ _
      | error interrupted =>
          cases interrupted with
          | false => exact absurd (.inr rfl) failed
          | true => exact loopHead_ends drained _ _ _
    exact onward.imp (fun _ _ => all) fun _ success => success.trans (and_iff_right all).symm

theorem unfinished_iff (len : UInt32) (drained : Bool) (answers : List WriteReturn) :
    Unfinished drained (run (writeBody drained) (opening len) answers) ↔
      (run (writeBody drained) (opening len) answers).outcome ≠ .done .success := by
  have ends := @run_invariant _ _ _ _ (writeBody drained) (fun past _ => ∀ turn ∈ past, ¬ Fails turn.input)
    (fun past result => result = .success ↔ (∀ turn ∈ past, ¬ Fails turn.input) ∧ drained = true)
    (fun _ _ _ fine => body_ends fine) [] (opening len) (by simp) answers
  rw [List.nil_append] at ends
  unfold Unfinished
  cases ended : (run (writeBody drained) (opening len) answers).outcome with
  | again sending => exact iff_of_true (.inr (.inr trivial)) (by simp)
  | done result =>
      rw [ended] at ends
      have only : (Next.done result : Next Sending WriteResult).GoesOn ↔ False := Iff.rfl
      have success := satisfies_done.mp ends
      rw [only, or_false, ne_eq, Next.done.injEq, success, not_and_or, not_forall]
      simp

/-- The frame is sent exactly if the calls that are interrupted do no harm. -/
theorem message_sent_iff (Message behind : Int → UInt8) (m_devHandle : Int) (len : UInt32) (drained : Bool)
    (answers : List WriteReturn) :
    Sent Message behind len (_writeLowlevel m_devHandle len drained answers) ↔
      Harmless drained (_writeLowlevel m_devHandle len drained answers) := by
  rw [_writeLowlevel]
  split
  · refine iff_of_true ⟨fun front turn back split => by simp at split, fun success => by contradiction⟩ ⟨meets_nil, ?_⟩
    intro interrupted
    simp at interrupted
  · have inside := @run_holds_iff _ _ _ _ (fun _ sending => Inside len sending) (fun _ _ => True) (writeBody drained) Covered
      (fun _ _ _ here => body_inside_iff here) [] _ (opening_inside len) answers
    rw [Sent, holds_iff_and_ended, inside, Harmless, unfinished_iff]
    refine and_congr_right fun _ => ?_
    constructor
    · intro arrived interrupted success
      have whole := (arrived _ success rfl).1
      exact (run_arrived len drained answers success).mp whole interrupted
    · intro harmless result ended success
      rw [success] at ended
      have whole := (run_arrived len drained answers ended).mpr fun interrupted => harmless interrupted ended
      rw [List.nil_append, whole]
      exact ⟨rfl, frame_content Message behind len⟩

/-- The request for the slot status; behind three bytes a call is interrupted, and the third is sent twice. -/
theorem interrupted_not_sent :
    ¬ Sent (placed (fun _ => 0) [0x65, 0, 0, 0, 0, 0, 1, 0, 0, 0]) (fun _ => 0) 10
      (_writeLowlevel 3 10 true [.wrote 2, .error true, .wrote 7, .wrote 1]) := by
  intro sent
  have ended : (_writeLowlevel 3 10 true [.wrote 2, .error true, .wrote 7, .wrote 1]).outcome = .done .success := by
    decide
  have after := sent.after
  rw [ended] at after
  exact absurd (after rfl).1 (by decide)

end Cyberjack.Eca.SerialWrite
