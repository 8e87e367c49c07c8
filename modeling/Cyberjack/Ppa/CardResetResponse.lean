import Cyberjack.Ppa.CardReset

namespace Cyberjack.Ppa.Reset

open Cyberjack.Foundation Cyberjack.Eca

/-! # What ctBcsReset delivers -/

/-! ## The historical bytes of an ATR -/

/-- What is behind the interface bytes; the list begins with T0 or a TDi, and there is no result
where the ATR ends among them. -/
def interfaces : List UInt8 → Option (List UInt8)
  | [] => none
  | Dx :: rest =>
      let v := GetBits (Dx &&& 0xf0)
      if rest.length < v then none
      else if Dx &&& 0x80 ≠ 0 then interfaces (rest.drop (v - 1))
      else some (rest.drop v)
termination_by bytes => bytes.length
decreasing_by
  simp only [List.length_drop, List.length_cons]
  omega

/-- Only an ATR of an asynchronous card has historical bytes, behind its interface bytes. -/
def historicalBytes : List UInt8 → Option (List UInt8)
  | [] => some []
  | TS :: rest =>
      if TS = 0x3b ∨ TS = 0x3f then
        match rest with
        | [] => none
        | T0 :: _ =>
            if T0 &&& 0x0f = 0 then some []
            else
              match interfaces rest with
              | none => none
              | some behind =>
                  if (T0 &&& 0x0f).toNat ≤ behind.length then some (behind.take (T0 &&& 0x0f).toNat) else none
      else some []

theorem add_toNat_le (len : UInt8) (v : Nat) : (len + UInt8.ofNat v).toNat ≤ len.toNat + v := by
  rw [UInt8.toNat_add, UInt8.toNat_ofNat']
  omega

theorem get_of_drop {atr : Buffer UInt8 260} {data rest : List UInt8} {ptr : Nat} {Dx : UInt8}
    (begins : atr.cells.take data.length = data) (place : Dx :: rest = data.drop ptr) :
    atr.get ptr = Dx ∧ ptr + 1 + rest.length = data.length := by
  have lengths := congrArg List.length place
  rw [List.length_cons, List.length_drop] at lengths
  have cell : atr.get ptr = data.getD ptr 0 := Buffer.getD_of_take _ begins (by omega)
  have head := congrArg (fun bytes : List UInt8 => bytes.getD 0 0) place
  simp only [List.getD_eq_getElem?_getD, List.getElem?_drop, Nat.add_zero] at head
  rw [List.getD_eq_getElem?_getD, ← head] at cell
  exact ⟨cell, by omega⟩

/-- The loop of `check_len` finds the bytes behind an ATR's interface bytes. -/
theorem walk_of_interfaces {atr : Buffer UInt8 260} {data : List UInt8} (begins : atr.cells.take data.length = data)
    (small : data.length ≤ 260) {bytes behind : List UInt8} (found : interfaces bytes = some behind) :
    ∀ (passes ptr : Nat) (len : UInt8) (t1 : Bool), bytes = data.drop ptr → bytes.length ≤ passes → len.toNat < ptr →
      ∃ walked, walk atr data.length passes ptr len t1 = some walked ∧
        walked.historical = some (data.length - behind.length) := by
  induction bytes using interfaces.induct with
  | case1 => simp [interfaces] at found
  | case2 Dx rest v short => simp [interfaces, v, short] at found
  | case3 Dx rest v long more ih =>
      intro passes ptr len t1 place enough counted
      rw [interfaces, if_neg long, if_pos more] at found
      obtain ⟨cell, total⟩ := get_of_drop begins place
      have sum := add_toNat_le len v
      have positive : 0 < v := getBits_pos more
      rw [List.length_cons] at enough
      cases passes with
      | zero => omega
      | succ passes =>
          have onward : rest.drop (v - 1) = data.drop (ptr + v) := by
            have tail := congrArg List.tail place
            rw [List.tail_cons, List.tail_drop] at tail
            rw [tail, List.drop_drop]
            congr 1
            omega
          have shorter : (rest.drop (v - 1)).length ≤ passes := by
            rw [List.length_drop]
            omega
          have next := fun t1 => ih found passes (ptr + v) (len + UInt8.ofNat v) t1 onward shorter (by omega)
          rw [walk, if_pos (by omega), cell]
          change ∃ walked, (if data.length ≥ (len + UInt8.ofNat v).toNat ∧ Dx &&& 0x80 ≠ 0 then _ else _) = _ ∧ _
          rw [if_pos ⟨by omega, more⟩, if_pos (Or.inr (by change ptr + v < 260; omega)),
            if_pos (by change data.length > (len + UInt8.ofNat v).toNat; omega)]
          exact next _
  | case4 Dx rest v long last =>
      intro passes ptr len t1 place enough counted
      rw [interfaces, if_neg long, if_neg last, Option.some.injEq] at found
      obtain ⟨cell, total⟩ := get_of_drop begins place
      cases passes with
      | zero =>
          rw [List.length_cons] at enough
          omega
      | succ passes =>
          rw [walk, if_pos (by omega), cell]
          change ∃ walked, (if data.length ≥ (len + UInt8.ofNat v).toNat ∧ Dx &&& 0x80 ≠ 0 then _ else _) = _ ∧ _
          rw [if_neg fun both => last both.2]
          refine ⟨_, rfl, ?_⟩
          change some (ptr + v + 1) = _
          rw [← found, List.length_drop]
          congr 1
          omega

/-- An ATR of at most 251 bytes never leads `check_len` behind the end of `atr`. -/
theorem walk_inside {atr : Buffer UInt8 260} {buf_len : Nat} (short : buf_len ≤ 251) :
    ∀ (passes ptr : Nat) (len : UInt8) (t1 : Bool), ptr = 1 + len.toNat → len.toNat ≤ buf_len → 261 ≤ passes + ptr →
      (walk atr buf_len passes ptr len t1).isSome := by
  intro passes
  induction passes with
  | zero =>
      intro ptr len t1 place counted enough
      omega
  | succ passes ih =>
      intro ptr len t1 place counted enough
      have few := getBits_le (atr.get ptr)
      have sum : (len + UInt8.ofNat (GetBits (atr.get ptr &&& 0xf0))).toNat = len.toNat + GetBits (atr.get ptr &&& 0xf0) := by
        rw [UInt8.toNat_add, UInt8.toNat_ofNat']
        omega
      rw [walk, if_pos (by omega)]
      dsimp only
      split
      · case isTrue more =>
          have positive := getBits_pos more.2
          rw [if_pos (Or.inr (by omega))]
          split
          · exact ih _ _ _ (by omega) (by omega) (by omega)
          · rfl
      · rfl

theorem check_len_inside (atr : Buffer UInt8 260) {buf_len : Nat} (short : buf_len ≤ 251) :
    (check_len atr buf_len).isSome := by
  have inside := @walk_inside atr buf_len short 260 1 0 false rfl (Nat.zero_le _) (by omega)
  obtain ⟨walked, found⟩ := Option.isSome_iff_exists.mp inside
  rw [check_len, found]
  rfl

/-! ## What should hold -/

abbrev Turns := List (Turn State Reply Event)

def powerOns (events : List Event) : Nat := events.count .iccPowerOn

/-- The ATR of the last activation. -/
def lastATR (past : Turns) : List UInt8 :=
  (past.filterMap fun turn =>
    match turn.before with
    | .powerOn _ _ => some turn.input.abData
    | _ => none).getLastD []

variable {ATR_len : UInt8}

/-- The ATR is in `atr`, and `hist` and `hist_len` stand for its historical bytes. -/
structure Ready (ATR_len : UInt8) (data : List UInt8) (locals : Locals) : Prop where
  len : locals.len = data.length
  small : data.length ≤ 260
  begins : locals.atr.cells.take data.length = data
  few : locals.hist_len.toNat ≤ 15
  historical : ∃ bytes, historicalBytes data = some bytes ∧ locals.hist_len.toNat = bytes.length ∧
    ∀ ATR : Buffer UInt8 ATR_len.toNat, locals.historical ATR = some bytes

/-- What is known where the ATR `data` has been accepted. -/
def Chosen (ATR_len : UInt8) (data : List UInt8) : State → Prop
  | .setParameters _ locals => Ready ATR_len data locals
  | .pps _ locals => Ready ATR_len data locals
  | .lowered _ locals => Ready ATR_len data locals
  | .ifs _ _ locals => Ready ATR_len data locals
  | .powerOn _ _ => True
  | .powerOff result _ => result ≠ .success

/-- Success comes with the ATR `data` and its historical bytes. -/
structure Delivered (data : List UInt8) (outcome : Result ATR_len) : Prop where
  inside : outcome ≠ .fault
  success : ∀ caller length hist_len device, outcome = .returned .success caller length hist_len device →
    length.toNat = data.length ∧ caller.ATR.cells.take length.toNat = data ∧
      historicalBytes data = some (caller.historical.cells.take hist_len.toNat)

structure Activates (made : ResetCall ATR_len) : Prop where
  powered : powerOns made.trace ≤ 2
  chosen : ∀ front turn back, made.turns = front ++ turn :: back → Chosen ATR_len (lastATR front) turn.before
  waiting : ∀ state, made.outcome = .again state → Chosen ATR_len (lastATR made.turns) state
  delivered : ∀ outcome, made.outcome = .done outcome → Delivered (lastATR made.turns) outcome

/-- The ATR of an asynchronous card does not lead behind `atr`, is not refused in a warm reset and, where
it is accepted, has the historical bytes it announces. -/
def RegularATR (warm : Bool) (atr : Buffer UInt8 260) (data : List UInt8) : Prop :=
  match check_len atr data.length with
  | none => False
  | some checked =>
      if checked.code = 1 then
        if (scanATR atr warm).error then warm = false else (historicalBytes data).isSome
      else if checked.code = 2 then warm = false
      else True

/-- What the reader may answer to a power on. -/
def Regular (ATR_len : UInt8) : State → Reply → Prop
  | .powerOn warm locals, reply =>
      ∀ data, cjccid_iccPowerOn reply = .ok data →
        data.length ≤ 260 ∧ ∀ atr ∈ locals.atr.store? 0 data,
          if data.length > 0 ∧ (atr.get 0 = 0x3b ∨ atr.get 0 = 0x3f) then RegularATR warm atr data
          else data.length = 4 → 4 ≤ ATR_len.toNat → locals.hist_len = 0
  | _, _ => True

/-! ## Behind the loop -/

section Steps

variable {caller : Caller ATR_len} {data : List UInt8} {locals : Locals} {scan : Scan} {reply : Reply} {past : Turns}

def State.isPowerOn : State → Bool
  | .powerOn _ _ => true
  | _ => false

/-- A pass behind the loop. -/
structure Good (data : List UInt8) (pass : Pass ATR_len) : Prop where
  quiet : powerOns pass.1 = 0
  next : pass.2.Satisfies (fun next => Chosen ATR_len data next ∧ next.isPowerOn = false) (Delivered data)

theorem failed_delivered {result : Cjpp} (failed : result ≠ .success) (length : UInt8) (hist_len : UInt8) (device : Device) :
    Delivered data (.returned result caller length hist_len device) where
  inside := by simp
  success := by
    intro _ _ _ _ returned
    cases returned
    contradiction

theorem failure_good {result : Cjpp} (failed : result ≠ .success) : Good data (failure caller result locals) :=
  ⟨rfl, failed_delivered failed _ _ _⟩

theorem switchedOff_good {result : Cjpp} (failed : result ≠ .success) :
    Good data (switchedOff result locals : Pass ATR_len) := ⟨rfl, failed, rfl⟩

/-- What is copied is the ATR and its historical bytes. -/
theorem deliver_good (caller : Caller ATR_len) (ready : Ready ATR_len data locals) : Good data (deliver caller locals) := by
  have size := locals.atr.length_cells
  have small := ready.small
  have few := ready.few
  have wide := ATR_len.toNat_lt
  obtain ⟨bytes, announced, count, located⟩ := ready.historical
  unfold deliver
  rw [ready.len]
  by_cases full : ATR_len.toNat < data.length
  · rw [if_pos full]
    exact failure_good (by decide)
  · have read : locals.atr.load? 0 data.length = some data := by
      have loaded := Buffer.load?_of_room locals.atr (show 0 + data.length ≤ 260 by omega)
      rw [List.drop_zero, ready.begins] at loaded
      exact loaded
    obtain ⟨ATR, stored, begins, _⟩ := caller.ATR.store?_zero (show data.length ≤ ATR_len.toNat by omega)
    obtain ⟨historical, copied, front, _⟩ := caller.historical.store?_zero (show bytes.length ≤ 15 by omega)
    rw [if_neg full, read]
    dsimp only
    rw [stored]
    dsimp only
    rw [located]
    dsimp only
    rw [copied]
    refine ⟨rfl, by simp, ?_⟩
    intro after length hist_len device returned
    cases returned
    have counted : (UInt8.ofNat data.length).toNat = data.length := by
      rw [UInt8.toNat_ofNat']
      omega
    refine ⟨counted, ?_, ?_⟩
    · rw [counted]
      exact begins
    · change _ = some (historical.cells.take locals.hist_len.toNat)
      rw [announced, count, front]

theorem Ready.device {device : Device} (ready : Ready ATR_len data locals) : Ready ATR_len data { locals with device } :=
  ⟨ready.len, ready.small, ready.begins, ready.few, ready.historical⟩

theorem established_good (caller : Caller ATR_len) (ready : Ready ATR_len data locals) :
    Good data (established caller scan locals) := by
  unfold established
  dsimp only
  split
  · exact deliver_good caller ready.device
  · exact ⟨rfl, ready.device, rfl⟩

theorem later_good (caller : Caller ATR_len) {state : State} (chosen : Chosen ATR_len data state)
    (later : state.isPowerOn = false) (reply : Reply) : Good data (body caller state reply) := by
  cases state with
  | powerOn warm locals => cases later
  | powerOff result locals =>
      unfold body
      dsimp only
      split
      · case isTrue failed => exact failure_good failed
      · exact failure_good chosen
  | setParameters scan locals =>
      have ready : Ready ATR_len data locals := chosen
      unfold body
      dsimp only
      split
      · case isTrue failed => exact failure_good failed
      · split
        · exact ⟨rfl, ready, rfl⟩
        · exact established_good caller ready
  | pps scan locals =>
      have ready : Ready ATR_len data locals := chosen
      unfold body
      dsimp only
      split
      · exact switchedOff_good (by decide)
      · split
        · exact switchedOff_good (by decide)
        · split
          · exact ⟨rfl, ready, rfl⟩
          · exact established_good caller ready
  | lowered scan locals =>
      have ready : Ready ATR_len data locals := chosen
      unfold body
      dsimp only
      split
      · case isTrue failed => exact failure_good failed
      · exact established_good caller ready
  | ifs error scan locals =>
      have ready : Ready ATR_len data locals := chosen
      have again : Good data (if error + 1 < 3 then ([.transmitted ifsRequest], .again (.ifs (error + 1) scan locals))
          else switchedOff .prot locals : Pass ATR_len) := by
        split
        · exact ⟨rfl, ready, rfl⟩
        · exact switchedOff_good (by decide)
      unfold body
      dsimp only
      split
      · split
        · exact deliver_good caller ready.device
        · exact again
      · exact again
      · exact again
      · exact again
      · exact again
      · exact failure_good (by decide)

/-! ## In the loop -/

theorem interfaces_suffix {bytes behind : List UInt8} (found : interfaces bytes = some behind) :
    behind <:+ bytes := by
  induction bytes using interfaces.induct with
  | case1 => simp [interfaces] at found
  | case2 Dx rest v short => simp [interfaces, v, short] at found
  | case3 Dx rest v long more ih =>
      rw [interfaces, if_neg long, if_pos more] at found
      exact ((ih found).trans (List.drop_suffix _ _)).trans (List.suffix_cons _ _)
  | case4 Dx rest v long last =>
      rw [interfaces, if_neg long, if_neg last, Option.some.injEq] at found
      rw [← found]
      exact (List.drop_suffix _ _).trans (List.suffix_cons _ _)

theorem load_behind {atr : Buffer UInt8 260} {behind : List UInt8} {count : Nat} (begins : atr.cells.take data.length = data)
    (small : data.length ≤ 260) (suffix : behind <:+ data) (inside : count ≤ behind.length) :
    atr.load? ((data.length - behind.length : Nat) : Int) count = some (behind.take count) := by
  obtain ⟨front, whole⟩ := suffix
  have lengths := congrArg List.length whole
  rw [List.length_append] at lengths
  have place : data.length - behind.length = front.length := by omega
  have tail := congrArg (List.drop front.length) begins
  rw [List.drop_take, ← whole, List.drop_left] at tail
  rw [place, Buffer.load?_of_room atr (by omega)]
  have taken := congrArg (List.take count) tail
  rw [List.take_take, Nat.min_eq_left (by rw [List.length_append]; omega)] at taken
  rw [taken]

theorem historicalBytes_cases {TS : UInt8} {rest : List UInt8} (first : TS = 0x3b ∨ TS = 0x3f)
    (whole : (historicalBytes (TS :: rest)).isSome) :
    ∃ T0 more, rest = T0 :: more ∧
      ((T0 &&& 0x0f = 0 ∧ historicalBytes (TS :: rest) = some []) ∨
        (T0 &&& 0x0f ≠ 0 ∧ ∃ behind, interfaces rest = some behind ∧ (T0 &&& 0x0f).toNat ≤ behind.length ∧
          historicalBytes (TS :: rest) = some (behind.take (T0 &&& 0x0f).toNat))) := by
  cases rest with
  | nil =>
      rw [historicalBytes, if_pos first] at whole
      cases whole
  | cons T0 more =>
      refine ⟨T0, more, rfl, ?_⟩
      rw [historicalBytes, if_pos first] at whole ⊢
      by_cases nothing : T0 &&& 0x0f = 0
      · exact .inl ⟨nothing, if_pos nothing⟩
      · rw [if_neg nothing] at whole ⊢
        cases parsed : interfaces (T0 :: more) with
        | none =>
            rw [parsed] at whole
            cases whole
        | some behind =>
            rw [parsed] at whole
            dsimp only at whole ⊢
            split at whole
            · case isTrue inside => exact .inr ⟨nothing, behind, rfl, inside, if_pos inside⟩
            · cases whole

theorem check_len_hist_len {atr : Buffer UInt8 260} {buf_len : Nat} {checked : Checked}
    (found : check_len atr buf_len = some checked) : checked.hist_len = atr.get 1 &&& 0x0f := by
  unfold check_len at found
  split at found
  · cases found
  · cases found
    rfl

/-- Where the ATR has all its historical bytes, `check_len` finds them. -/
theorem checked_ready {atr : Buffer UInt8 260} {checked : Checked} {device : Device} {old : HistPointer}
    (begins : atr.cells.take data.length = data) (small : data.length ≤ 260) (first : atr.get 0 = 0x3b ∨ atr.get 0 = 0x3f)
    (filled : data.length > 0) (found : check_len atr data.length = some checked) (whole : (historicalBytes data).isSome) :
    Ready ATR_len data ⟨atr, data.length,
      match checked.historical with
      | some offset => .atr offset
      | none => old, checked.hist_len, device⟩ := by
  have low := check_len_hist_len found
  have few : checked.hist_len.toNat ≤ 15 := by
    rw [low, UInt8.toNat_and]
    exact Nat.and_le_right
  refine ⟨rfl, small, begins, few, ?_⟩
  obtain ⟨TS, rest, shape⟩ := List.exists_cons_of_length_pos filled
  have zero : atr.get 0 = TS := by
    rw [shape] at begins
    exact Buffer.getD_of_take _ begins (by simp)
  rw [shape] at whole
  obtain ⟨T0, more, tail, parts⟩ := historicalBytes_cases (by rw [← zero]; exact first) whole
  have one : atr.get 1 = T0 := by
    rw [shape, tail] at begins
    exact Buffer.getD_of_take _ begins (by simp)
  rw [one] at low
  rcases parts with ⟨nothing, bytes⟩ | ⟨some', behind, parsed, inside, bytes⟩
  · rw [← shape] at bytes
    refine ⟨[], bytes, by rw [low, nothing]; rfl, fun ATR => ?_⟩
    exact if_pos (by dsimp only; rw [low, nothing])
  · rw [← shape] at bytes
    refine ⟨_, bytes, ?_, fun ATR => ?_⟩
    · change checked.hist_len.toNat = _
      rw [low, List.length_take, Nat.min_eq_left inside]
    · have starts : rest = data.drop 1 := by
        rw [shape]
        rfl
      have length : data.length = rest.length + 1 := by
        rw [shape]
        rfl
      obtain ⟨walked, walks, place⟩ := walk_of_interfaces begins small parsed 260 1 0 false starts (by omega) (by decide)
      have offset : checked.historical = some (data.length - behind.length) := by
        rw [check_len, walks] at found
        cases found
        exact place
      have suffix : behind <:+ data := by
        rw [shape]
        exact (interfaces_suffix parsed).trans (List.suffix_cons _ _)
      rw [Locals.historical, if_neg (by dsimp only; rw [low]; exact some'), offset]
      dsimp only
      rw [load_behind begins small suffix (by rw [low]; exact inside), low]

theorem Good.within {pass : Pass ATR_len} (good : Good data pass) {before : Nat} (once : before ≤ 1) :
    pass.2.Satisfies (fun next => before + powerOns pass.1 ≤ 1 ∧ Chosen ATR_len data next)
      (fun outcome => before + powerOns pass.1 ≤ 1 ∧ Delivered data outcome) := by
  have quiet := good.quiet
  exact good.next.imp (fun _ next => ⟨by omega, next.1⟩) (fun _ delivered => ⟨by omega, delivered⟩)

/-- How often the card has been powered on again. -/
def again (warm : Bool) : Nat := if warm then 1 else 0

theorem again_le (warm : Bool) : again warm ≤ 1 := by
  cases warm <;> decide

theorem refused_iff (warm : Bool) (locals : Locals) :
    (refused warm locals : Pass ATR_len).2.Satisfies
        (fun next => again warm + powerOns (refused warm locals : Pass ATR_len).1 ≤ 1 ∧ Chosen ATR_len data next)
        (fun outcome => again warm + powerOns (refused warm locals : Pass ATR_len).1 ≤ 1 ∧ Delivered data outcome) ↔
      warm = false := by
  cases warm with
  | false => exact ⟨fun _ => rfl, fun _ => ⟨show again false + powerOns [.iccPowerOn] ≤ 1 by decide, trivial⟩⟩
  | true =>
      constructor
      · intro both
        have twice : again true + powerOns [.iccPowerOff, .iccPowerOn] ≤ 1 := both.1
        exact absurd twice (by decide)
      · intro cold
        cases cold

theorem asynchronous_iff {warm : Bool} (begins : locals.atr.cells.take data.length = data) (len : locals.len = data.length)
    (small : data.length ≤ 260) (filled : data.length > 0) (first : locals.atr.get 0 = 0x3b ∨ locals.atr.get 0 = 0x3f) :
    (asynchronous warm locals : Pass ATR_len).2.Satisfies
        (fun next => again warm + powerOns (asynchronous warm locals : Pass ATR_len).1 ≤ 1 ∧ Chosen ATR_len data next)
        (fun outcome => again warm + powerOns (asynchronous warm locals : Pass ATR_len).1 ≤ 1 ∧ Delivered data outcome) ↔
      RegularATR warm locals.atr data := by
  have once := again_le warm
  unfold asynchronous RegularATR
  rw [len]
  cases found : check_len locals.atr data.length with
  | none =>
      dsimp only
      exact ⟨fun both => both.2.inside rfl, False.elim⟩
  | some checked =>
      dsimp only
      by_cases good : checked.code = 1
      · simp only [if_pos good]
        by_cases wrong : (scanATR locals.atr warm).error = true
        · simp only [if_pos wrong]
          exact refused_iff warm _
        · simp only [if_neg wrong]
          constructor
          · intro both
            obtain ⟨_, ready⟩ := both
            have ready : Ready ATR_len data _ := ready
            obtain ⟨bytes, announced, _⟩ := ready.historical
            rw [announced]
            rfl
          · intro whole
            have ready := @checked_ready ATR_len data _ _ locals.device locals.hist begins small first filled found whole
            exact ⟨once, ready⟩
      · simp only [if_neg good]
        by_cases wrong : checked.code = 2
        · simp only [if_pos wrong]
          exact refused_iff warm _
        · simp only [if_neg wrong]
          exact ⟨fun _ => trivial, fun _ => ⟨once, show Cjpp.timeout ≠ .success by decide⟩⟩

theorem historicalBytes_synchronous {atr : Buffer UInt8 260} (begins : atr.cells.take data.length = data)
    (other : ¬ (data.length > 0 ∧ (atr.get 0 = 0x3b ∨ atr.get 0 = 0x3f))) : historicalBytes data = some [] := by
  cases data with
  | nil => simp [historicalBytes]
  | cons TS rest =>
      have zero : atr.get 0 = TS := Buffer.getD_of_take _ begins (by simp)
      have different : ¬ (TS = 0x3b ∨ TS = 0x3f) := fun first => other ⟨by simp, by rw [zero]; exact first⟩
      cases rest <;> rw [historicalBytes, if_neg different]

theorem deliver_quiet (caller : Caller ATR_len) (locals : Locals) :
    powerOns (deliver caller locals).1 = 0 ∧ ¬ (deliver caller locals).2.GoesOn := by
  unfold deliver failure
  repeat' split
  all_goals exact ⟨rfl, id⟩

/-- The historical bytes of the ATR before are delivered with that of a synchronous card. -/
theorem deliver_stale (caller : Caller ATR_len) (nothing : historicalBytes data = some []) (room : ¬ ATR_len.toNat < locals.len)
    (stale : locals.hist_len ≠ 0) :
    ¬ (deliver caller locals).2.Satisfies (fun _ => True) (Delivered data) := by
  have size := locals.atr.length_cells
  unfold deliver
  rw [if_neg room]
  cases locals.atr.load? 0 locals.len with
  | none => exact fun delivered => delivered.inside rfl
  | some bytes =>
      dsimp only
      cases caller.ATR.store? 0 bytes with
      | none => exact fun delivered => delivered.inside rfl
      | some ATR =>
          dsimp only
          cases locals.historical ATR with
          | none => exact fun delivered => delivered.inside rfl
          | some bytes =>
              dsimp only
              cases caller.historical.store? 0 bytes with
              | none => exact fun delivered => delivered.inside rfl
              | some historical =>
                  intro delivered
                  obtain ⟨_, _, announced⟩ := delivered.success _ _ _ _ rfl
                  have cells := historical.length_cells
                  have positive : 0 < locals.hist_len.toNat := toNat_pos stale
                  rw [nothing, Option.some.injEq] at announced
                  have lengths := congrArg List.length announced
                  rw [List.length_take, cells, List.length_nil] at lengths
                  omega

theorem synchronous_iff (caller : Caller ATR_len) (warm : Bool) (begins : locals.atr.cells.take data.length = data)
    (len : locals.len = data.length) (small : data.length ≤ 260)
    (other : ¬ (data.length > 0 ∧ (locals.atr.get 0 = 0x3b ∨ locals.atr.get 0 = 0x3f))) :
    (synchronous caller locals).2.Satisfies
        (fun next => again warm + powerOns (synchronous caller locals).1 ≤ 1 ∧ Chosen ATR_len data next)
        (fun outcome => again warm + powerOns (synchronous caller locals).1 ≤ 1 ∧ Delivered data outcome) ↔
      (data.length = 4 → 4 ≤ ATR_len.toNat → locals.hist_len = 0) := by
  have once := again_le warm
  have nothing := historicalBytes_synchronous begins other
  unfold synchronous
  rw [len]
  by_cases four : data.length = 4
  · rw [if_neg (not_not.mpr four)]
    generalize Device.mk { locals.device.handle with IFSC := 0 } (syncDevice (locals.atr.get 0) locals.device.sync) = device
    by_cases fresh : locals.hist_len = 0
    · have ready : Ready ATR_len data { locals with device } :=
        ⟨len, small, begins, by dsimp only; rw [fresh]; decide, [], nothing, by dsimp only; rw [fresh]; rfl, fun _ => if_pos fresh⟩
      rw [len] at ready
      exact ⟨fun _ _ _ => fresh, fun _ => (deliver_good caller ready).within once⟩
    · obtain ⟨quiet, ends⟩ := deliver_quiet caller { locals with device }
      by_cases room : ATR_len.toNat < data.length
      · have failed : deliver caller { locals with device } = failure caller .rbufferToSmall { locals with device } := by
          unfold deliver
          rw [if_pos (by rw [len]; exact room)]
        rw [len] at failed
        rw [failed]
        exact ⟨fun _ _ enough => by omega, fun _ => (failure_good (by decide)).within once⟩
      · have wrong := @deliver_stale _ data { locals with device } caller nothing (by rw [len]; exact room) fresh
        rw [len] at wrong
        constructor
        · intro both
          exact absurd (both.imp (fun _ _ => trivial) fun _ delivered => delivered.2) wrong
        · intro zero
          exact absurd (zero four (by omega)) fresh
  · rw [if_pos four]
    exact ⟨fun _ same => absurd same four, fun _ => (switchedOff_good (by decide)).within once⟩

theorem activated_iff (caller : Caller ATR_len) (warm : Bool) (locals : Locals) (reply : Reply) :
    (activated caller warm locals reply).2.Satisfies
        (fun next => again warm + powerOns (activated caller warm locals reply).1 ≤ 1 ∧ Chosen ATR_len reply.abData next)
        (fun outcome => again warm + powerOns (activated caller warm locals reply).1 ≤ 1 ∧ Delivered reply.abData outcome) ↔
      Regular ATR_len (.powerOn warm locals) reply := by
  have once := again_le warm
  unfold Regular activated
  cases powered : cjccid_iccPowerOn reply with
  | error result =>
      constructor
      · intro _ data same
        rw [powered] at same
        cases same
      · exact fun _ => (switchedOff_good (by decide)).within once
  | ok data =>
      have same : data = reply.abData := by
        unfold cjccid_iccPowerOn at powered
        repeat' split at powered
        all_goals cases powered
        rfl
      subst same
      dsimp only
      by_cases small : reply.abData.length ≤ 260
      · obtain ⟨atr, stored, begins, _⟩ := locals.atr.store?_zero small
        rw [stored]
        dsimp only
        have regular : (∀ data, cjccid_iccPowerOn reply = .ok data → data.length ≤ 260 ∧
            ∀ atr ∈ locals.atr.store? 0 data,
              if data.length > 0 ∧ (atr.get 0 = 0x3b ∨ atr.get 0 = 0x3f) then RegularATR warm atr data
              else data.length = 4 → 4 ≤ ATR_len.toNat → locals.hist_len = 0) ↔
            if reply.abData.length > 0 ∧ (atr.get 0 = 0x3b ∨ atr.get 0 = 0x3f) then RegularATR warm atr reply.abData
            else reply.abData.length = 4 → 4 ≤ ATR_len.toNat → locals.hist_len = 0 := by
          constructor
          · exact fun all => (all _ powered).2 atr stored
          · intro one data same
            cases powered.symm.trans same
            refine ⟨small, fun other found => ?_⟩
            cases stored.symm.trans found
            exact one
        rw [regular]
        split
        · case isTrue first =>
            exact @asynchronous_iff _ reply.abData { locals with atr, len := reply.abData.length } warm begins rfl small
              first.1 first.2
        · case isFalse other =>
            exact @synchronous_iff _ reply.abData { locals with atr, len := reply.abData.length } caller warm begins rfl small other
      · have full : locals.atr.store? 0 reply.abData = none := by
          rw [Buffer.store?_eq_none]
          omega
        rw [full]
        exact ⟨fun both => absurd rfl both.2.inside, fun all => absurd (all _ powered).1 small⟩

end Steps

/-! ## A run -/

section Runs

variable {caller : Caller ATR_len} {past : Turns} {state : State}

/-- The warm reset is the second one. -/
def Shape (past : Turns) : State → Prop
  | .powerOn warm _ => powerOns (outputs past) = 0 ↔ warm = false
  | _ => True

theorem powerOns_snoc (turn : Turn State Reply Event) :
    powerOns (outputs (past ++ [turn])) = powerOns (outputs past) + powerOns turn.output := by
  rw [outputs_append, outputs_singleton, powerOns, List.count_append]
  rfl

theorem lastATR_powerOn {warm : Bool} {locals : Locals} {reply : Reply} {output : List Event} :
    lastATR (past ++ [⟨.powerOn warm locals, reply, output⟩]) = reply.abData := by
  rw [lastATR, List.filterMap_append]
  exact List.getLastD_concat

theorem lastATR_later {reply : Reply} {output : List Event} (later : state.isPowerOn = false) :
    lastATR (past ++ [⟨state, reply, output⟩]) = lastATR past := by
  cases state with
  | powerOn warm locals => cases later
  | _ => rw [lastATR, List.filterMap_append]; exact congrArg (fun list => List.getLastD list []) (List.append_nil _)

theorem Shape.later (later : state.isPowerOn = false) : Shape past state := by
  cases state with
  | powerOn warm locals => cases later
  | _ => trivial

theorem deliver_ends (caller : Caller ATR_len) (locals : Locals) (invariant : State → Prop) :
    (deliver caller locals).2.Satisfies invariant (fun _ => True) := by
  have ends := (deliver_quiet caller locals).2
  cases next : (deliver caller locals).2 with
  | again state =>
      rw [next] at ends
      exact absurd trivial ends
  | done result => trivial

theorem later_shape (caller : Caller ATR_len) (later : state.isPowerOn = false) (reply : Reply) :
    (body caller state reply).2.Satisfies (fun next => next.isPowerOn = false) (fun _ => True) := by
  have established_shape : ∀ scan locals,
      (established caller scan locals).2.Satisfies (fun next => next.isPowerOn = false) (fun _ => True) := by
    intro scan locals
    unfold established
    dsimp only
    split
    · exact deliver_ends _ _ _
    · rfl
  cases state with
  | powerOn warm locals => cases later
  | _ =>
      unfold body
      dsimp only
      repeat' split
      all_goals first | trivial | rfl | exact established_shape _ _ | exact deliver_ends _ _ _

/-- Where the loop is entered again the card has been powered on. -/
def Warmed (pass : Pass ATR_len) : Prop :=
  pass.2.Satisfies (fun next => ∀ warm locals, next = .powerOn warm locals → warm = true ∧ 0 < powerOns pass.1)
    (fun _ => True)

theorem refused_warmed (warm : Bool) (locals : Locals) : Warmed (refused warm locals : Pass ATR_len) := by
  cases warm with
  | false => exact fun _ _ same => by cases same; exact ⟨rfl, show 0 < powerOns [.iccPowerOn] by decide⟩
  | true => exact fun _ _ same => by cases same; exact ⟨rfl, show 0 < powerOns [.iccPowerOff, .iccPowerOn] by decide⟩

theorem switchedOff_warmed (result : Cjpp) (locals : Locals) : Warmed (switchedOff result locals : Pass ATR_len) :=
  fun _ _ same => by cases same

theorem activated_warmed (caller : Caller ATR_len) (warm : Bool) (locals : Locals) (reply : Reply) :
    Warmed (activated caller warm locals reply) := by
  unfold activated
  split
  · exact switchedOff_warmed _ _
  · split
    · trivial
    · dsimp only
      split
      · unfold asynchronous
        split
        · trivial
        · dsimp only
          split
          · split
            · exact refused_warmed _ _
            · exact fun _ _ same => by cases same
          · split
            · exact refused_warmed _ _
            · exact fun _ _ same => by cases same
      · unfold synchronous
        dsimp only
        split
        · exact switchedOff_warmed _ _
        · exact deliver_ends _ _ _

theorem body_shape (caller : Caller ATR_len) (past : Turns) (state : State) (reply : Reply) (_shaped : Shape past state) :
    (body caller state reply).2.Satisfies (Shape (past ++ [⟨state, reply, (body caller state reply).1⟩])) (fun _ => True) := by
  by_cases later : state.isPowerOn = false
  · exact (later_shape caller later reply).imp (fun _ next => Shape.later next) fun _ => id
  · cases state with
    | powerOn warm locals =>
        refine Next.Satisfies.imp (activated_warmed caller warm locals reply) (fun next warmed => ?_) fun _ => id
        cases next with
        | powerOn again locals' =>
            obtain ⟨hot, powered⟩ := warmed again locals' rfl
            change powerOns (outputs (past ++ [⟨.powerOn warm locals, reply, (activated caller warm locals reply).1⟩])) = 0 ↔
              again = false
            rw [powerOns_snoc, hot]
            dsimp only
            exact ⟨fun none => by omega, fun cold => by cases cold⟩
        | _ => trivial
    | _ => exact absurd rfl later

/-- What is known at every point. -/
def Known (ATR_len : UInt8) (past : Turns) (state : State) : Prop :=
  powerOns (outputs past) ≤ 1 ∧ Chosen ATR_len (lastATR past) state

def Ended (past : Turns) (outcome : Result ATR_len) : Prop :=
  powerOns (outputs past) ≤ 1 ∧ Delivered (lastATR past) outcome

theorem body_known_iff (caller : Caller ATR_len) (past : Turns) (state : State) (reply : Reply) (shape : Shape past state)
    (known : Known ATR_len past state) :
    (body caller state reply).2.Satisfies (Known ATR_len (past ++ [⟨state, reply, (body caller state reply).1⟩]))
        (Ended (past ++ [⟨state, reply, (body caller state reply).1⟩])) ↔ Regular ATR_len state reply := by
  unfold Known Ended
  simp only [powerOns_snoc]
  by_cases later : state.isPowerOn = false
  · have good := later_good caller known.2 later reply
    have regular : Regular ATR_len state reply := by
      cases state with
      | powerOn warm locals => cases later
      | _ => trivial
    rw [lastATR_later later]
    exact ⟨fun _ => regular, fun _ => good.within known.1⟩
  · cases state with
    | powerOn warm locals =>
        have count : powerOns (outputs past) = again warm := by
          have once := known.1
          have shape : powerOns (outputs past) = 0 ↔ warm = false := shape
          cases warm with
          | false => exact shape.mpr rfl
          | true =>
              have some' : powerOns (outputs past) ≠ 0 := fun zero => by cases shape.mp zero
              change powerOns (outputs past) = 1
              omega
        rw [count, lastATR_powerOn]
        exact activated_iff caller warm locals reply
    | _ => exact absurd rfl later

/-- In every run the card is powered on twice at most, no array is left, and success comes with the
last ATR, if and only if the reader answers as it should. -/
theorem reset_activates_iff (caller : Caller ATR_len) (atr : Buffer UInt8 260) (device : Device) (replies : List Reply) :
    let made := ctBcsReset caller atr device replies
    Activates made ↔ Meets (Regular ATR_len) made.turns := by
  intro made
  have holds := run_holds_iff_of_shape (body_shape caller) (body_known_iff caller) []
    (show Shape [] (start atr device) from ⟨fun _ => rfl, fun _ => rfl⟩) ⟨by decide, trivial⟩ replies
  refine Iff.trans ?_ holds
  have trace : powerOns made.trace = 1 + powerOns (outputs made.turns) := by
    change List.count _ ([.iccPowerOn] ++ outputs made.turns) = _
    rw [List.count_append]
    rfl
  constructor
  · intro activates
    have powered := activates.powered
    constructor
    · intro front turn back split
      have inside : powerOns (outputs made.turns) = powerOns (outputs front) + powerOns (outputs (turn :: back)) := by
        rw [show made.turns = front ++ turn :: back from split, outputs_append]
        exact List.count_append
      exact ⟨by rw [List.nil_append]; omega, activates.chosen front turn back split⟩
    · change made.outcome.Satisfies (Known ATR_len ([] ++ made.turns)) (Ended ([] ++ made.turns))
      rw [List.nil_append]
      cases ended : made.outcome with
      | again state => exact ⟨by omega, activates.waiting state ended⟩
      | done outcome => exact ⟨by omega, activates.delivered outcome ended⟩
  · intro holds
    have after : made.outcome.Satisfies (Known ATR_len ([] ++ made.turns)) (Ended ([] ++ made.turns)) := holds.after
    rw [List.nil_append] at after
    refine ⟨?_, fun front turn back split => (holds.before front turn back split).2, ?_, ?_⟩
    · cases ended : made.outcome with
      | again state =>
          rw [ended] at after
          have once := after.1
          omega
      | done outcome =>
          rw [ended] at after
          have once := after.1
          omega
    · intro state ended
      rw [ended] at after
      exact after.2
    · intro outcome ended
      rw [ended] at after
      exact after.2

/-- A card that only offers T=1, and no TA1, TB1 or TD2: its warm reset is no better. -/
theorem plainT1_endless :
    let made := @ctBcsReset 33 ⟨.filled 33 0x00, .filled 15 0x00⟩ (.filled 260 0x00) ⟨⟨0, 0, 0⟩, .initial⟩
      [.ofBlock [0x3b, 0x80, 0x01, 0x81], .ofBlock [0x3b, 0x80, 0x01, 0x81]]
    powerOns made.trace = 3 ∧ ¬ Activates made := by
  refine ⟨by decide, ?_⟩
  intro activates
  exact absurd activates.powered (by decide)

end Runs

end Cyberjack.Ppa.Reset
