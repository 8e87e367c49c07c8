import Cyberjack.Eca.SecurePin
import Cyberjack.Foundation.Loop

namespace Cyberjack.Eca

open Cyberjack.Foundation

/-! # Packets from the bulk pipe

`ausb1_bulk_read`, `ausb3_bulk_read` and `ausb31_bulk_read`.  Interrupt messages
come through the same pipe as responses; each function hands them to the
interrupt handler and reads on.  A run takes what the calls of the library or
the kernel return; the limits of time are left out.
-/

/-- `RDR_TO_PC_KEYEVENT` and `RDR_TO_PC_NOTIFYSLOTCHANGE` -/
def IsInterruptByte (first : UInt8) : Prop := first = 0x40 ∨ first = 0x50

instance (first : UInt8) : Decidable (IsInterruptByte first) := inferInstanceAs (Decidable (_ ∨ _))

/-- What a call returns: the bytes received, or a negative number. -/
inductive BulkResult where
  | received (packet : List UInt8)
  | error
deriving Repr, DecidableEq

/-! ## libusb 0.1 -/

/-- What `usb_bulk_read` returns; `interrupted` where `errno` is `EINTR`. -/
inductive UsbRead where
  | count (packet : List UInt8)
  | failed (interrupted : Bool)
deriving Repr, DecidableEq

/-- A pass of the loops of `ausb3_bulk_read`; the output is what the handler gets. -/
def ausb3_bulk_read : Body (Nat → UInt8) UsbRead (List UInt8) BulkResult := fun bytes read =>
  match read with
  | .failed interrupted => ([], if interrupted then .again bytes else .done .error)
  | .count packet =>
      let rv := packet.length
      let bytes := stored bytes 0 packet
      if rv ≥ 1 then
        if IsInterruptByte (bytes 0) then ([bytesAt bytes 0 rv], .again bytes)
        else ([], .done (.received (bytesAt bytes 0 rv)))
      else ([], .done (.received (bytesAt bytes 0 rv)))

/-! ## libusb 1.0 -/

/-- What `libusb_bulk_transfer` returns. -/
inductive LibusbTransfer where
  | transferred (packet : List UInt8)
  | failed (arrived : List UInt8)
deriving Repr, DecidableEq

def ausb31_bulk_read (pid : UInt16) : Body (Nat → UInt8) LibusbTransfer (List UInt8) BulkResult := fun bytes transfer =>
  match transfer with
  | .failed _ => ([], .done .error)
  | .transferred packet =>
      let bytes := stored bytes 0 packet
      if pid ≠ 0x100 ∧ IsInterruptByte (bytes 0) then ([bytesAt bytes 0 packet.length], .again bytes)
      else ([], .done (.received (bytesAt bytes 0 packet.length)))

/-! ## The device file of the kernel -/

/-- What the ioctl for a finished URB returns; `status` is 0 for a URB that has not failed, and
`submitted` tells whether the URB can be submitted again. -/
inductive ReapedUrb where
  | intUrb (packet : List UInt8) (submitted : Bool)
  | uurb (packet : List UInt8) (status : Int) (submitted : Bool)
  | unknown
  | failed (again : Bool)
deriving Repr, DecidableEq

/-- `ausb1_bulk_read` looks at `actual_length` and not at the status. -/
def ausb1_bulk_read (pid : UInt16) : Body (Nat → UInt8) ReapedUrb (List UInt8) BulkResult := fun bytes urb =>
  match urb with
  | .failed again => ([], if again then .again bytes else .done .error)
  | .unknown => ([], .done .error)
  | .intUrb packet submitted => ([packet], if submitted then .again bytes else .done .error)
  | .uurb packet _ submitted =>
      let bytes := stored bytes 0 packet
      if pid ≠ 0x100 ∧ IsInterruptByte (bytes 0) then
        ([bytesAt bytes 0 packet.length], if submitted then .again bytes else .done .error)
      else ([], .done (.received (bytesAt bytes 0 packet.length)))

/-! ## What the device does -/

/-- What comes through the bulk pipe: a packet, a transfer that fails behind some bytes, and the end
of the device. -/
inductive BulkEvent where
  | packet (bytes : List UInt8)
  | failed (arrived : List UInt8)
  | lost
deriving Repr, DecidableEq

def BulkEvent.usbRead : BulkEvent → UsbRead
  | .packet bytes => .count bytes
  | .failed _ => .failed false
  | .lost => .failed false

def BulkEvent.libusbTransfer : BulkEvent → LibusbTransfer
  | .packet bytes => .transferred bytes
  | .failed arrived => .failed arrived
  | .lost => .failed []

/-- A transfer that fails is a URB with a status, and the ioctl succeeds. -/
def BulkEvent.reapedUrb : BulkEvent → ReapedUrb
  | .packet bytes => .uurb bytes 0 true
  | .failed arrived => .uurb arrived (-32) true
  | .lost => .failed false

/-- A packet is an interrupt message by its own first byte. -/
def BulkEvent.interrupt? : BulkEvent → Option (List UInt8)
  | .packet (first :: rest) => if IsInterruptByte first then some (first :: rest) else none
  | _ => none

def BulkEvent.result : BulkEvent → BulkResult
  | .packet bytes => .received bytes
  | _ => .error

/-- The interrupt messages in front of everything else. -/
def interrupts : List BulkEvent → List (List UInt8)
  | [] => []
  | event :: rest =>
      match event.interrupt? with
      | some packet => packet :: interrupts rest
      | none => []

/-- What comes behind them. -/
def firstOther : List BulkEvent → Option BulkEvent
  | [] => none
  | event :: rest => if event.interrupt?.isSome then firstOther rest else some event

def returned {σ ρ : Type} : Next σ ρ → Option ρ
  | .again _ => none
  | .done result => some result

/-- The interrupt messages go to the handler, once each and in order, and the first packet behind
them is returned. -/
def Demultiplexes {ι : Type} (body : Body (Nat → UInt8) ι (List UInt8) BulkResult) (bytes : Nat → UInt8)
    (events : List BulkEvent) (call : BulkEvent → ι) : Prop :=
  outputs (run body bytes (events.map call)).turns = interrupts events ∧
    returned (run body bytes (events.map call)).outcome = (firstOther events).map BulkEvent.result

structure BackEndsAgree (pid : UInt16) (bytes : Nat → UInt8) (events : List BulkEvent) : Prop where
  ausb1 : Demultiplexes (ausb1_bulk_read pid) bytes events BulkEvent.reapedUrb
  ausb3 : Demultiplexes ausb3_bulk_read bytes events BulkEvent.usbRead
  ausb31 : Demultiplexes (ausb31_bulk_read pid) bytes events BulkEvent.libusbTransfer

/-- No transfer fails before a packet is returned; that packet is not empty, or it is the first one
and the buffer does not begin like an interrupt message. -/
def PacketsTell (bytes : Nat → UInt8) (events : List BulkEvent) : Prop :=
  ∀ last, firstOther events = some last →
    (∀ arrived, last ≠ .failed arrived) ∧
      (last = .packet [] → interrupts events = [] ∧ ¬ IsInterruptByte (bytes 0))

/-! ## The buffer -/

theorem stored_nil (bytes : Nat → UInt8) : stored bytes 0 [] = bytes := by
  funext index
  simp [stored]

/-- The buffer behind packets that came one after the other. -/
def behind (bytes : Nat → UInt8) (packets : List (List UInt8)) : Nat → UInt8 :=
  packets.foldl (fun buffer packet => stored buffer 0 packet) bytes

@[simp] theorem behind_nil (bytes : Nat → UInt8) : behind bytes [] = bytes := rfl

@[simp] theorem behind_cons (bytes : Nat → UInt8) (packet : List UInt8) (packets : List (List UInt8)) :
    behind bytes (packet :: packets) = behind (stored bytes 0 packet) packets := rfl

theorem interrupt_eq_some {event : BulkEvent} {packet : List UInt8}
    (interrupt : event.interrupt? = some packet) :
    ∃ first rest, packet = first :: rest ∧ IsInterruptByte first ∧ event = .packet packet := by
  cases event with
  | failed | lost => cases interrupt
  | packet bytes =>
      cases bytes with
      | nil => cases interrupt
      | cons first rest =>
          rw [BulkEvent.interrupt?, Option.ite_none_right_eq_some] at interrupt
          obtain ⟨isInterrupt, same⟩ := interrupt
          cases same
          exact ⟨first, rest, rfl, isInterrupt, rfl⟩

theorem interrupt_eq_none {packet : List UInt8} (other : (BulkEvent.packet packet).interrupt? = none)
    (filled : packet ≠ []) (bytes : Nat → UInt8) : ¬ IsInterruptByte (stored bytes 0 packet 0) := by
  cases packet with
  | nil => contradiction
  | cons first rest =>
      rw [stored_zero bytes (Nat.succ_pos _), List.getElem_cons_zero]
      simpa [BulkEvent.interrupt?] using other

theorem interrupt_front {event : BulkEvent} {packet : List UInt8}
    (interrupt : event.interrupt? = some packet) (bytes : Nat → UInt8) :
    IsInterruptByte (stored bytes 0 packet 0) := by
  obtain ⟨first, rest, rfl, isInterrupt, -⟩ := interrupt_eq_some interrupt
  rwa [stored_zero bytes (Nat.succ_pos _), List.getElem_cons_zero]

/-- Interrupt messages leave the byte of an interrupt message in front. -/
theorem behind_interrupts (bytes : Nat → UInt8) (events : List BulkEvent) :
    IsInterruptByte (behind bytes (interrupts events) 0) ↔
      interrupts events ≠ [] ∨ IsInterruptByte (bytes 0) := by
  induction events generalizing bytes with
  | nil => simp [interrupts]
  | cons event rest ih =>
      unfold interrupts
      cases interrupt : event.interrupt? with
      | none => simp
      | some packet => simp [ih, interrupt_front interrupt bytes]

/-! ## A call of any of the three -/

section Calls

variable {ι : Type} {body : Body (Nat → UInt8) ι (List UInt8) BulkResult} {bytes next : Nat → UInt8}
  {event : BulkEvent} {rest : List BulkEvent} {call : BulkEvent → ι} {packet : List UInt8}

theorem demultiplexes_interrupt (interrupt : event.interrupt? = some packet)
    (stepped : body bytes (call event) = ([packet], .again next)) :
    Demultiplexes body bytes (event :: rest) call ↔ Demultiplexes body next rest call := by
  simp [Demultiplexes, run_again stepped, outputs, interrupts, firstOther, interrupt]

theorem demultiplexes_done {result : BulkResult} (other : event.interrupt? = none)
    (stepped : body bytes (call event) = ([], .done result)) :
    Demultiplexes body bytes (event :: rest) call ↔ result = event.result := by
  simp [Demultiplexes, run_done stepped, outputs, interrupts, firstOther, other, returned]

theorem not_demultiplexes (other : event.interrupt? = none)
    (stepped : body bytes (call event) = ([packet], .again next)) :
    ¬ Demultiplexes body bytes (event :: rest) call := by
  simp [Demultiplexes, run_again stepped, outputs, interrupts, other]

/-- A call depends on what comes behind the interrupt messages and on what they leave in the
buffer. -/
theorem demultiplexes_iff {tells : (Nat → UInt8) → BulkEvent → Prop}
    (onInterrupt : ∀ bytes event packet, event.interrupt? = some packet →
      body bytes (call event) = ([packet], .again (stored bytes 0 packet)))
    (onOther : ∀ bytes event rest, event.interrupt? = none →
      (Demultiplexes body bytes (event :: rest) call ↔ tells bytes event))
    (bytes : Nat → UInt8) (events : List BulkEvent) :
    Demultiplexes body bytes events call ↔
      ∀ last, firstOther events = some last → tells (behind bytes (interrupts events)) last := by
  induction events generalizing bytes with
  | nil => simp [Demultiplexes, interrupts, firstOther, returned]
  | cons event rest ih =>
      cases interrupt : event.interrupt? with
      | none =>
          rw [onOther bytes event rest interrupt]
          simp [firstOther, interrupts, interrupt]
      | some packet =>
          rw [demultiplexes_interrupt interrupt (onInterrupt bytes event packet interrupt), ih]
          simp [firstOther, interrupts, interrupt]

end Calls

/-! ## The three back ends -/

theorem ausb3_interrupt {event : BulkEvent} {packet : List UInt8}
    (interrupt : event.interrupt? = some packet) (bytes : Nat → UInt8) :
    ausb3_bulk_read bytes event.usbRead = ([packet], .again (stored bytes 0 packet)) := by
  have front := interrupt_front interrupt bytes
  obtain ⟨first, rest, rfl, -, rfl⟩ := interrupt_eq_some interrupt
  have long : (first :: rest).length ≥ 1 := Nat.succ_pos _
  simp only [ausb3_bulk_read, BulkEvent.usbRead, if_pos long, if_pos front, bytesAt_stored]

theorem ausb3_other {event : BulkEvent} (other : event.interrupt? = none) (bytes : Nat → UInt8) :
    ausb3_bulk_read bytes event.usbRead = ([], .done event.result) := by
  cases event with
  | failed | lost => rfl
  | packet packet =>
      cases packet with
      | nil => rfl
      | cons first rest =>
          have front := interrupt_eq_none other (List.cons_ne_nil _ _) bytes
          have long : (first :: rest).length ≥ 1 := Nat.succ_pos _
          simp only [ausb3_bulk_read, BulkEvent.usbRead, if_pos long, if_neg front, bytesAt_stored,
            BulkEvent.result]

theorem ausb3_demultiplexes (bytes : Nat → UInt8) (events : List BulkEvent) :
    Demultiplexes ausb3_bulk_read bytes events BulkEvent.usbRead := by
  have each : ∀ bytes event rest, event.interrupt? = none →
      (Demultiplexes ausb3_bulk_read bytes (event :: rest) BulkEvent.usbRead ↔ True) := by
    intro bytes event rest other
    rw [demultiplexes_done other (ausb3_other other bytes)]
    exact iff_true_intro rfl
  exact (demultiplexes_iff (fun bytes event packet interrupt => ausb3_interrupt interrupt bytes) each
    bytes events).mpr fun _ _ => trivial

section Pid

variable {pid : UInt16} (other : pid ≠ 0x100)
include other

theorem ausb31_interrupt {event : BulkEvent} {packet : List UInt8}
    (interrupt : event.interrupt? = some packet) (bytes : Nat → UInt8) :
    ausb31_bulk_read pid bytes event.libusbTransfer = ([packet], .again (stored bytes 0 packet)) := by
  have front := interrupt_front interrupt bytes
  obtain ⟨first, rest, rfl, -, rfl⟩ := interrupt_eq_some interrupt
  simp only [ausb31_bulk_read, BulkEvent.libusbTransfer, if_pos (And.intro other front), bytesAt_stored]

omit other in
/-- The status makes no difference to `ausb1_bulk_read`. -/
theorem ausb1_uurb (bytes : Nat → UInt8) (packet : List UInt8) (status : Int) :
    ausb1_bulk_read pid bytes (.uurb packet status true) = ausb31_bulk_read pid bytes (.transferred packet) := rfl

theorem ausb1_interrupt {event : BulkEvent} {packet : List UInt8}
    (interrupt : event.interrupt? = some packet) (bytes : Nat → UInt8) :
    ausb1_bulk_read pid bytes event.reapedUrb = ([packet], .again (stored bytes 0 packet)) := by
  have handed := ausb31_interrupt other interrupt bytes
  obtain ⟨first, rest, rfl, -, rfl⟩ := interrupt_eq_some interrupt
  rw [← handed]
  exact ausb1_uurb bytes (first :: rest) 0

theorem transferred_interrupt {bytes : Nat → UInt8} {packet : List UInt8}
    (front : IsInterruptByte (stored bytes 0 packet 0)) :
    ausb31_bulk_read pid bytes (.transferred packet) = ([packet], .again (stored bytes 0 packet)) := by
  simp only [ausb31_bulk_read, if_pos (And.intro other front), bytesAt_stored]

omit other in
theorem transferred_response {bytes : Nat → UInt8} {packet : List UInt8}
    (front : ¬ IsInterruptByte (stored bytes 0 packet 0)) :
    ausb31_bulk_read pid bytes (.transferred packet) = ([], .done (.received packet)) := by
  simp only [ausb31_bulk_read, if_neg (fun both => front (And.right both)), bytesAt_stored]

/-- An empty packet is told by what is left in the buffer. -/
theorem packet_told {ι : Type} {body : Body (Nat → UInt8) ι (List UInt8) BulkResult}
    {call : BulkEvent → ι} {bytes : Nat → UInt8} {packet : List UInt8}
    (response : (BulkEvent.packet packet).interrupt? = none)
    (same : body bytes (call (.packet packet)) = ausb31_bulk_read pid bytes (.transferred packet))
    (rest : List BulkEvent) :
    Demultiplexes body bytes (.packet packet :: rest) call ↔ (packet = [] → ¬ IsInterruptByte (bytes 0)) := by
  by_cases front : IsInterruptByte (stored bytes 0 packet 0)
  · have empty : packet = [] := by
      by_contra filled
      exact interrupt_eq_none response filled bytes front
    have handed := same.trans (transferred_interrupt other front)
    rw [empty, stored_nil] at front
    exact iff_of_false (not_demultiplexes response handed) fun holds => holds empty front
  · have passed := same.trans (transferred_response front)
    rw [demultiplexes_done response passed]
    refine iff_of_true rfl fun empty => ?_
    rwa [empty, stored_nil] at front

theorem ausb31_other {event : BulkEvent} (response : event.interrupt? = none) (bytes : Nat → UInt8)
    (rest : List BulkEvent) :
    Demultiplexes (ausb31_bulk_read pid) bytes (event :: rest) BulkEvent.libusbTransfer ↔
      (event = .packet [] → ¬ IsInterruptByte (bytes 0)) := by
  cases event with
  | failed arrived | lost =>
      have passed : Demultiplexes (ausb31_bulk_read pid) bytes (_ :: rest) BulkEvent.libusbTransfer :=
        (demultiplexes_done response (by rfl)).mpr rfl
      simp [passed]
  | packet packet =>
      rw [packet_told other response rfl rest]
      simp

/-- A URB that failed is taken for a packet. -/
theorem ausb1_other {event : BulkEvent} (response : event.interrupt? = none) (bytes : Nat → UInt8)
    (rest : List BulkEvent) :
    Demultiplexes (ausb1_bulk_read pid) bytes (event :: rest) BulkEvent.reapedUrb ↔
      (∀ arrived, event ≠ .failed arrived) ∧ (event = .packet [] → ¬ IsInterruptByte (bytes 0)) := by
  cases event with
  | lost =>
      have passed : Demultiplexes (ausb1_bulk_read pid) bytes (.lost :: rest) BulkEvent.reapedUrb :=
        (demultiplexes_done response (by rfl)).mpr rfl
      simp [passed]
  | failed arrived =>
      refine iff_of_false ?_ fun holds => holds.1 arrived rfl
      by_cases front : IsInterruptByte (stored bytes 0 arrived 0)
      · exact not_demultiplexes response ((ausb1_uurb bytes arrived (-32)).trans (transferred_interrupt other front))
      · have passed : ausb1_bulk_read pid bytes (BulkEvent.reapedUrb (.failed arrived)) =
            ([], .done (.received arrived)) := (ausb1_uurb bytes arrived (-32)).trans (transferred_response front)
        rw [demultiplexes_done response passed]
        simp [BulkEvent.result]
  | packet packet =>
      rw [packet_told other response (ausb1_uurb bytes packet 0) rest]
      simp

theorem back_ends_agree_iff (bytes : Nat → UInt8) (events : List BulkEvent) :
    BackEndsAgree pid bytes events ↔ PacketsTell bytes events := by
  have libusb := demultiplexes_iff (fun bytes event packet interrupt => ausb31_interrupt other interrupt bytes)
    (fun bytes event rest response => ausb31_other other response bytes rest) bytes events
  have kernel := demultiplexes_iff (fun bytes event packet interrupt => ausb1_interrupt other interrupt bytes)
    (fun bytes event rest response => ausb1_other other response bytes rest) bytes events
  have stale : ¬ IsInterruptByte (behind bytes (interrupts events) 0) ↔
      interrupts events = [] ∧ ¬ IsInterruptByte (bytes 0) := by
    rw [behind_interrupts, not_or, not_not]
  constructor
  · intro agree last found
    rw [← stale]
    exact kernel.mp agree.ausb1 last found
  · intro told
    rw [PacketsTell, ← stale] at told
    exact
      { ausb1 := kernel.mpr told
        ausb3 := ausb3_demultiplexes bytes events
        ausb31 := libusb.mpr fun last found => (told last found).2 }

end Pid

theorem slotChange_agrees :
    BackEndsAgree 0x400 (fun _ => 0) [.packet [0x50, 0x03], .packet [0x80, 0x02, 0x00], .packet []] :=
  (back_ends_agree_iff (by decide) _ _).mpr fun last found => by
    cases found
    exact ⟨fun _ => nofun, nofun⟩

/-- An empty packet behind a slot change is handed to the handler, and the response behind it is
returned; `ausb3_bulk_read` returns the empty packet. -/
theorem emptyPacket_not_agreed :
    ¬ BackEndsAgree 0x400 (fun _ => 0) [.packet [0x50, 0x03], .packet [], .packet [0x80, 0x02, 0x00]] := by
  intro agree
  have handed : outputs (run (ausb31_bulk_read 0x400) (fun _ => 0)
      ([.packet [0x50, 0x03], .packet [], .packet [0x80, 0x02, 0x00]].map BulkEvent.libusbTransfer)).turns =
      [[0x50, 0x03], []] := by decide
  have interrupt := agree.ausb31.1
  rw [handed] at interrupt
  exact absurd interrupt (by decide)

end Cyberjack.Eca
