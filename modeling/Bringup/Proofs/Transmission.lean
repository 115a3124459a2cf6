import Bringup.Device.Uart

/-!
# Transmission

What bytes look like at the ports of a UART whose registers all have ports. Before every byte the
line status is read until it shows an empty transmitter (`Uart.awaitReady_eq`), and then the byte is
written; nothing else happens (`Uart.Transmission`). So the data port gets exactly the bytes
(`Uart.sends_sendBytes`). The line status may show anything for any time: the values are read in
order and none is skipped (`Outcome.ReadsInOrder`), and they decide how often it is read but not
what is written (`Uart.transmission_of_text`).
-/

namespace Bringup

/-! ## The values read -/

namespace Event

/-- The values that a list of events read from ports, in order. -/
def readValues (events : List Event) : List UInt8 :=
  events.filterMap fun
    | .in8 _ value => some value
    | _ => none

@[simp]
theorem readValues_append (first second : List Event) :
    readValues (first ++ second) = readValues first ++ readValues second :=
  List.filterMap_append

@[simp]
theorem readValues_out8_cons (port : UInt16) (value : UInt8) (events : List Event) :
    readValues (.out8 port value :: events) = readValues events := rfl

end Event

open Event (readValues)

/-- An outcome that has read the given values from the first one on, none twice and none left out,
and the resting value after the last. -/
structure Outcome.ReadsInOrder {ε α : Type} (input : List UInt8) (o : Outcome ε (List UInt8) α) :
    Prop where
  values : ∀ (i : Nat) (value : UInt8), (readValues o.events)[i]? = some value →
    value = input.getD i restingValue
  rest : o.state = input.drop (readValues o.events).length

/-- Device code that reads in order, whatever it is given. -/
def ReadsInOrder {α : Type} (x : PortActivity α) : Prop :=
  ∀ input, (x input).ReadsInOrder input

section ReadsInOrder

variable {α β : Type}

theorem readsInOrder_pure (a : α) : ReadsInOrder (pure a) := by
  intro input
  refine ⟨fun i value read => ?_, rfl⟩
  cases read

theorem readsInOrder_stop (cause : Fault) :
    ReadsInOrder (Activity.stop cause : PortActivity α) := by
  intro input
  refine ⟨fun i value read => ?_, rfl⟩
  cases read

theorem readsInOrder_ofExcept (x : Except Fault α) : ReadsInOrder (Activity.ofExcept x) := by
  cases x with
  | ok a => exact readsInOrder_pure a
  | error cause => exact readsInOrder_stop cause

theorem readsInOrder_write (port : UInt16) (value : UInt8) :
    ReadsInOrder (Port.write port value) := by
  intro input
  refine ⟨fun i value read => ?_, rfl⟩
  cases read

theorem readsInOrder_read (port : UInt16) : ReadsInOrder (Port.read port) := by
  intro input
  cases input with
  | nil =>
      refine ⟨fun i value read => ?_, rfl⟩
      cases i with
      | zero => exact (Option.some.inj read).symm
      | succ i => cases read
  | cons first input =>
      refine ⟨fun i value read => ?_, rfl⟩
      cases i with
      | zero => exact (Option.some.inj read).symm
      | succ i => cases read

/-- In a sequence the second part starts with the values that the first one left. -/
theorem Outcome.ReadsInOrder.bind {x : PortActivity α} {f : α → PortActivity β} {input : List UInt8}
    (first : (x input).ReadsInOrder input)
    (next : ∀ a, (x input).result = .ok a → (f a (x input).state).ReadsInOrder (x input).state) :
    ((x >>= f) input).ReadsInOrder input := by
  rcases ran : x input with ⟨result, rest, events⟩
  rw [ran] at first next
  cases result with
  | error cause =>
      rw [Activity.bind_of_error ran]
      exact ⟨first.values, first.rest⟩
  | ok a =>
      have later := next a rfl
      have left : rest = input.drop (readValues events).length := first.rest
      dsimp only at later
      rw [Activity.bind_of_ok ran]
      constructor
      · intro i value read
        dsimp only at read
        rw [Event.readValues_append] at read
        rcases Nat.lt_or_ge i (readValues events).length with early | late
        · rw [List.getElem?_append_left early] at read
          exact first.values i value read
        · -- a value of the second part is found in what the first one left, that much further in
          rw [List.getElem?_append_right late] at read
          have there := later.values _ value read
          rw [left, List.getD_eq_getElem?_getD, List.getElem?_drop,
            Nat.add_sub_cancel' late] at there
          rw [there, List.getD_eq_getElem?_getD]
      · show (f a rest).state = _
        rw [later.rest, left, Event.readValues_append, List.length_append, List.drop_drop]

theorem ReadsInOrder.bind {x : PortActivity α} {f : α → PortActivity β} (first : ReadsInOrder x)
    (next : ∀ a, ReadsInOrder (f a)) : ReadsInOrder (x >>= f) :=
  fun input => (first input).bind fun a _ => next a _

end ReadsInOrder

namespace Uart

/-! ## Polling -/

theorem isReady_iff {status : UInt8} : isReady status = true ↔ status.toNat.testBit 5 = true := by
  have masked : ∀ i, (status &&& transmitterEmpty).toNat.testBit i =
      (status.toNat.testBit i && decide (5 = i)) := by
    intro i
    have bit : transmitterEmpty.toNat = 2 ^ 5 := rfl
    rw [UInt8.toNat_and, Nat.testBit_and, bit, Nat.testBit_two_pow]
  rw [isReady, bne_iff_ne, ne_eq, ← UInt8.toNat_inj]
  constructor
  · intro some
    cases set : status.toNat.testBit 5 with
    | true => rfl
    | false =>
        refine absurd (Nat.eq_of_testBit_eq fun i => ?_) some
        rw [masked]
        by_cases here : 5 = i
        · subst here
          rw [set]
          rfl
        · simp [here]
  · intro set none
    have clear := masked 5
    rw [none, set] at clear
    cases clear

theorem awaitReady_cons_apply (statusPort : UInt16) (status : UInt8) (input : List UInt8) :
    awaitReady statusPort (status :: input) =
      if isReady status then ⟨.ok (), input, [.in8 statusPort status]⟩
      else
        let later := awaitReady statusPort input
        ⟨later.result, later.state, .in8 statusPort status :: later.events⟩ := by
  cases ready : isReady status with
  | true => simp [awaitReady, pollReads, ready]
  | false => simp [awaitReady, pollReads, ready]

/-- Waiting is a loop of single reads, and the first that shows an empty transmitter ends it. -/
theorem awaitReady_eq (statusPort : UInt16) :
    awaitReady statusPort = (do
      let status ← Port.read statusPort
      if isReady status then pure () else awaitReady statusPort) := by
  funext input
  cases input with
  | nil => rfl
  | cons status input =>
      have read : Port.read statusPort (status :: input) =
          ⟨.ok status, input, [.in8 statusPort status]⟩ := rfl
      rw [Activity.bind_of_ok read, awaitReady_cons_apply]
      by_cases ready : isReady status
      · rw [if_pos ready, if_pos ready]
        rfl
      · rw [if_neg ready, if_neg ready]
        rfl

/-- Reads of a line status: any number that show a busy transmitter, then one that shows an empty
one. -/
inductive Polling (statusPort : UInt16) : List Event → Prop where
  | ready (status : UInt8) :
      status.toNat.testBit 5 = true → Polling statusPort [.in8 statusPort status]
  | busy (status : UInt8) {events : List Event} : status.toNat.testBit 5 = false →
      Polling statusPort events → Polling statusPort (.in8 statusPort status :: events)

/-- The events of sending some bytes: before each the line status is polled, and then the byte is
written. -/
inductive Transmission (uart : Uart) : List UInt8 → List Event → Prop where
  | done : Transmission uart [] []
  | next {polling events : List Event} {bytes : List UInt8} (byte : UInt8) :
      Polling (uart.base + lineStatus) polling → Transmission uart bytes events →
        Transmission uart (byte :: bytes) (polling ++ .out8 uart.base byte :: events)

section Polling

variable {statusPort : UInt16} {events : List Event}

theorem Polling.exists_ready (polled : Polling statusPort events) :
    ∃ earlier status, events = earlier ++ [.in8 statusPort status] ∧
      status.toNat.testBit 5 = true := by
  induction polled with
  | ready status set => exact ⟨[], status, rfl, set⟩
  | busy status _ _ ih =>
      obtain ⟨earlier, last, rfl, set⟩ := ih
      exact ⟨.in8 statusPort status :: earlier, last, rfl, set⟩

/-- Polling does nothing but read the line status. -/
theorem Polling.eq_in8_of_mem (polled : Polling statusPort events) {event : Event}
    (mem : event ∈ events) : ∃ status, event = .in8 statusPort status := by
  induction polled with
  | ready status _ => exact ⟨status, List.mem_singleton.1 mem⟩
  | busy status _ _ ih =>
      rcases List.mem_cons.1 mem with rfl | later
      · exact ⟨status, rfl⟩
      · exact ih later

theorem Polling.written_eq_nil (polled : Polling statusPort events) (port : UInt16) :
    Event.written port events = [] := by
  induction polled with
  | ready status _ => rw [Event.written_in8_cons, Event.written_nil]
  | busy status _ _ ih => rw [Event.written_in8_cons, ih]

end Polling

theorem polling_awaitReady (statusPort : UInt16) (input : List UInt8) :
    Polling statusPort (awaitReady statusPort input).events := by
  induction input with
  | nil => exact .ready restingValue (isReady_iff.1 isReady_restingValue)
  | cons status input ih =>
      rw [awaitReady_cons_apply]
      by_cases ready : isReady status
      · rw [if_pos ready]
        exact .ready status (isReady_iff.1 ready)
      · rw [if_neg ready]
        rw [isReady_iff, Bool.not_eq_true] at ready
        exact .busy status ready ih

theorem readsInOrder_awaitReady (statusPort : UInt16) : ReadsInOrder (awaitReady statusPort) := by
  intro input
  induction input with
  | nil =>
      rw [awaitReady_eq]
      refine (readsInOrder_read statusPort []).bind fun status read => ?_
      cases read
      exact readsInOrder_pure () []
  | cons first input ih =>
      rw [awaitReady_eq]
      refine (readsInOrder_read statusPort (first :: input)).bind fun status read => ?_
      cases read
      show ((if isReady first then pure () else awaitReady statusPort : PortActivity Unit)
        input).ReadsInOrder input
      by_cases ready : isReady first
      · rw [if_pos ready]
        exact readsInOrder_pure () input
      · rw [if_neg ready]
        exact ih

/-- Every read past the given values ends the waiting. -/
theorem length_readValues_awaitReady_le (statusPort : UInt16) (input : List UInt8) :
    (readValues (awaitReady statusPort input).events).length +
      (awaitReady statusPort input).state.length ≤ input.length + 1 := by
  induction input with
  | nil => exact Nat.le_refl 1
  | cons status input ih =>
      rw [awaitReady_cons_apply]
      by_cases ready : isReady status
      · rw [if_pos ready]
        show 1 + input.length ≤ input.length + 1 + 1
        omega
      · -- one more read, and one more value to read
        rw [if_neg ready]
        show (readValues (awaitReady statusPort input).events).length + 1 +
          (awaitReady statusPort input).state.length ≤ input.length + 1 + 1
        omega

/-! ## Sending -/

/-- Whether all registers that sending needs have a port. -/
def InRange (uart : Uart) : Prop :=
  uart.base.toNat + lineStatus.toNat < UInt16.size

/-- An outcome in which the UART's data port took some bytes, and no other port took any. -/
structure Sends (uart : Uart) (bytes : List UInt8) (o : Outcome Fault (List UInt8) Unit) :
    Prop where
  result : o.result = .ok ()
  written : ∀ port, Event.written port o.events = if port = uart.base then bytes else []

section Sending

variable {uart : Uart}

theorem readsInOrder_sendByte (uart : Uart) (byte : UInt8) : ReadsInOrder (uart.sendByte byte) :=
  (readsInOrder_ofExcept _).bind fun _ => (readsInOrder_awaitReady _).bind fun _ =>
    (readsInOrder_ofExcept _).bind fun _ => readsInOrder_write _ _

theorem readsInOrder_sendBytes (uart : Uart) (bytes : List UInt8) :
    ReadsInOrder (uart.sendBytes bytes) := by
  induction bytes with
  | nil => exact readsInOrder_pure ()
  | cons byte bytes ih => exact (readsInOrder_sendByte uart byte).bind fun _ => ih

theorem sendByte_apply (inRange : uart.InRange) (byte : UInt8) (input : List UInt8) :
    uart.sendByte byte input =
      let waited := awaitReady (uart.base + lineStatus) input
      ⟨.ok (), waited.state, waited.events ++ [.out8 uart.base byte]⟩ := by
  have status : Checked.add16 uart.base lineStatus = .ok (uart.base + lineStatus) :=
    if_pos inRange
  have data : Checked.add16 uart.base Uart.data = .ok uart.base := by
    have first : uart.base + Uart.data = uart.base := UInt16.add_zero _
    have fits : uart.base.toNat + Uart.data.toNat < UInt16.size := uart.base.toNat_lt
    rw [Checked.add16, if_pos fits, first]
  unfold sendByte writeRegister
  rw [status, data]
  rfl

/-- The bytes after the first are sent with the values that waiting for the first one left. -/
theorem sendBytes_cons_apply (inRange : uart.InRange) (byte : UInt8) (bytes : List UInt8)
    (input : List UInt8) :
    uart.sendBytes (byte :: bytes) input =
      let waited := awaitReady (uart.base + lineStatus) input
      let later := uart.sendBytes bytes waited.state
      ⟨later.result, later.state, waited.events ++ .out8 uart.base byte :: later.events⟩ := by
  have both : uart.sendBytes (byte :: bytes) input = _ :=
    Activity.bind_of_ok (sendByte_apply inRange byte input)
  rw [both, List.append_assoc]
  rfl

/-- Sending bytes is a transmission of them. -/
theorem transmission_sendBytes (inRange : uart.InRange) (bytes : List UInt8) (input : List UInt8) :
    uart.Transmission bytes (uart.sendBytes bytes input).events := by
  induction bytes generalizing input with
  | nil => exact .done
  | cons byte bytes ih =>
      -- the other bytes are a transmission from whatever values the waiting left
      rw [sendBytes_cons_apply inRange]
      exact .next byte (polling_awaitReady _ input) (ih _)

theorem Transmission.written {bytes : List UInt8} {events : List Event}
    (transmitted : uart.Transmission bytes events) (port : UInt16) :
    Event.written port events = if port = uart.base then bytes else [] := by
  induction transmitted with
  | done => exact (ite_self _).symm
  | next byte polled _ ih =>
      rw [Event.written_append, polled.written_eq_nil, Event.written_out8_cons, ih, List.nil_append]
      split <;> rfl

/-- A transmission does nothing but read the line status and write data. -/
theorem Transmission.eq_of_mem {bytes : List UInt8} {events : List Event}
    (transmitted : uart.Transmission bytes events) {event : Event} (mem : event ∈ events) :
    (∃ status, event = .in8 (uart.base + lineStatus) status) ∨
      ∃ byte, event = .out8 uart.base byte := by
  induction transmitted with
  | done => exact absurd mem List.not_mem_nil
  | next byte polled _ ih =>
      rcases List.mem_append.1 mem with reading | later
      · exact .inl (polled.eq_in8_of_mem reading)
      · rcases List.mem_cons.1 later with rfl | later
        · exact .inr ⟨byte, rfl⟩
        · exact ih later

/-- Every byte arrives, in order, whatever the line status shows. -/
theorem sends_sendBytes (inRange : uart.InRange) (bytes : List UInt8) (input : List UInt8) :
    uart.Sends bytes (uart.sendBytes bytes input) := by
  refine ⟨?_, (transmission_sendBytes inRange bytes input).written⟩
  induction bytes generalizing input with
  | nil => rfl
  | cons byte bytes ih =>
      rw [sendBytes_cons_apply inRange]
      exact ih _

/-- A transmission reads each of the given values at most once, and one more value for each byte. -/
theorem length_readValues_sendBytes_le (inRange : uart.InRange) (bytes : List UInt8)
    (input : List UInt8) :
    (readValues (uart.sendBytes bytes input).events).length ≤ input.length + bytes.length := by
  induction bytes generalizing input with
  | nil => exact Nat.zero_le _
  | cons byte bytes ih =>
      have waited := length_readValues_awaitReady_le (uart.base + lineStatus) input
      have later := ih (awaitReady (uart.base + lineStatus) input).state
      rw [sendBytes_cons_apply inRange]
      dsimp only
      rw [Event.readValues_append, Event.readValues_out8_cons, List.length_append, List.length_cons]
      omega

/-- In a transmission a write comes right after a read that shows an empty transmitter. -/
theorem Transmission.ready_before {bytes : List UInt8} {events before after : List Event}
    {port : UInt16} {byte : UInt8} (transmitted : uart.Transmission bytes events)
    (written : events = before ++ .out8 port byte :: after) :
    ∃ earlier status, before = earlier ++ [.in8 (uart.base + lineStatus) status] ∧
      status.toNat.testBit 5 = true := by
  induction transmitted generalizing before with
  | done => exact absurd written (by simp)
  | @next polling events bytes first polled _ ih =>
      -- the write comes after this polling or would have to be part of it
      rcases List.append_eq_append_iff.1 written with ⟨more, rfl, rest⟩ | ⟨more, rfl, rest⟩
      · cases more with
        | nil =>
            -- it is the write that the polling was for
            rw [List.append_nil]
            exact polled.exists_ready
        | cons event more =>
            rw [List.cons_append, List.cons.injEq] at rest
            obtain ⟨rfl, later⟩ := rest
            obtain ⟨earlier, status, rfl, set⟩ := ih later
            refine ⟨polling ++ .out8 uart.base first :: earlier, status, ?_, set⟩
            rw [List.append_assoc, List.cons_append]
      · cases more with
        | nil =>
            rw [List.append_nil] at polled
            exact polled.exists_ready
        | cons event more =>
            -- it cannot be among the reads of the polling
            rw [List.cons_append, List.cons.injEq] at rest
            obtain ⟨rfl, -⟩ := rest
            obtain ⟨status, read⟩ :=
              polled.eq_in8_of_mem (List.mem_append_right before List.mem_cons_self)
            cases read

end Sending

/-- **Transmission of a text.** Take a base at which the line status has a port, any text, and any
values for the line status to show before it rests. Sending the text comes to its end, and its
events are, for each byte in order, reads of the line status up to the first that shows an empty
transmitter, and then the byte. The values are read in order and none is skipped, each at most once
and one more for each byte. So every write comes right after a read that shows an empty transmitter,
and what is written is the text and goes to the data port, whatever the values are. -/
theorem transmission_of_text {base : UInt16} (within : base ≤ 0xfffa) (text : String)
    (input : List UInt8) :
    let o := send ⟨base⟩ text input
    o.result = .ok () ∧ (base + lineStatus).toNat = base.toNat + 5 ∧
      Transmission ⟨base⟩ (Text.encode text) o.events ∧ o.ReadsInOrder input ∧
      (readValues o.events).length ≤ input.length + (Text.encode text).length ∧
      (∀ before port byte after, o.events = before ++ .out8 port byte :: after →
        ∃ earlier status, before = earlier ++ [.in8 (base + lineStatus) status] ∧
          status.toNat.testBit 5 = true) ∧
      ∀ port, Event.written port o.events = if port = base then Text.encode text else [] := by
  have below : base.toNat ≤ 65530 := UInt16.le_iff_toNat_le.1 within
  have inRange : InRange ⟨base⟩ := by
    show base.toNat + 5 < 65536
    omega
  have transmitted := transmission_sendBytes inRange (Text.encode text) input
  have sent := sends_sendBytes inRange (Text.encode text) input
  refine ⟨sent.result, ?_, transmitted, ?_, ?_, ?_, sent.written⟩
  · rw [UInt16.toNat_add]
    exact Nat.mod_eq_of_lt inRange
  · exact readsInOrder_sendBytes _ _ input
  · exact length_readValues_sendBytes_le inRange _ input
  · intro before port byte after written
    exact transmitted.ready_before written

/-- At the highest base that can send, both bytes of a letter are held up. The second one is sent
when the given values are used up. -/
theorem transmission_at_highest_base :
    (0xfffa : UInt16) ≤ 0xfffa ∧
      (send ⟨0xfffa⟩ "é" [0x00, 0xdf, 0x20, 0x40]).events =
        [.in8 0xffff 0x00, .in8 0xffff 0xdf, .in8 0xffff 0x20, .out8 0xfffa 0xc3,
          .in8 0xffff 0x40, .in8 0xffff 0x60, .out8 0xfffa 0xa9] ∧
      Transmission ⟨0xfffa⟩ (Text.encode "é")
        [.in8 0xffff 0x00, .in8 0xffff 0xdf, .in8 0xffff 0x20, .out8 0xfffa 0xc3,
          .in8 0xffff 0x40, .in8 0xffff 0x60, .out8 0xfffa 0xa9] := by
  have highest : (0xfffa : UInt16) ≤ 0xfffa := by decide
  have events : (send ⟨0xfffa⟩ "é" [0x00, 0xdf, 0x20, 0x40]).events =
      [.in8 0xffff 0x00, .in8 0xffff 0xdf, .in8 0xffff 0x20, .out8 0xfffa 0xc3,
        .in8 0xffff 0x40, .in8 0xffff 0x60, .out8 0xfffa 0xa9] := by
    rfl
  obtain ⟨-, -, transmitted, -⟩ := transmission_of_text highest "é" [0x00, 0xdf, 0x20, 0x40]
  rw [events] at transmitted
  exact ⟨highest, events, transmitted⟩

end Uart

end Bringup
