import Bringup.Proofs.Output

/-!
# The reach of a UART

A UART is set up through its registers up to modem control and sends through one more, the line
status. Setting up answers at every base whose registers up to modem control have ports
(`Uart.setUp_of_programmable`) and faults at every other (`Uart.setUp_of_not_programmable`). It
never touches the line status, so the base at which only that register is missing passes the check,
and the first byte sent there faults. At every other base that passes, all bytes arrive
(`Uart.sending_after_setUp`).
-/

namespace Bringup

namespace Uart

/-- Whether all registers that setting up needs have a port. -/
def Programmable (base : UInt16) : Prop :=
  base.toNat + modemControl.toNat < UInt16.size

/-- The highest base that a UART can be set up at. -/
def lastBase : UInt16 := 0xfffb

theorem programmable_iff {base : UInt16} : Programmable base ↔ base ≤ lastBase := by
  have bound : UInt16.size = lastBase.toNat + modemControl.toNat + 1 := by decide
  rw [Programmable, bound, UInt16.le_iff_toNat_le]
  omega

/-- The registers for sending have ports below the highest base, and not there. -/
theorem inRange_iff_of_programmable {base : UInt16} (fits : Programmable base) :
    InRange ⟨base⟩ ↔ base ≠ lastBase := by
  have bound : UInt16.size = lastBase.toNat + lineStatus.toNat := by decide
  have highest := UInt16.le_iff_toNat_le.1 (programmable_iff.1 fits)
  show base.toNat + lineStatus.toNat < UInt16.size ↔ base ≠ lastBase
  rw [bound, ne_eq, ← UInt16.toNat_inj]
  omega

/-! ## Registers -/

section Registers

variable {base offset : UInt16} (fits : base.toNat + offset.toNat < UInt16.size)

include fits

theorem writeRegister_of_lt (value : UInt8) (input : List UInt8) :
    writeRegister base offset value input = ⟨.ok (), input, [.out8 (base + offset) value]⟩ := by
  have port : Checked.add16 base offset = .ok (base + offset) := if_pos fits
  rw [writeRegister, port]
  rfl

theorem readRegister_of_lt (input : List UInt8) :
    readRegister base offset input =
      ⟨.ok (input.headD restingValue), input.tail,
        [.in8 (base + offset) (input.headD restingValue)]⟩ := by
  have port : Checked.add16 base offset = .ok (base + offset) := if_pos fits
  rw [readRegister, port]
  rfl

end Registers

theorem writeRegister_of_not_lt {base offset : UInt16}
    (misfit : ¬ base.toNat + offset.toNat < UInt16.size) (value : UInt8) (input : List UInt8) :
    writeRegister base offset value input = ⟨.error .addOverflow, input, []⟩ := by
  have port : Checked.add16 base offset = .error .addOverflow := if_neg misfit
  rw [writeRegister, port]
  rfl

/-! ## Setting up -/

/-- What setting up writes before it reads the byte of the loopback check back. -/
def setUpEvents (base : UInt16) (baud : UInt32) : List Event :=
  [.out8 (base + interruptEnable) 0, .out8 (base + lineControl) divisorAccess,
    .out8 (base + data) (divisor baud).toUInt8,
    .out8 (base + interruptEnable) (divisor baud >>> 8).toUInt8,
    .out8 (base + lineControl) eightBits, .out8 (base + fifoControl) fifosOn,
    .out8 (base + modemControl) modemLoopback, .out8 (base + data) checkByte]

/-- With ports for its registers setting up comes to its end, and the byte that comes back decides
how: the first value read, since nothing else is. -/
theorem setUp_of_programmable {base : UInt16} (fits : Programmable base) (baud : UInt32)
    (input : List UInt8) :
    setUp base baud input =
      let echo := input.headD restingValue
      let events := setUpEvents base baud ++ [.in8 (base + data) echo]
      if echo = checkByte then
        ⟨.ok (.ok ⟨base⟩), input.tail, events ++ [.out8 (base + modemControl) modemNormal]⟩
      else ⟨.ok (.error ⟨checkByte, echo⟩), input.tail, events⟩ := by
  -- no register that is asked for lies past modem control
  have written : ∀ offset : UInt16, offset.toNat ≤ modemControl.toNat → ∀ value input,
      writeRegister base offset value input = ⟨.ok (), input, [.out8 (base + offset) value]⟩ := by
    intro offset within
    apply writeRegister_of_lt
    exact Nat.lt_of_le_of_lt (Nat.add_le_add_left within _) fits
  have read : readRegister base data input = _ :=
    readRegister_of_lt (Nat.lt_of_le_of_lt (Nat.add_le_add_left (by decide) _) fits) input
  unfold setUp
  dsimp only
  simp only [Activity.bind_of_ok (written interruptEnable (by decide) _ _),
    Activity.bind_of_ok (written lineControl (by decide) _ _),
    Activity.bind_of_ok (written data (by decide) _ _),
    Activity.bind_of_ok (written fifoControl (by decide) _ _),
    Activity.bind_of_ok (written modemControl (by decide) _ _), Activity.bind_of_ok read]
  split
  · simp only [Activity.bind_of_ok (written modemControl (by decide) _ _)]
    rfl
  · rfl

/-- COM1 at its full rate, with the byte of the check coming back. -/
example : (setUp 0x3f8 115200 [0x69]).events =
    [.out8 0x3f9 0, .out8 0x3fb 0x80, .out8 0x3f8 1, .out8 0x3f9 0, .out8 0x3fb 0x03,
      .out8 0x3fa 0xc7, .out8 0x3fc 0x1e, .out8 0x3f8 0x69, .in8 0x3f8 0x69,
      .out8 0x3fc 0x0f] := by
  decide

/-- Without them it faults at the first register that has none. -/
theorem setUp_of_not_programmable {base : UInt16} (misfit : ¬ Programmable base) (baud : UInt32)
    (input : List UInt8) : (setUp base baud input).result = .error .addOverflow := by
  have past : ¬ base.toNat + 4 < 65536 := misfit
  have word := base.toNat_lt
  -- only the last four ports are left, and at each of them another register is the first to fail
  have last : base.toNat = 0xfffc ∨ base.toNat = 0xfffd ∨ base.toNat = 0xfffe ∨
      base.toNat = 0xffff := by
    omega
  rcases last with h | h | h | h
  · obtain rfl : base = 0xfffc := UInt16.toNat_inj.1 h
    rfl
  · obtain rfl : base = 0xfffd := UInt16.toNat_inj.1 h
    rfl
  · obtain rfl : base = 0xfffe := UInt16.toNat_inj.1 h
    rfl
  · obtain rfl : base = 0xffff := UInt16.toNat_inj.1 h
    rfl

/-- There is a UART to use if its registers have ports and the byte came back. -/
theorem setUp_eq_ok_iff {base : UInt16} {baud : UInt32} {input : List UInt8} {uart : Uart} :
    (setUp base baud input).result = .ok (.ok uart) ↔
      uart = ⟨base⟩ ∧ Programmable base ∧ input.headD restingValue = checkByte := by
  by_cases fits : Programmable base
  · rw [setUp_of_programmable fits]
    dsimp only
    by_cases heard : input.headD restingValue = checkByte
    · rw [if_pos heard]
      simp only [Except.ok.injEq, heard, fits, and_true, eq_comm]
    · rw [if_neg heard]
      simp only [Except.ok.injEq, reduceCtorEq, heard, and_false]
  · rw [setUp_of_not_programmable fits]
    simp [fits]

/-! ## Sending -/

/-- Without a port for the line status the first byte faults before anything is read or written. -/
theorem sendBytes_of_not_inRange {uart : Uart} (misfit : ¬ uart.InRange) (byte : UInt8)
    (bytes : List UInt8) (input : List UInt8) :
    uart.sendBytes (byte :: bytes) input = ⟨.error .addOverflow, input, []⟩ := by
  have status : Checked.add16 uart.base lineStatus = .error .addOverflow := if_neg misfit
  have first : uart.sendByte byte input = ⟨.error .addOverflow, input, []⟩ := by
    rw [sendByte, status]
    rfl
  exact Activity.bind_of_error first

/-- **What a UART that passed its check is good for.** Whatever the rate is and whatever is read,
setting up ends with a UART to use exactly if the byte sent in the loopback check comes back and the
base is not above the highest one, and it is the UART at that base. Bytes sent through it, or a
text, which is sent as its bytes, come to their end and arrive one by one and in order, whatever the
line status shows, unless the base is the highest one. There the address of the line status does not
fit, and sending anything at all faults without an event. -/
theorem sending_after_setUp (base : UInt16) (baud : UInt32) (input : List UInt8) (uart : Uart) :
    ((setUp base baud input).result = .ok (.ok uart) ↔
        uart = ⟨base⟩ ∧ base ≤ lastBase ∧ input.headD restingValue = checkByte) ∧
      ((setUp base baud input).result = .ok (.ok uart) → ∀ bytes later,
        (base ≠ lastBase → uart.Sends bytes (uart.sendBytes bytes later)) ∧
        (base = lastBase → bytes ≠ [] →
          uart.sendBytes bytes later = ⟨.error .addOverflow, later, []⟩)) := by
  rw [setUp_eq_ok_iff, programmable_iff]
  refine ⟨Iff.rfl, ?_⟩
  rintro ⟨rfl, below, -⟩ bytes later
  have fits := programmable_iff.2 below
  constructor
  · intro notLast
    exact sends_sendBytes ((inRange_iff_of_programmable fits).2 notLast) bytes later
  · intro last some
    have misfit : ¬ InRange ⟨base⟩ := fun inRange =>
      (inRange_iff_of_programmable fits).1 inRange last
    cases bytes with
    | nil => exact absurd rfl some
    | cons byte bytes => exact sendBytes_of_not_inRange misfit byte bytes later

/-- At the highest base the check is passed and a letter cannot be sent; one port lower it can. -/
theorem check_of_last_base :
    (setUp 0xfffb 115200 [0x69]).result = .ok (.ok ⟨0xfffb⟩) ∧
      sendBytes ⟨0xfffb⟩ [0x41] [0x20] = ⟨.error .addOverflow, [0x20], []⟩ ∧
      (setUp 0xfffa 115200 [0x69]).result = .ok (.ok ⟨0xfffa⟩) ∧
      Sends ⟨0xfffa⟩ [0x41] (sendBytes ⟨0xfffa⟩ [0x41] [0x20]) := by
  have high := sending_after_setUp 0xfffb 115200 [0x69] ⟨0xfffb⟩
  have low := sending_after_setUp 0xfffa 115200 [0x69] ⟨0xfffa⟩
  have highReady := high.1.2 ⟨rfl, by decide, rfl⟩
  have lowReady := low.1.2 ⟨rfl, by decide, rfl⟩
  refine ⟨highReady, ?_, lowReady, ?_⟩
  · exact (high.2 highReady [0x41] [0x20]).2 rfl (by decide)
  · exact (low.2 lowReady [0x41] [0x20]).1 (by decide)

end Uart

end Bringup
