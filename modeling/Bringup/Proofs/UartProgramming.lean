import Bringup.Device.Uart
import Bringup.Proofs.UartReach
import Bringup.Proofs.WordBytes

/-!
# The registers of a UART that was set up

What the first two registers of a UART are depends on the access bit of the line control register,
and that bit may be set when setting up begins. The writes that set the divisor set the bit
themselves and clear it again, so they do the same from all registers
(`UartRegisters.writeAll_divisorWrites`). The write before them, which is to turn interrupts off,
finds the bit as it was left: if it is set, the write goes to the divisor and interrupts stay as
they were (`UartRegisters.replay_setUp`, `Uart.registers_after_setUp`).
-/

namespace Bringup

open Uart (Programmable)

namespace UartRegisters

/-! ## Writes -/

theorem replay_append (base : UInt16) (r : UartRegisters) (first second : List Event) :
    r.replay base (first ++ second) = (r.replay base first).replay base second :=
  List.foldl_append

/-- A write to the port of a register reaches that register, if it has a port. -/
theorem apply_register {base offset : UInt16} (fits : base.toNat + offset.toNat < UInt16.size)
    (r : UartRegisters) (value : UInt8) :
    r.apply base (.out8 (base + offset) value) = r.write offset.toNat value := by
  have port : (base + offset).toNat = base.toNat + offset.toNat := by
    rw [UInt16.toNat_add]
    exact Nat.mod_eq_of_lt fits
  show (if base.toNat ≤ (base + offset).toNat then
    r.write ((base + offset).toNat - base.toNat) value else r) = _
  rw [port, if_pos (Nat.le_add_right _ _), Nat.add_sub_cancel_left]

/-- The registers after values were written to registers, one after the other. -/
def writeAll (r : UartRegisters) (writes : List (UInt16 × UInt8)) : UartRegisters :=
  writes.foldl (fun r w => r.write w.1.toNat w.2) r

theorem writeAll_cons (r : UartRegisters) (offset : UInt16) (value : UInt8)
    (writes : List (UInt16 × UInt8)) :
    r.writeAll ((offset, value) :: writes) = (r.write offset.toNat value).writeAll writes := rfl

theorem writeAll_append (r : UartRegisters) (first second : List (UInt16 × UInt8)) :
    r.writeAll (first ++ second) = (r.writeAll first).writeAll second :=
  List.foldl_append

/-- Writes to registers up to one that has a port, as events at the ports of the registers. -/
theorem replay_writes {base : UInt16} {last : Nat} (fits : base.toNat + last < UInt16.size)
    {writes : List (UInt16 × UInt8)}
    (within : ∀ offset ∈ writes.map (UInt16.toNat ∘ Prod.fst), offset ≤ last)
    (r : UartRegisters) :
    r.replay base (writes.map fun w => .out8 (base + w.1) w.2) = r.writeAll writes := by
  induction writes generalizing r with
  | nil => rfl
  | cons w writes ih =>
      have inside : base.toNat + w.1.toNat < UInt16.size :=
        Nat.lt_of_le_of_lt (Nat.add_le_add_left (within _ List.mem_cons_self) _) fits
      show (r.apply base (.out8 (base + w.1) w.2)).replay base _ =
        (r.write w.1.toNat w.2).writeAll writes
      rw [apply_register inside]
      exact ih (fun other later => within other (List.mem_cons_of_mem _ later)) _

/-! ## The access bit -/

theorem write_data_of_set {r : UartRegisters} (set : r.divisorAccess = true) (value : UInt8) :
    r.write 0 value = { r with divisorLow := value } :=
  if_pos set

theorem write_data_of_clear {r : UartRegisters} (clear : r.divisorAccess = false) (value : UInt8) :
    r.write 0 value = r :=
  if_neg (Bool.eq_false_iff.1 clear)

theorem write_interruptEnable_of_set {r : UartRegisters} (set : r.divisorAccess = true)
    (value : UInt8) : r.write 1 value = { r with divisorHigh := value } :=
  if_pos set

theorem divisorAccess_of_eightBits {r : UartRegisters} (line : r.lineControl = Uart.eightBits) :
    r.divisorAccess = false := by
  rw [divisorAccess, line]
  decide

theorem loopback_of_modemNormal {r : UartRegisters} (modem : r.modemControl = Uart.modemNormal) :
    r.loopback = false := by
  rw [loopback, modem]
  decide

/-! ## Setting up -/

/-- The writes that set a divisor and leave the line with eight data bits. -/
def divisorWrites (d : UInt16) : List (UInt16 × UInt8) :=
  [(Uart.lineControl, Uart.divisorAccess), (Uart.data, d.toUInt8),
    (Uart.interruptEnable, (d >>> 8).toUInt8), (Uart.lineControl, Uart.eightBits)]

/-- They set the access bit before they need it, so they do the same whether they find it set or
clear, and turn no interrupt on or off. -/
theorem writeAll_divisorWrites (r : UartRegisters) (d : UInt16) :
    r.writeAll (divisorWrites d) =
      { r with
        divisorLow := d.toUInt8
        divisorHigh := (d >>> 8).toUInt8
        lineControl := Uart.eightBits } := by
  -- the bit is set by the first write and stays set until the last
  let opened : UartRegisters := { r with lineControl := Uart.divisorAccess }
  have set : ∀ low, ({ opened with divisorLow := low } : UartRegisters).divisorAccess = true := by
    intro low
    show (Uart.divisorAccess &&& Uart.divisorAccess != 0) = true
    decide
  show ((opened.write 0 d.toUInt8).write 1 (d >>> 8).toUInt8).write 3 Uart.eightBits = _
  rw [write_data_of_set (set r.divisorLow), write_interruptEnable_of_set (set d.toUInt8)]
  rfl

/-- The writes that turn FIFOs on and send the byte of the loopback check. -/
def checkWrites : List (UInt16 × UInt8) :=
  [(Uart.fifoControl, Uart.fifosOn), (Uart.modemControl, Uart.modemLoopback),
    (Uart.data, Uart.checkByte)]

/-- With the access bit clear, the byte is sent and does not become a part of the divisor. -/
theorem writeAll_checkWrites {r : UartRegisters} (clear : r.divisorAccess = false) :
    r.writeAll checkWrites =
      { r with fifoControl := Uart.fifosOn, modemControl := Uart.modemLoopback } := by
  let controlled : UartRegisters :=
    { r with fifoControl := Uart.fifosOn, modemControl := Uart.modemLoopback }
  have stillClear : controlled.divisorAccess = false := clear
  exact write_data_of_clear stillClear Uart.checkByte

/-- What setting up leaves in the registers for a divisor, with a value of modem control. -/
def programmed (r : UartRegisters) (d : UInt16) (modem : UInt8) : UartRegisters where
  divisorLow := d.toUInt8
  divisorHigh := (d >>> 8).toUInt8
  interruptEnable := if r.divisorAccess then r.interruptEnable else 0
  fifoControl := Uart.fifosOn
  lineControl := Uart.eightBits
  modemControl := modem

theorem divisor_programmed (r : UartRegisters) (d : UInt16) (modem : UInt8) :
    (r.programmed d modem).divisor = d.toNat :=
  littleEndianNat_bytesOf16 d

/-- All writes up to the loopback check, first the one that is to turn interrupts off. It does so
with the access bit clear; with the bit set it goes to the divisor, which is written again later. -/
theorem writeAll_setUp (r : UartRegisters) (d : UInt16) :
    r.writeAll ((Uart.interruptEnable, 0) :: (divisorWrites d ++ checkWrites)) =
      r.programmed d Uart.modemLoopback := by
  -- the only write that can reach interrupt enable comes first, with the bit as it was found
  have off : (r.write 1 0).interruptEnable = if r.divisorAccess then r.interruptEnable else 0 :=
    apply_ite interruptEnable _ _ _
  rw [writeAll_cons, writeAll_append, writeAll_divisorWrites, writeAll_checkWrites]
  · exact congrArg (fun enable => UartRegisters.mk _ _ enable _ _ _) off
  · exact divisorAccess_of_eightBits rfl

/-- The registers when the byte of the loopback check is read back. -/
theorem replay_setUpEvents {base : UInt16} (fits : Programmable base) (baud : UInt32)
    (r : UartRegisters) :
    r.replay base (Uart.setUpEvents base baud) =
      r.programmed (Bringup.divisor baud) Uart.modemLoopback := by
  rw [← writeAll_setUp, ← replay_writes fits]
  · rfl
  · show ∀ offset ∈ [1, 3, 0, 1, 3, 2, 4, 0], offset ≤ 4
    decide

/-- Reading the byte back changes no register, and modem control tells how the check ended: where it
failed, the UART is left talking to itself. -/
theorem replay_setUp {base : UInt16} (fits : Programmable base) (baud : UInt32) (input : List UInt8)
    (r : UartRegisters) :
    r.replay base (Uart.setUp base baud input).events =
      r.programmed (Bringup.divisor baud)
        (if input.headD restingValue = Uart.checkByte then Uart.modemNormal
          else Uart.modemLoopback) := by
  have reached : base.toNat + Uart.modemControl.toNat < UInt16.size := fits
  have checked : ∀ echo,
      r.replay base (Uart.setUpEvents base baud ++ [.in8 (base + Uart.data) echo]) =
        r.programmed (Bringup.divisor baud) Uart.modemLoopback := by
    intro echo
    rw [replay_append, replay_setUpEvents fits]
    rfl
  rw [Uart.setUp_of_programmable fits]
  dsimp only
  by_cases heard : input.headD restingValue = Uart.checkByte
  · rw [if_pos heard, if_pos heard, replay_append, checked]
    exact apply_register reached _ Uart.modemNormal
  · rw [if_neg heard, if_neg heard, checked]

end UartRegisters

namespace Uart

/-- **What setting up leaves in the registers.** Whatever was in them, a UART that passed its check
has the divisor of its rate, a line of eight data bits with the access bit clear, its FIFOs on and
nothing coming back. Interrupts are off if the access bit was clear when setting up began. If it was
set, the write that is to turn them off reaches the divisor, and they stay as they were. -/
theorem registers_after_setUp {base : UInt16} {baud : UInt32} {input : List UInt8} {uart : Uart}
    (ready : (setUp base baud input).result = .ok (.ok uart)) (r : UartRegisters) :
    let after := r.replay base (setUp base baud input).events
    after.divisor = (divisor baud).toNat ∧
      after.lineControl = 0x03 ∧ after.divisorAccess = false ∧
      after.fifoControl = 0xc7 ∧
      after.modemControl = 0x0f ∧ after.loopback = false ∧
      after.interruptEnable = (if r.divisorAccess then r.interruptEnable else 0) ∧
      (after.interruptEnable = 0 ↔ r.divisorAccess = false ∨ r.interruptEnable = 0) := by
  obtain ⟨-, fits, heard⟩ := setUp_eq_ok_iff.1 ready
  intro after
  have left : after = r.programmed (divisor baud) modemNormal := by
    have replayed := UartRegisters.replay_setUp fits baud input r
    rwa [if_pos heard] at replayed
  rw [left]
  refine ⟨r.divisor_programmed _ _, rfl, UartRegisters.divisorAccess_of_eightBits rfl, rfl, rfl,
    UartRegisters.loopback_of_modemNormal rfl, rfl, ?_⟩
  show (if r.divisorAccess then r.interruptEnable else 0) = 0 ↔ _
  cases r.divisorAccess with
  | false => exact iff_of_true rfl (.inl rfl)
  | true => exact ⟨.inr, fun off => off.resolve_left Bool.noConfusion⟩

/-- Registers as they may be found: the access bit set, and all interrupts on. -/
def found : UartRegisters where
  divisorLow := 0x0c
  divisorHigh := 0
  interruptEnable := 0x0f
  fifoControl := 0
  lineControl := 0x83
  modemControl := 0

/-- Setting up then passes its check and leaves all interrupts on. -/
theorem interrupts_on_after_setUp :
    (setUp 0x3f8 115200 [0x69]).result = .ok (.ok ⟨0x3f8⟩) ∧
      (found.replay 0x3f8 (setUp 0x3f8 115200 [0x69]).events).divisor = 1 ∧
      (found.replay 0x3f8 (setUp 0x3f8 115200 [0x69]).events).interruptEnable = 0x0f := by
  have ready : (setUp 0x3f8 115200 [0x69]).result = .ok (.ok ⟨0x3f8⟩) :=
    setUp_eq_ok_iff.2 ⟨rfl, programmable_iff.2 (by decide), rfl⟩
  obtain ⟨divisor, -, -, -, -, -, enabled, -⟩ := registers_after_setUp ready found
  exact ⟨ready, divisor, enabled⟩

end Uart

end Bringup
