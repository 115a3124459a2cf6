import Mathlib.Algebra.Order.Field.Rat
import Mathlib.Algebra.Order.GroupWithZero.Basic
import Mathlib.Data.Nat.Cast.Order.Ring
import Mathlib.Order.Bounds.Basic
import Mathlib.Order.GaloisConnection.Basic
import Bringup.Proofs.UartProgramming

/-!
# The divisor of a rate

A UART runs at its clock divided by a whole number, which it keeps in two registers of a byte each.
For a rate up to the clock, `divisor` gives the greatest number that fits into two bytes and does
not make the UART slower than asked (`isGreatest_divisor`). For a rate past the clock there is no
such number, and it gives the least that a clock can be divided by (`divisor_of_lt`). That it is
never zero and never grows with the rate follows from these two facts (`divisor_pos`,
`divisor_le_divisor`).

Setting up writes the two bytes wherever the line control register has a port
(`Uart.exists_divisorEvents`), and they are what the registers hold in the end, also at the one base
where the port after them is missing (`Uart.replay_setUp_divisor`). At the bases above, it stops
before the registers are opened for a divisor.
-/

namespace Bringup

/-! ## Word arithmetic -/

/-- The quotient of clock and rate, kept between the bounds of a divisor. -/
theorem toNat_divisor {baud : UInt32} (positive : 0 < baud.toNat) :
    (divisor baud).toNat = max 1 (min 0xffff (uartClock.toNat / baud.toNat)) := by
  have nonzero : baud ≠ 0 := by
    rintro rfl
    exact Nat.lt_irrefl 0 positive
  have quotient : (uartClock / baud).toNat = uartClock.toNat / baud.toNat := UInt32.toNat_div _ _
  rw [divisor, if_neg nonzero, ← quotient]
  dsimp only
  -- from here on only the quotient matters: it is zero, too large or kept as it is
  generalize uartClock / baud = d
  split
  · next zero =>
      subst zero
      rfl
  · next nonzero =>
      have some : d.toNat ≠ 0 := fun zero => nonzero (UInt32.toNat_inj.1 zero)
      split
      · next large =>
          have past : 0xffff < d.toNat := UInt32.lt_iff_toNat_lt.1 large
          show 0xffff = max 1 (min 0xffff d.toNat)
          omega
      · next small =>
          have kept : d.toNat ≤ 0xffff :=
            Nat.not_lt.1 fun past => small (UInt32.lt_iff_toNat_lt.2 past)
          rw [UInt32.toNat_toUInt16]
          omega

/-- No clock is divided by zero. -/
theorem divisor_pos (baud : UInt32) : 1 ≤ (divisor baud).toNat := by
  rcases Nat.eq_zero_or_pos baud.toNat with zero | positive
  · obtain rfl : baud = 0 := UInt32.toNat_inj.1 zero
    decide
  · rw [toNat_divisor positive]
    exact Nat.le_max_left _ _

/-! ## The greatest divisor -/

/-- Up to the clock, a rate has the greatest divisor that two bytes can hold among those that reach
it. -/
theorem isGreatest_divisor {baud : UInt32} (within : baud ≤ uartClock) :
    IsGreatest {d | d ≤ 0xffff ∧ d * baud.toNat ≤ uartClock.toNat} (divisor baud).toNat := by
  rcases Nat.eq_zero_or_pos baud.toNat with zero | positive
  · -- every divisor reaches a rate of zero
    obtain rfl : baud = 0 := UInt32.toNat_inj.1 zero
    exact ⟨⟨Nat.le_refl _, Nat.zero_le _⟩, fun _ reaches => reaches.1⟩
  · have quotient : IsGreatest {d | d * baud.toNat ≤ uartClock.toNat}
        (uartClock.toNat / baud.toNat) :=
      (Nat.galoisConnection_mul_div positive).isGreatest_u
    -- a rate up to the clock goes into it at least once, so only the upper bound can take effect
    have some : 1 ≤ uartClock.toNat / baud.toNat :=
      Nat.div_pos (UInt32.le_iff_toNat_le.1 within) positive
    have value : (divisor baud).toNat = min 0xffff (uartClock.toNat / baud.toNat) := by
      rw [toNat_divisor positive]
      omega
    rw [value]
    constructor
    · refine ⟨Nat.min_le_left _ _, ?_⟩
      exact (Nat.mul_le_mul_right _ (Nat.min_le_right _ _)).trans quotient.1
    · rintro d ⟨held, reaches⟩
      exact Nat.le_min.2 ⟨held, quotient.2 reaches⟩

/-- From a rate of two up, no greater divisor reaches the rate whether two bytes can hold it or
not. -/
theorem isGreatest_divisor_of_two_le {baud : UInt32} (two : 2 ≤ baud) (within : baud ≤ uartClock) :
    IsGreatest {d | d * baud.toNat ≤ uartClock.toNat} (divisor baud).toNat := by
  obtain ⟨⟨-, reached⟩, greatest⟩ := isGreatest_divisor within
  refine ⟨reached, fun d reaches => greatest ⟨?_, reaches⟩⟩
  -- half of the clock fits into two bytes
  have half : d * 2 ≤ 115200 :=
    (Nat.mul_le_mul_left d (UInt32.le_iff_toNat_le.1 two)).trans reaches
  omega

theorem divisor_of_lt {baud : UInt32} (past : uartClock < baud) : (divisor baud).toNat = 1 := by
  have larger := UInt32.lt_iff_toNat_lt.1 past
  rw [toNat_divisor (Nat.zero_lt_of_lt larger), Nat.div_eq_of_lt larger]
  rfl

/-- A faster rate has no greater divisor: its divisor reaches the slower rate as well. -/
theorem divisor_le_divisor {slow fast : UInt32} (order : slow ≤ fast) :
    divisor fast ≤ divisor slow := by
  apply UInt16.le_iff_toNat_le.2
  rcases Nat.lt_or_ge uartClock.toNat fast.toNat with past | within
  · -- no divisor reaches such a rate, but none is below the one it has
    rw [divisor_of_lt (UInt32.lt_iff_toNat_lt.2 past)]
    exact divisor_pos slow
  · have order := UInt32.le_iff_toNat_le.1 order
    obtain ⟨⟨held, reached⟩, -⟩ := isGreatest_divisor (UInt32.le_iff_toNat_le.2 within)
    apply (isGreatest_divisor (UInt32.le_iff_toNat_le.2 (order.trans within))).2
    exact ⟨held, (Nat.mul_le_mul_left _ order).trans reached⟩

/-! ## Rates -/

/-- The rate that the clock gives when it is divided. -/
def dividedClock (d : Nat) : ℚ :=
  uartClock.toNat / d

theorem le_dividedClock_iff {d : Nat} (positive : 0 < d) (rate : Nat) :
    (rate : ℚ) ≤ dividedClock d ↔ d * rate ≤ uartClock.toNat := by
  have divides : (0 : ℚ) < d := Nat.cast_pos.2 positive
  rw [dividedClock, le_div_iff₀ divides, Nat.mul_comm, ← Nat.cast_mul, Nat.cast_le]

namespace Uart

/-! ## Writing the bytes of a divisor -/

/-- The bytes of a divisor stand for it. -/
theorem toNat_bytes (d : UInt16) : d.toUInt8.toNat + 256 * (d >>> 8).toUInt8.toNat = d.toNat :=
  littleEndianNat_bytesOf16 d

/-- The events that open the first two registers for a divisor, write its bytes and close them. -/
def divisorEvents (base : UInt16) (low high : UInt8) : List Event :=
  [.out8 (base + lineControl) divisorAccess, .out8 (base + data) low,
    .out8 (base + interruptEnable) high, .out8 (base + lineControl) eightBits]

/-- The highest base whose line control register has a port. -/
def lastLatchBase : UInt16 := 0xfffc

theorem le_lastLatchBase_iff {base : UInt16} :
    base ≤ lastLatchBase ↔ base.toNat + lineControl.toNat < UInt16.size := by
  have bound : UInt16.size = lastLatchBase.toNat + lineControl.toNat + 1 := by decide
  rw [bound, UInt16.le_iff_toNat_le]
  omega

/-- At every such base but the highest, setting up comes to its end. -/
theorem programmable_or_eq_lastLatchBase {base : UInt16} (latched : base ≤ lastLatchBase) :
    Programmable base ∨ base = lastLatchBase := by
  have next : lastLatchBase.toNat = lastBase.toNat + 1 := by decide
  have bound := UInt16.le_iff_toNat_le.1 latched
  rw [programmable_iff, UInt16.le_iff_toNat_le, ← UInt16.toNat_inj]
  omega

/-- At the highest, the divisor is written and the FIFOs are turned on before a port is missing. -/
theorem setUp_lastLatchBase (baud : UInt32) (input : List UInt8) :
    setUp lastLatchBase baud input =
      ⟨.error .addOverflow, input,
        .out8 (lastLatchBase + interruptEnable) 0 ::
          (divisorEvents lastLatchBase (divisor baud).toUInt8 (divisor baud >>> 8).toUInt8 ++
            [.out8 (lastLatchBase + fifoControl) fifosOn])⟩ :=
  rfl

/-- After the write that is to turn interrupts off, setting up writes the divisor of its rate. -/
theorem exists_divisorEvents {base : UInt16} (latched : base ≤ lastLatchBase) (baud : UInt32)
    (input : List UInt8) :
    ∃ rest, (setUp base baud input).events =
      .out8 (base + interruptEnable) 0 ::
        (divisorEvents base (divisor baud).toUInt8 (divisor baud >>> 8).toUInt8 ++ rest) := by
  rcases programmable_or_eq_lastLatchBase latched with fits | rfl
  · rw [setUp_of_programmable fits]
    dsimp only
    split
    · exact ⟨_, rfl⟩
    · exact ⟨_, rfl⟩
  · rw [setUp_lastLatchBase]
    exact ⟨_, rfl⟩

/-- Nothing that setting up writes later reaches the bytes of the divisor. -/
theorem replay_setUp_divisor {base : UInt16} (latched : base ≤ lastLatchBase) (baud : UInt32)
    (input : List UInt8) (r : UartRegisters) :
    let after := r.replay base (setUp base baud input).events
    after.divisorLow = (divisor baud).toUInt8 ∧
      after.divisorHigh = (divisor baud >>> 8).toUInt8 := by
  dsimp only
  rcases programmable_or_eq_lastLatchBase latched with fits | rfl
  · rw [UartRegisters.replay_setUp fits]
    exact ⟨rfl, rfl⟩
  · have written : r.replay lastLatchBase (setUp lastLatchBase baud input).events =
        r.writeAll ((interruptEnable, 0) ::
          (UartRegisters.divisorWrites (divisor baud) ++ [(fifoControl, fifosOn)])) := by
      rw [← UartRegisters.replay_writes (le_lastLatchBase_iff.1 latched), setUp_lastLatchBase]
      · rfl
      · show ∀ offset ∈ [1, 3, 0, 1, 3, 2], offset ≤ 3
        decide
    rw [written, UartRegisters.writeAll_cons, UartRegisters.writeAll_append,
      UartRegisters.writeAll_divisorWrites]
    exact ⟨rfl, rfl⟩

/-- Above, setting up stops at line control at the latest. -/
theorem setUp_of_lastLatchBase_lt {base : UInt16} (past : lastLatchBase < base) (baud : UInt32)
    (input : List UInt8) :
    setUp base baud input =
      ⟨.error .addOverflow, input,
        if base.toNat + interruptEnable.toNat < UInt16.size then [.out8 (base + interruptEnable) 0]
        else []⟩ := by
  have misfit : ¬ base.toNat + lineControl.toNat < UInt16.size := by
    rw [← le_lastLatchBase_iff, UInt16.not_le]
    exact past
  rw [setUp]
  split
  · next first =>
      rw [Activity.bind_of_ok (writeRegister_of_lt first 0 input),
        Activity.bind_of_error (writeRegister_of_not_lt misfit divisorAccess input)]
      rfl
  · next first => rw [Activity.bind_of_error (writeRegister_of_not_lt first 0 input)]

/-- So it finds the first two registers open for a divisor or closed, and leaves them so. -/
theorem lineControl_replay_setUp {base : UInt16} (past : lastLatchBase < base) (baud : UInt32)
    (input : List UInt8) (r : UartRegisters) :
    (r.replay base (setUp base baud input).events).lineControl = r.lineControl := by
  rw [setUp_of_lastLatchBase_lt past]
  dsimp only
  split
  · next first =>
      -- where the write goes depends on the access bit, but line control is neither place
      show (r.apply base (.out8 (base + interruptEnable) 0)).lineControl = r.lineControl
      rw [UartRegisters.apply_register first]
      exact (apply_ite UartRegisters.lineControl _ _ _).trans (ite_self _)
  · rfl

/-! ## The divisor of every rate -/

/-- **The divisor of every rate.** It is never zero, two bytes can hold it, and faster rates have no
greater one. From a rate of two up to the clock it is the greatest that reaches the rate, so the
UART is never slower than asked, and with any greater divisor it would be. Setting up writes its two
bytes to the divisor latch, where they stay whatever was there and however the loopback check ends,
at all bases whose line control register has a port; at the others it stops before the latch is
opened. -/
theorem divisor_of_every_rate :
    (∀ baud, 1 ≤ (divisor baud).toNat ∧ (divisor baud).toNat ≤ 65535) ∧
    (∀ slow fast, slow ≤ fast → divisor fast ≤ divisor slow) ∧
    (∀ baud : UInt32, 2 ≤ baud → baud ≤ 115200 →
      IsGreatest {d | d * baud.toNat ≤ 115200} (divisor baud).toNat ∧
      (baud.toNat : ℚ) ≤ dividedClock (divisor baud).toNat ∧
      ∀ d, (divisor baud).toNat < d → dividedClock d < baud.toNat) ∧
    ∀ base baud input,
      (base ≤ lastLatchBase → ∃ low high,
        divisorEvents base low high <:+: (setUp base baud input).events ∧
        low.toNat + 256 * high.toNat = (divisor baud).toNat ∧
        ∀ r : UartRegisters,
          (r.replay base (setUp base baud input).events).divisorLow = low ∧
          (r.replay base (setUp base baud input).events).divisorHigh = high) ∧
      (lastLatchBase < base →
        (setUp base baud input).result = .error .addOverflow ∧
        ∀ r : UartRegisters,
          (r.replay base (setUp base baud input).events).lineControl = r.lineControl) := by
  refine ⟨?_, fun slow fast => divisor_le_divisor, ?_, ?_⟩
  · intro baud
    exact ⟨divisor_pos baud, Nat.le_of_lt_succ (divisor baud).toNat_lt⟩
  · intro baud two within
    have greatest := isGreatest_divisor_of_two_le two within
    refine ⟨greatest, (le_dividedClock_iff (divisor_pos baud) _).2 greatest.1, ?_⟩
    intro d greater
    apply lt_of_not_ge
    intro reaches
    have positive : 0 < d := Nat.zero_lt_of_lt greater
    exact Nat.not_le_of_lt greater (greatest.2 ((le_dividedClock_iff positive _).1 reaches))
  · intro base baud input
    constructor
    · intro latched
      obtain ⟨rest, wrote⟩ := exists_divisorEvents latched baud input
      refine ⟨_, _, ?_, toNat_bytes (divisor baud), replay_setUp_divisor latched baud input⟩
      rw [wrote]
      exact ⟨[.out8 (base + interruptEnable) 0], rest, rfl⟩
    · intro past
      refine ⟨?_, lineControl_replay_setUp past baud input⟩
      rw [setUp_of_lastLatchBase_lt past]

/-- The rate of a teletype, which the clock cannot be divided into exactly: one divisor more and it
would be too slow. Both bytes of the divisor are in use, and the highest base that has a latch gets
them. -/
theorem divisor_of_teletype :
    divisor 110 ≤ divisor 0 ∧
    IsGreatest {d | d * 110 ≤ 115200} 1047 ∧
    (110 : ℚ) ≤ dividedClock 1047 ∧ dividedClock 1048 < 110 ∧
    (∃ low high, divisorEvents 0xfffc low high <:+: (setUp 0xfffc 110 []).events ∧
      low.toNat + 256 * high.toNat = 1047) ∧
    (setUp 0xfffd 110 []).result = .error .addOverflow := by
  obtain ⟨-, order, greatest, latch⟩ := divisor_of_every_rate
  obtain ⟨most, fast, slower⟩ := greatest 110 (by decide) (by decide)
  obtain ⟨low, high, wrote, bytes, -⟩ := (latch 0xfffc 110 []).1 (by decide)
  refine ⟨order 0 110 (by decide), most, ?_, ?_, ⟨low, high, wrote, bytes⟩, ?_⟩
  · exact fast
  · exact slower 1048 (by decide)
  · exact ((latch 0xfffd 110 []).2 (by decide)).1

end Uart

end Bringup
