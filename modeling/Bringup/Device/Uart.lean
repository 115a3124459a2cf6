import Bringup.Encoding
import Bringup.Machine

/-!
# The UART

A 16550 UART has its registers at consecutive ports. `Uart.setUp` programs line, speed and FIFOs
and sends one byte to itself in loopback mode; only if the same byte comes back is there a UART to
use. `Uart.send` writes text byte by byte, each after the line status has shown an empty
transmitter.

The address of a register is a checked sum, so a UART whose base is too high faults at the first
register that lies past the last port.

`UartRegisters` is what such writes do to the device. The first two registers are the divisor of the
clock while the access bit of the line control register is set, and the data and interrupt enable
registers while it is clear. `UartRegisters.replay` gives the registers after a list of events.
-/

namespace Bringup

/-- The UART's clock, divided by sixteen. -/
def uartClock : UInt32 := 115200

/-- The divisor of the clock for a wanted rate, kept within `1` and `65535`. -/
def divisor (baud : UInt32) : UInt16 :=
  if baud = 0 then 0xffff
  else
    let d := uartClock / baud
    if d = 0 then 1 else if d > 0xffff then 0xffff else d.toUInt16

/-- Why a UART is not used: the byte that came back is not the one sent. -/
structure LoopbackError where
  sent : UInt8
  got : UInt8
  deriving DecidableEq

/-- The line that a failed loopback check is reported with. -/
def LoopbackError.message (e : LoopbackError) : String :=
  "Failed to init port (sent " ++ Hex.markedFixed 2 e.sent.toNat ++ ", read "
    ++ Hex.markedFixed 2 e.got.toNat ++ ")"

/-- A UART that has passed its check, at its base port. -/
structure Uart where
  base : UInt16
  deriving DecidableEq

namespace Uart

/-- The distance of the data register from the base. -/
def data : UInt16 := 0

/-- The distance of the register that enables interrupts. -/
def interruptEnable : UInt16 := 1

/-- The distance of the register that controls the FIFOs. -/
def fifoControl : UInt16 := 2

/-- The distance of the register that controls the line. -/
def lineControl : UInt16 := 3

/-- The distance of the register that controls the modem. -/
def modemControl : UInt16 := 4

/-- The distance of the register that shows the state of the line. -/
def lineStatus : UInt16 := 5

/-- Line control: eight data bits, no parity, one stop bit. -/
def eightBits : UInt8 := 0x03

/-- Line control: the first two registers hold the divisor. -/
def divisorAccess : UInt8 := 0x80

/-- FIFO control: both FIFOs enabled and cleared, with a trigger at fourteen bytes. -/
def fifosOn : UInt8 := 0xc7

/-- Modem control: the terminal is ready, sending is requested, both outputs are on. -/
def modemNormal : UInt8 := 0x0f

/-- Modem control: what is sent comes back. -/
def modemLoopback : UInt8 := 0x1e

/-- The byte sent in the loopback check. -/
def checkByte : UInt8 := 0x69

/-- The bit of the line status that shows an empty transmitter. -/
def transmitterEmpty : UInt8 := 0x20

/-- Writes one register of the UART at a base port. -/
def writeRegister (base offset : UInt16) (value : UInt8) : PortActivity Unit := do
  let port ← Activity.ofExcept (Checked.add16 base offset)
  Port.write port value

/-- Reads one register of the UART at a base port. -/
def readRegister (base offset : UInt16) : PortActivity UInt8 := do
  let port ← Activity.ofExcept (Checked.add16 base offset)
  Port.read port

/-- Programs the UART at a base port for a rate, with interrupts off, and checks that it is
there. -/
def setUp (base : UInt16) (baud : UInt32) : PortActivity (Except LoopbackError Uart) := do
  let d := divisor baud
  writeRegister base interruptEnable 0
  writeRegister base lineControl divisorAccess
  writeRegister base data d.toUInt8
  writeRegister base interruptEnable (d >>> 8).toUInt8
  writeRegister base lineControl eightBits
  writeRegister base fifoControl fifosOn
  writeRegister base modemControl modemLoopback
  writeRegister base data checkByte
  let echo ← readRegister base data
  if echo = checkByte then
    writeRegister base modemControl modemNormal
    return .ok ⟨base⟩
  else
    return .error ⟨checkByte, echo⟩

/-- Whether a line status shows an empty transmitter. -/
def isReady (status : UInt8) : Bool :=
  status &&& transmitterEmpty != 0

theorem isReady_restingValue : isReady restingValue = true := by decide

/-- The reads of a status port up to the first that shows an empty transmitter, and the values
left after them. Past the end of the values the first read is that one, since `restingValue` shows
it. -/
def pollReads (statusPort : UInt16) : List UInt8 → List Event × List UInt8
  | [] => ([.in8 statusPort restingValue], [])
  | value :: input =>
      if isReady value then ([.in8 statusPort value], input)
      else
        let (events, rest) := pollReads statusPort input
        (.in8 statusPort value :: events, rest)

/-- Waits for an empty transmitter. -/
def awaitReady (statusPort : UInt16) : PortActivity Unit :=
  fun input =>
    let (events, rest) := pollReads statusPort input
    ⟨.ok (), rest, events⟩

/-- Sends one byte. -/
def sendByte (uart : Uart) (byte : UInt8) : PortActivity Unit := do
  let statusPort ← Activity.ofExcept (Checked.add16 uart.base lineStatus)
  awaitReady statusPort
  writeRegister uart.base data byte

/-- Sends bytes one after the other. -/
def sendBytes (uart : Uart) : List UInt8 → PortActivity Unit
  | [] => pure ()
  | byte :: bytes => do
      uart.sendByte byte
      uart.sendBytes bytes

/-- Sends a text. -/
def send (uart : Uart) (text : String) : PortActivity Unit :=
  uart.sendBytes (Text.encode text)

end Uart

/-! ## The registers of a UART -/

/-- The registers that a UART is programmed through. -/
structure UartRegisters where
  divisorLow : UInt8
  divisorHigh : UInt8
  interruptEnable : UInt8
  fifoControl : UInt8
  lineControl : UInt8
  modemControl : UInt8
  deriving DecidableEq

namespace UartRegisters

/-- Whether the first two registers are the divisor. -/
def divisorAccess (r : UartRegisters) : Bool :=
  r.lineControl &&& Uart.divisorAccess != 0

/-- Whether what is sent comes back. -/
def loopback (r : UartRegisters) : Bool :=
  r.modemControl &&& 0x10 != 0

/-- The divisor of the clock. -/
def divisor (r : UartRegisters) : Nat :=
  r.divisorLow.toNat + 256 * r.divisorHigh.toNat

/-- The registers after a byte was written at a distance from the base. -/
def write (r : UartRegisters) (offset : Nat) (value : UInt8) : UartRegisters :=
  match offset with
  | 0 => if r.divisorAccess then { r with divisorLow := value } else r
  | 1 =>
      if r.divisorAccess then { r with divisorHigh := value }
      else { r with interruptEnable := value }
  | 2 => { r with fifoControl := value }
  | 3 => { r with lineControl := value }
  | 4 => { r with modemControl := value }
  | _ => r

/-- The registers of the UART at a base port after one event. -/
def apply (base : UInt16) (r : UartRegisters) : Event → UartRegisters
  | .out8 port value =>
      if base.toNat ≤ port.toNat then r.write (port.toNat - base.toNat) value else r
  | _ => r

/-- The registers of the UART at a base port after a list of events. -/
def replay (base : UInt16) (r : UartRegisters) (events : List Event) : UartRegisters :=
  events.foldl (apply base) r

end UartRegisters

end Bringup
