import Bringup.Log
import Bringup.Memory.FrameAllocator
import Bringup.Memory.Region

/-!
# What a setup of the frame allocator leaves behind

A setup ends with an allocator or with the reason why there is none (`SetupError`). On the way it
writes one debug line for every usable region it surveys and one for the finished bitmap
(`SetupNotice`), asks for memory, and changes the regions. `Setup` has all of this and `Setup.log`
the text of the lines in order.
-/

namespace Bringup

/-- Why no allocator could be built. -/
inductive SetupError where
  | fault (cause : Fault)
  | missingMemoryMap
  | noUsableMemory
  | noRoomForBitmap (needed : UInt64)
  deriving DecidableEq

/-- The line that a failed setup is reported with. -/
def SetupError.message : SetupError → String
  | .fault cause => cause.message
  | .missingMemoryMap => "NULL Memory map passed to PMM init"
  | .noUsableMemory => "Memory map has no usable region"
  | .noRoomForBitmap needed =>
      "No usable region can hold the " ++ Hex.marked needed.toNat ++ " byte PMM bitmap"

/-- What the setup writes to the log. -/
inductive SetupNotice where
  | usableEntry (base : UInt64)
  | bitmapPlaced (base frames size : UInt64)
  deriving DecidableEq

/-- The text of a log entry. -/
def SetupNotice.message : SetupNotice → String
  | .usableEntry base => "Usable entry at " ++ Hex.word base
  | .bitmapPlaced base frames size =>
      "PMM bitmap at " ++ Hex.marked base.toNat ++ ": " ++ Nat.repr frames.toNat ++ " frames in "
        ++ Hex.marked size.toNat ++ " bytes"

/-- All that a setup leaves behind. -/
structure Setup where
  notices : List SetupNotice
  mapped : Option (UInt64 × UInt64)
  regions : Option (List Region)
  outcome : Except SetupError FrameAllocator

/-- The head of the setup's log lines. -/
def setupRecord : Log.Record :=
  ⟨.debug, ⟨"src/pmm.rs", 0⟩⟩

/-- The log line of a notice. -/
def SetupNotice.render (n : SetupNotice) : String :=
  setupRecord.render n.message

/-- Everything that a setup wrote to the log. -/
def Setup.log (s : Setup) : String :=
  String.join (s.notices.map SetupNotice.render)

end Bringup
