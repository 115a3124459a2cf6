import Bringup.Descriptor
import Bringup.Device.Uart
import Bringup.Identity
import Bringup.Kernel.Step
import Bringup.Memory.FrameAllocator.Notice
import Bringup.Memory.FrameAllocator
import Bringup.Proofs.Allocator
import Bringup.Proofs.Bitmap.ClearSlots
import Bringup.Proofs.Bitmap.FirstFit
import Bringup.Proofs.Rounding
import Bringup.Proofs.Regions
import Bringup.Proofs.Setup
import Bringup.Proofs.FreshAllocator
import Bringup.Proofs.Ownership
import Bringup.Proofs.Lending
import Bringup.Proofs.LentPages
import Bringup.Proofs.Verdict
import Bringup.Proofs.TrapStack
import Bringup.Proofs.Transmission
import Bringup.Proofs.Output
import Bringup.Proofs.Painting
import Bringup.Proofs.PanicReport
import Bringup.Proofs.PanicOnce
import Bringup.Proofs.Runs
import Bringup.Proofs.ReportText
import Bringup.Proofs.Bitmap.Writes
import Bringup.Proofs.Sinks
import Bringup.Proofs.ScreenFormat
import Bringup.Proofs.GuardedCalls
import Bringup.Proofs.Conservation
import Bringup.Proofs.GateTable
import Bringup.Proofs.FillWrites
import Bringup.Proofs.UartReach
import Bringup.Proofs.TestInterrupts
import Bringup.Proofs.LastVector
import Bringup.Proofs.Unmasking
import Bringup.Proofs.ScreenHistory
import Bringup.Proofs.FreeWalks
import Bringup.Proofs.Carving
import Bringup.Proofs.PixelBits
import Bringup.Proofs.Repainting
import Bringup.Proofs.HandoffChecks
import Bringup.Proofs.SegmentFields
import Bringup.Proofs.UartProgramming
import Bringup.Proofs.RoundingLaws
import Bringup.Proofs.ClockDivisor
