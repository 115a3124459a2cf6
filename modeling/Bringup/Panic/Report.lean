import Bringup.Encoding
import Bringup.Identity
import Bringup.Trap.Frame

/-!
# Panic reports

A report shows a trap frame and why and where the kernel gave up. `Report.full` is the panic
screen, sent line by line (`Report.pieces`): a banner, the reason, the place, a dump of all thirty
words of the frame, and for a page fault what its error code says. `Report.brief` is the one-line
form. Which of the two a panic shows was fixed when the kernel was built (`Report.shown`).

The processor tells in an error code what kind of access a page fault came from. Five bits are
known; the others are dropped before anything is shown (`PageFault`).
-/

namespace Bringup

/-! ## Page fault codes -/

/-- The error code of a page fault, reduced to its known bits. -/
structure PageFault where
  bits : UInt64
  deriving DecidableEq

namespace PageFault

/-- The page was there, but not for this access. -/
def protection : UInt64 := 1

/-- The access was a write. -/
def write : UInt64 := 2

/-- The access came from a user program. -/
def user : UInt64 := 4

/-- A reserved bit was set in a page table. -/
def reserved : UInt64 := 8

/-- The access fetched an instruction. -/
def fetch : UInt64 := 16

/-- All known bits. -/
def known : UInt64 := protection ||| write ||| user ||| reserved ||| fetch

/-- The known bits of an error code. -/
def ofErrorCode (err : UInt64) : PageFault :=
  ⟨err &&& known⟩

/-- Whether a bit of the code is set. -/
def has (f : PageFault) (bit : UInt64) : Bool :=
  f.bits &&& bit == bit

/-- Why the access failed. -/
def operation (f : PageFault) : String :=
  if f.has protection then "Protection Violation" else "Non-Present Page"

/-- What the access did. -/
def access (f : PageFault) : String :=
  if f.has write then "Write" else "Read"

/-- Whose access it was. -/
def privilege (f : PageFault) : String :=
  if f.has user then "User Mode" else "Supervisor Mode"

/-- The lines about a page fault in a report. -/
def lines (f : PageFault) : List String :=
  ["Page Fault Details:\n", "  Operation: " ++ f.operation ++ "\n",
    "  Access Type: " ++ f.access ++ "\n", "  Privilege Level: " ++ f.privilege ++ "\n"] ++
    (if f.has reserved then ["  Reserved Write: Yes\n"] else []) ++
    (if f.has fetch then ["  Instruction Fetch: Yes\n"] else [])

/-- The lines about a page fault as one text. -/
def render (f : PageFault) : String :=
  String.join f.lines

end PageFault

/-! ## Reports -/

/-- What a panic is reported with. -/
structure Report where
  frame : TrapFrame
  reason : String
  place : Log.Location

namespace Report

/-- The first line of a report. -/
def banner : String := "==================== KERNEL PANIC ===================="

/-- The last line of a report. -/
def closing : String := "======================================================"

/-- The width of the column of register names. -/
def nameWidth : Nat := 12

/-- A text filled up with blanks on the right. -/
def padRight (width : Nat) (text : String) : String :=
  text ++ String.ofList (List.replicate (width - text.length) ' ')

/-- One line of the register dump. -/
def registerLine (name : String) (value : UInt64) : String :=
  "  " ++ padRight nameWidth name ++ ": " ++ Hex.word value ++ "\n"

/-- The words of a frame with their names, in the order of the dump. -/
def registers (f : TrapFrame) : List (String × UInt64) :=
  [("CR0", f.cr0), ("CR2", f.cr2), ("CR3", f.cr3), ("CR4", f.cr4),
    ("RAX", f.rax), ("RBX", f.rbx), ("RCX", f.rcx), ("RDX", f.rdx),
    ("RSI", f.rsi), ("RDI", f.rdi), ("RBP", f.rbp),
    ("R8", f.r8), ("R9", f.r9), ("R10", f.r10), ("R11", f.r11),
    ("R12", f.r12), ("R13", f.r13), ("R14", f.r14), ("R15", f.r15),
    ("RIP", f.rip), ("CS", f.cs), ("RFLAGS", f.rflags), ("RSP", f.rsp), ("SS", f.ss),
    ("DS", f.ds), ("ES", f.es), ("FS", f.fs), ("GS", f.gs),
    ("ERR", f.err), ("VECTOR", f.vector)]

/-- The lines of the register dump. -/
def dump (f : TrapFrame) : List String :=
  (registers f).map fun (name, value) => registerLine name value

/-- The lines about the error code, for a page fault only. -/
def faultDetails (f : TrapFrame) : List String :=
  if f.vector = pageFaultVector then (PageFault.ofErrorCode f.err).lines else []

/-- The lines of the panic screen. They are sent one by one. -/
def pieces (r : Report) : List String :=
  [banner ++ "\n",
    "Kernel panic @ " ++ Hex.word r.frame.rip ++ ": " ++ r.reason ++
      " (vector " ++ Hex.marked r.frame.vector.toNat ++ ")\n",
    "In file: " ++ r.place.file ++ ", line: " ++ Nat.repr r.place.line.toNat ++ "\n",
    "Register dump:\n"] ++
    dump r.frame ++
    faultDetails r.frame ++
    ["Stack trace:\n", "  (not available)\n", closing ++ "\n"]

/-- The panic screen. -/
def full (r : Report) : String :=
  String.join r.pieces

/-- The report in one line. -/
def brief (r : Report) : String :=
  "Kernel Panic @ " ++ Hex.word r.frame.rip ++ ", Reason: \"" ++ r.reason ++ "\", " ++
    r.place.render ++ "\n"

/-- What a panic sends, text by text: the panic screen, or the one line if the kernel was built to
show no more. -/
def shown (r : Report) : List String :=
  if Identity.verbosePanic then r.pieces else [r.brief]

/-- This kernel is built to show the panic screen. -/
theorem shown_eq_pieces (r : Report) : r.shown = r.pieces := rfl

end Report

end Bringup
