import Bringup.Machine
import Bringup.Trap.Frame

/-!
# The interrupt controllers

Two chained controllers have eight lines each, and a mask for them behind a data port. The code that
talks to them is not part of this kernel: a `ControllerDriver` is any such code that does what the
kernel relies on. It moves the lines to other vectors with words of its own, between reading both
masks and writing them back, since the words reset them; and it writes masks.

`ControllerDriver.setUp` is what the kernel has it do: the lines move behind the processor's
exceptions, and then every line is masked. `ControllerDriver.standard` is the driver that sends the
usual words.
-/

namespace Bringup

/-- The data port of the first controller, which holds its mask. -/
def firstMaskPort : UInt16 := 0x21

/-- The data port of the second controller, which holds its mask. -/
def secondMaskPort : UInt16 := 0xa1

/-- The ports that words for the controllers go to: command and data port of either one, and a port
that nothing listens on, to which a write takes long enough for a controller to follow. -/
def controllerPorts : List UInt16 := [0x20, firstMaskPort, 0xa0, secondMaskPort, 0x80]

/-- The code that talks to the controllers, with what the kernel relies on. -/
structure ControllerDriver where
  /-- Moves the lines of both controllers to the vectors from the given ones on. -/
  remap : (firstVector secondVector : UInt8) → PortActivity Unit
  /-- Writes the masks of both controllers. -/
  writeMasks : (first second : UInt8) → PortActivity Unit
  /-- The words that move the lines, each with its port. -/
  words : (firstVector secondVector : UInt8) → List (UInt16 × UInt8)
  words_ports : ∀ firstVector secondVector, ∀ word ∈ words firstVector secondVector,
    word.1 ∈ controllerPorts
  /-- The masks are read, the words are sent, and the masks are written back. -/
  remap_eq : ∀ firstVector secondVector, remap firstVector secondVector = (do
    let first ← Port.read firstMaskPort
    let second ← Port.read secondMaskPort
    Port.writeEach (words firstVector secondVector)
    Port.write firstMaskPort first
    Port.write secondMaskPort second)
  /-- Each mask goes to its port, and nothing else is done. -/
  writeMasks_eq : ∀ first second, writeMasks first second = (do
    Port.write firstMaskPort first
    Port.write secondMaskPort second)

namespace ControllerDriver

/-- The mask of all lines. -/
def allLines : UInt8 := 0xff

/-- Moves the lines to their vectors and masks them all. -/
def setUp (driver : ControllerDriver) : PortActivity Unit := do
  driver.remap firstLineVector secondLineVector
  driver.writeMasks allLines allLines

/-- What setting the controllers up comes to: the masks are read and, after the words, written back,
whatever they are, and then every line is masked. -/
theorem setUp_apply (driver : ControllerDriver) (input : List UInt8) :
    driver.setUp input =
      let first := input.headD restingValue
      let second := input.tail.headD restingValue
      ⟨.ok (), input.tail.tail,
        [.in8 firstMaskPort first, .in8 secondMaskPort second] ++
          (driver.words firstLineVector secondLineVector).map (fun word => .out8 word.1 word.2) ++
          [.out8 firstMaskPort first, .out8 secondMaskPort second, .out8 firstMaskPort allLines,
            .out8 secondMaskPort allLines]⟩ := by
  rw [setUp, driver.remap_eq, driver.writeMasks_eq]
  simp only [bind_assoc]
  rfl

/-- Setting the controllers up writes to no port but theirs. -/
theorem written_setUp_of_not_mem (driver : ControllerDriver) {port : UInt16}
    (other : port ∉ controllerPorts) (input : List UInt8) :
    Event.written port (driver.setUp input).events = [] := by
  have noWord : Event.written port ((driver.words firstLineVector secondLineVector).map
      fun word => .out8 word.1 word.2) = [] := by
    rw [Event.written, List.filterMap_map, List.filterMap_eq_nil_iff]
    intro word mem
    have apart : ¬ word.1 = port := by
      rintro rfl
      exact other (driver.words_ports _ _ word mem)
    exact if_neg apart
  have notFirst : ¬ port = firstMaskPort := by
    rintro rfl
    exact other (by decide)
  have notSecond : ¬ port = secondMaskPort := by
    rintro rfl
    exact other (by decide)
  rw [setUp_apply]
  simp [noWord, Event.written_out8_cons, notFirst, notSecond]

/-! ## The usual words -/

/-- Words for the first and the second controller in turn, each followed by a wait. -/
def standardWords (firstVector secondVector : UInt8) : List (UInt16 × UInt8) :=
  -- the command that starts, the vectors, the line that chains the two, and the mode
  [(0x20, 0x11), (0xa0, 0x11), (firstMaskPort, firstVector), (secondMaskPort, secondVector),
    (firstMaskPort, 4), (secondMaskPort, 2), (firstMaskPort, 1), (secondMaskPort, 1)].flatMap
      fun word => [word, (0x80, 0)]

/-- The driver that sends the usual words. -/
def standard : ControllerDriver where
  remap firstVector secondVector := do
    let first ← Port.read firstMaskPort
    let second ← Port.read secondMaskPort
    Port.writeEach (standardWords firstVector secondVector)
    Port.write firstMaskPort first
    Port.write secondMaskPort second
  writeMasks first second := do
    Port.write firstMaskPort first
    Port.write secondMaskPort second
  words := standardWords
  words_ports := by
    intro firstVector secondVector word mem
    simp only [standardWords, List.mem_flatMap, List.mem_cons, List.not_mem_nil, or_false] at mem
    simp only [controllerPorts, List.mem_cons, List.not_mem_nil, or_false]
    grind
  remap_eq _ _ := rfl
  writeMasks_eq _ _ := rfl

end ControllerDriver

end Bringup
