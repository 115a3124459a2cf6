import Bringup.Boot.Handoff
import Bringup.Display.Color

/-!
# Framebuffers

A pixel is a 32-bit word in which each colour channel has a number of bits and a lowest bit, both
as the loader reports them. A channel narrower than eight bits keeps the high bits of its
component; a wider one keeps all eight at its low end; an absent one contributes nothing. A shift
past the word is a fault.

A framebuffer is a stretch of memory read as rows of pixels. Row `y` starts `y * stride` pixels
from the base and shows `width` pixels, so rows overlap where the width exceeds the stride. A
solid fill writes exactly the shown pixels (`Framebuffer.Shows`). A `Screen` is a framebuffer with
the memory behind it; positions past the end of that memory take no writes.
-/

namespace Bringup

/-! ## Pixel formats -/

/-- The bits of a pixel that hold one component. -/
structure Channel where
  size : UInt8
  shift : UInt8
  deriving DecidableEq

/-- How many bits of a component a channel keeps. -/
def Channel.kept (c : Channel) : UInt8 :=
  min c.size 8

/-- The bits of a component in its channel. -/
def Channel.place (c : Channel) (component : UInt8) : Except Fault UInt32 :=
  if c.size = 0 then .ok 0
  else Checked.shiftLeft32 (component.toUInt32 >>> (8 - c.kept).toUInt32) c.shift

/-- Where each component sits in a pixel. -/
structure PixelFormat where
  red : Channel
  green : Channel
  blue : Channel
  deriving DecidableEq

/-- The pixel of a colour. -/
def PixelFormat.encode (format : PixelFormat) (color : Color) : Except Fault UInt32 := do
  let red ← format.red.place color.rgb.red
  let green ← format.green.place color.rgb.green
  let blue ← format.blue.place color.rgb.blue
  return red ||| green ||| blue

/-! ## Geometry and fills -/

/-- The geometry and format of a framebuffer; the stride counts pixels. -/
structure Framebuffer where
  width : UInt64
  height : UInt64
  stride : UInt64
  format : PixelFormat
  deriving DecidableEq

/-- The pixel format that the loader reports. -/
def FramebufferDescription.format (d : FramebufferDescription) : PixelFormat where
  red := ⟨d.redSize, d.redShift⟩
  green := ⟨d.greenSize, d.greenShift⟩
  blue := ⟨d.blueSize, d.blueShift⟩

namespace Framebuffer

/-- The framebuffer that the loader describes, at four bytes to the pixel. -/
def ofHandoff (d : FramebufferDescription) : Framebuffer where
  width := d.width
  height := d.height
  stride := d.pitch / 4
  format := d.format

/-- Whether the pixel at position `p` of the memory is on the screen. -/
def Shows (fb : Framebuffer) (p : Nat) : Prop :=
  ∃ y < fb.height.toNat,
    y * fb.stride.toNat ≤ p ∧ p < y * fb.stride.toNat + fb.width.toNat

/-- The least number of pixels that holds every row and the padding after each. -/
def extent (fb : Framebuffer) : Nat :=
  max (fb.stride.toNat * fb.height.toNat)
    (fb.stride.toNat * (max fb.height.toNat 1 - 1) + fb.width.toNat)

end Framebuffer

/-- Writes one pixel value to `count` positions from `start`. -/
def paintRow (pixel : UInt32) : (start count : Nat) → Array UInt32 → Array UInt32
  | _, 0, memory => memory
  | start, count + 1, memory =>
      paintRow pixel (start + 1) count (memory.setIfInBounds start pixel)

/-- Writes one pixel value to the `rows` rows from row `y`. -/
def paintRows (fb : Framebuffer) (pixel : UInt32) :
    (y rows : Nat) → Array UInt32 → Except Fault (Array UInt32)
  | _, 0, memory => .ok memory
  | y, rows + 1, memory =>
      match Checked.mul (UInt64.ofNat y) fb.stride with
      | .error cause => .error cause
      | .ok start =>
          paintRows fb pixel (y + 1) rows (paintRow pixel start.toNat fb.width.toNat memory)

/-- The memory of a framebuffer after a fill with a colour. -/
def Framebuffer.fill (fb : Framebuffer) (color : Color) (memory : Array UInt32) :
    Except Fault (Array UInt32) := do
  let pixel ← fb.format.encode color
  paintRows fb pixel 0 fb.height.toNat memory

/-- A framebuffer and the pixels in its memory. -/
structure Screen where
  framebuffer : Framebuffer
  pixels : Array UInt32
  deriving DecidableEq

namespace Screen

/-- A screen whose memory holds one value throughout. -/
def uniform (fb : Framebuffer) (value : UInt32) : Screen where
  framebuffer := fb
  pixels := Array.replicate fb.extent value

/-- The screen filled with a colour. -/
def fill (screen : Screen) (color : Color) : Except Fault Screen := do
  let pixels ← screen.framebuffer.fill color screen.pixels
  return { screen with pixels }

end Screen

end Bringup
