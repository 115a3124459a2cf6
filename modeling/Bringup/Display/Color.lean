/-!
# Colours

The sixteen colours of the classic text palette, each with its number, its value at eight bits per
channel and the code that selects it as the foreground of a terminal. The bright half of the
palette has terminal codes sixty above the dark half; the code of a background is ten above the
foreground's.
-/

namespace Bringup

/-- The sixteen colours in the order of their numbers. -/
inductive Color where
  | black
  | blue
  | green
  | cyan
  | red
  | magenta
  | brown
  | lightGray
  | darkGray
  | lightBlue
  | lightGreen
  | lightCyan
  | lightRed
  | pink
  | yellow
  | white
  deriving DecidableEq

/-- A colour at eight bits per channel. -/
structure Rgb where
  red : UInt8
  green : UInt8
  blue : UInt8
  deriving DecidableEq

namespace Color

/-- Every colour, in the order of the numbers. -/
def all : List Color :=
  [.black, .blue, .green, .cyan, .red, .magenta, .brown, .lightGray, .darkGray, .lightBlue,
    .lightGreen, .lightCyan, .lightRed, .pink, .yellow, .white]

/-- The number of a colour. -/
def index (c : Color) : Nat :=
  all.idxOf c

/-- The colour with a given number. -/
def ofIndex? (i : Nat) : Option Color :=
  all[i]?

/-- The name of a colour. -/
def name : Color → String
  | .black => "Black"
  | .blue => "Blue"
  | .green => "Green"
  | .cyan => "Cyan"
  | .red => "Red"
  | .magenta => "Magenta"
  | .brown => "Brown"
  | .lightGray => "LightGray"
  | .darkGray => "DarkGray"
  | .lightBlue => "LightBlue"
  | .lightGreen => "LightGreen"
  | .lightCyan => "LightCyan"
  | .lightRed => "LightRed"
  | .pink => "Pink"
  | .yellow => "Yellow"
  | .white => "White"

/-- The value of a colour on the screen. -/
def rgb : Color → Rgb
  | .black => ⟨0x00, 0x00, 0x00⟩
  | .blue => ⟨0x00, 0x00, 0xaa⟩
  | .green => ⟨0x00, 0xaa, 0x00⟩
  | .cyan => ⟨0x00, 0xaa, 0xaa⟩
  | .red => ⟨0xaa, 0x00, 0x00⟩
  | .magenta => ⟨0xaa, 0x00, 0xaa⟩
  | .brown => ⟨0xaa, 0x55, 0x00⟩
  | .lightGray => ⟨0xaa, 0xaa, 0xaa⟩
  | .darkGray => ⟨0x55, 0x55, 0x55⟩
  | .lightBlue => ⟨0x55, 0x55, 0xff⟩
  | .lightGreen => ⟨0x55, 0xff, 0x55⟩
  | .lightCyan => ⟨0x55, 0xff, 0xff⟩
  | .lightRed => ⟨0xff, 0x55, 0x55⟩
  | .pink => ⟨0xff, 0x55, 0xff⟩
  | .yellow => ⟨0xff, 0xff, 0x55⟩
  | .white => ⟨0xff, 0xff, 0xff⟩

/-- The terminal code that selects a colour as the foreground. -/
def foregroundCode : Color → Nat
  | .black => 30
  | .red => 31
  | .green => 32
  | .brown => 33
  | .blue => 34
  | .magenta => 35
  | .cyan => 36
  | .lightGray => 37
  | .darkGray => 90
  | .lightRed => 91
  | .lightGreen => 92
  | .yellow => 93
  | .lightBlue => 94
  | .pink => 95
  | .lightCyan => 96
  | .white => 97

/-- The terminal code that selects a colour as the background. -/
def backgroundCode (c : Color) : Nat :=
  c.foregroundCode + 10

theorem ofIndex?_index (c : Color) : ofIndex? c.index = some c := by
  cases c <;> decide

end Color

/-- The escape sequences that select two colours, clear a terminal and send its cursor home. -/
def clearSequence (foreground background : Color) : String :=
  "\x1b[" ++ Nat.repr foreground.foregroundCode ++ "m\x1b[" ++ Nat.repr background.backgroundCode
    ++ "m\x1b[2J\x1b[H"

end Bringup
