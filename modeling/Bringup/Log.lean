/-!
# Log lines

A record has a level and the place it comes from. It becomes one line (`Record.render`): a coloured
tag of five letters, the place, the message.
-/

namespace Bringup.Log

/-- How serious a record is. -/
inductive Level where
  | trace
  | debug
  | info
  | warn
  | error
  deriving DecidableEq

namespace Level

/-- The place of a level on the scale of severity. -/
def rank : Level → Nat
  | .trace => 0
  | .debug => 1
  | .info => 2
  | .warn => 3
  | .error => 4

/-- The level with a given rank. -/
def ofRank? : Nat → Option Level
  | 0 => some .trace
  | 1 => some .debug
  | 2 => some .info
  | 3 => some .warn
  | 4 => some .error
  | _ => none

/-- The coloured tag that opens a line. -/
def tag : Level → String
  | .trace => "\x1b[1mTRACE"
  | .debug => "\x1b[1;36mDEBUG"
  | .info => "\x1b[1;34mINFO "
  | .warn => "\x1b[1;33mWARN "
  | .error => "\x1b[1;31mERROR"

end Level

/-- A place in the sources, as shown in log lines and reports. -/
structure Location where
  file : String
  line : UInt32
  deriving DecidableEq

/-- The location as `file:line`. -/
def Location.render (place : Location) : String :=
  place.file ++ ":" ++ Nat.repr place.line.toNat

/-- The head of a log line. -/
structure Record where
  level : Level
  place : Location

/-- The pieces in which the line for a record with a message is written. -/
def Record.pieces (r : Record) (message : String) : List String :=
  [r.level.tag, "\x1b[1;39m", " [" ++ r.place.render ++ "] ", "\x1b[0m", message, "\n"]

/-- The line written for a record with a message. -/
def Record.render (r : Record) (message : String) : String :=
  String.join (r.pieces message)

end Bringup.Log
