import VgaFirmware.Word

/-!
# Hardware

What the service needs from a machine: ports, a movable window onto display memory, and the
caller's memory. `Backend` is that capability, for any type of hardware state. Block transfers
through the window are sequences of byte accesses, whose offsets wrap within the segment.
-/

namespace VgaFirmware

/-- How a word reaches two adjacent ports: as one access, or as two of a byte each. -/
inductive BusWidth where
  | byte | word
  deriving DecidableEq, Repr

/-- Hardware states of type `B` and the accesses that act on them. -/
class Backend (B : Type) where
  busWidth : BusWidth
  portIn : B → UInt16 → UInt8 × B
  portOut : B → UInt16 → UInt8 → B
  /-- A word written at once, on a bus that is wide enough. -/
  portOutWord : B → UInt16 → UInt16 → B
  window : B → UInt16
  setWindow : B → UInt16 → B
  /-- Reads the byte at an offset of the window. -/
  load : B → UInt16 → UInt8 × B
  /-- Writes the byte at an offset of the window. -/
  store : B → UInt16 → UInt8 → B
  /-- Reads a byte of the caller's memory. -/
  fetch : B → UInt32 → UInt8 × B

namespace Backend

variable {B : Type} [Backend B]

def loadWord (b : B) (off : UInt16) : UInt16 × B :=
  let (low, b) := load b off
  let (high, b) := load b (off + 1)
  (Word.ofBytes low high, b)

def storeWord (b : B) (off w : UInt16) : B :=
  store (store b off (Word.low w)) (off + 1) (Word.high w)

/-- Copies bytes upwards within the window; an overlap repeats what was copied before. -/
def copy (b : B) (dst src : UInt16) : Nat → B
  | 0 => b
  | count + 1 =>
    let (v, b) := load b src
    copy (store b dst v) (dst + 1) (src + 1) count

def fill (b : B) (dst : UInt16) (v : UInt8) : Nat → B
  | 0 => b
  | count + 1 => fill (store b dst v) (dst + 1) v count

def fillWords (b : B) (dst w : UInt16) : Nat → B
  | 0 => b
  | count + 1 => fillWords (storeWord b dst w) (dst + 2) w count

def copyIn (b : B) (dst : UInt16) (src : UInt32) : Nat → B
  | 0 => b
  | count + 1 =>
    let (v, b) := fetch b src
    copyIn (store b dst v) (dst + 1) (src + 1) count

/-- Place of the first zero among `count` bytes of the caller's memory, counted from `i`. -/
def findZero (b : B) (a : UInt32) (i : Nat) : Nat → Option Nat × B
  | 0 => (none, b)
  | count + 1 =>
    let (v, b) := fetch b a
    if v = 0 then (some i, b) else findZero b (a + 1) (i + 1) count

end Backend

end VgaFirmware
