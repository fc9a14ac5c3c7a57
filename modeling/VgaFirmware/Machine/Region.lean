import VgaFirmware.Machine.Backend

/-!
# Regions of rows

A block of columns by rows at the start of the window, a fixed distance from row to row.
Scrolling moves the rows that stay and fills those that come free.
-/

namespace VgaFirmware

/-- The top left of a screen, of which each row takes up `stride` bytes. -/
structure Region where
  columns : Nat
  rows : Nat
  stride : Nat
  deriving DecidableEq, Repr

inductive Direction where
  | up | down
  deriving DecidableEq, Repr

namespace Region

variable {B : Type} [Backend B]

def rowStart (r : Region) (row : Nat) : UInt16 := UInt16.ofNat (r.stride * row)

def clear (r : Region) (b : B) (first count : Nat) (v : UInt8) : B :=
  (List.range' first count).foldl (fun b row => Backend.fill b (r.rowStart row) v r.columns) b

def copyRow (r : Region) (b : B) (dst src : Nat) : B :=
  Backend.copy b (r.rowStart dst) (r.rowStart src) r.columns

/-- Rows move up by `count`, topmost first, and the bottom ones come free. -/
def scrollUp (r : Region) (b : B) (count : Nat) (v : UInt8) : B :=
  let kept := r.rows - count
  let b := (List.range kept).foldl (fun b row => r.copyRow b row (row + count)) b
  r.clear b kept count v

/-- Rows move down by `count`, bottommost first, and the top ones come free. -/
def scrollDown (r : Region) (b : B) (count : Nat) (v : UInt8) : B :=
  let kept := r.rows - count
  let b := (List.range kept).reverse.foldl (fun b row => r.copyRow b (row + count) row) b
  r.clear b 0 count v

/-- Moves the rows; moving by the height of the region or more fills all of it. -/
def scroll (r : Region) (b : B) (direction : Direction) (count : Nat) (v : UInt8) : B :=
  if r.rows ≤ count then r.clear b 0 r.rows v
  else
    match direction with
    | .up => r.scrollUp b count v
    | .down => r.scrollDown b count v

end Region

end VgaFirmware
