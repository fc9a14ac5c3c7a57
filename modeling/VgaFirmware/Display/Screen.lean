import VgaFirmware.Byte
import VgaFirmware.Rejection

/-!
# The screen as the service sees it

Mode, geometry and pages, with one stored cursor for each page. A position on the screen and its
linear cell index determine each other as long as the row fits a byte.
-/

namespace VgaFirmware

abbrev Page := Fin 8

def Page.ofByte (b : UInt8) : Except Rejection Page :=
  if h : b.toNat < 8 then .ok ⟨b.toNat, h⟩ else .error (.noSuchPage b)

def Page.first : Page := 0

structure Position where
  x : UInt8
  y : UInt8
  deriving DecidableEq, Repr

/-- The scan lines between which the cursor shows. -/
structure CursorShape where
  first : UInt8
  last : UInt8
  deriving DecidableEq, Repr

/-- The last line has five bits. -/
def CursorShape.of (first last : UInt8) : CursorShape := ⟨first, last &&& 0x1F⟩

/-- The mode on display, its geometry, and where the cursor of each page stands. -/
structure Screen where
  mode : UInt8
  columns : UInt8
  rows : UInt8
  activePage : UInt8
  /-- Distance between pages in the cells view. -/
  pageSize : UInt16
  cursors : Vector Position 8
  deriving DecidableEq, Repr

namespace Screen

/-- Before any mode is set: text of 40 columns, all cursors at the top left. -/
def initial : Screen where
  mode := 0x01
  columns := 40
  rows := 25
  activePage := 0
  pageSize := 0x800
  cursors := Vector.replicate 8 ⟨0, 0⟩

def pageStart (s : Screen) (page : UInt8) : UInt16 := s.pageSize * page.toUInt16

def cellIndex (s : Screen) (p : Position) : UInt16 :=
  s.columns.toUInt16 * p.y.toUInt16 + p.x.toUInt16

/-- The position of a cell index; rows past 255 wrap. -/
def positionOf (s : Screen) (index : UInt16) : Position :=
  let columns := if s.columns = 0 then 1 else s.columns.toUInt16
  ⟨(index % columns).toUInt8, (index / columns).toUInt8⟩

def clamp (s : Screen) (p : Position) : Position :=
  ⟨Byte.least p.x (Byte.down s.columns), Byte.least p.y (Byte.down s.rows)⟩

def cursor (s : Screen) (page : Page) : Position := s.cursors.get page

def setCursor (s : Screen) (page : Page) (p : Position) : Screen :=
  { s with cursors := s.cursors.set page.val p }

def clampCursors (s : Screen) : Screen := { s with cursors := s.cursors.map s.clamp }

/-- Offset of a cell in the planes that hold characters and attributes. -/
def planeOffset (s : Screen) (page : UInt8) (p : Position) : Nat :=
  (s.pageStart page).toNat / 2 + s.columns.toNat * p.y.toNat + p.x.toNat

theorem toNat_cellIndex (s : Screen) (p : Position) :
    (s.cellIndex p).toNat = s.columns.toNat * p.y.toNat + p.x.toNat := by
  have hc : s.columns.toNat ≤ 255 := by have := s.columns.toNat_lt; omega
  have hy : p.y.toNat ≤ 255 := by have := p.y.toNat_lt; omega
  have hx : p.x.toNat ≤ 255 := by have := p.x.toNat_lt; omega
  have hm : s.columns.toNat * p.y.toNat ≤ 255 * 255 := Nat.mul_le_mul hc hy
  simp [cellIndex]
  omega

end Screen

end VgaFirmware
