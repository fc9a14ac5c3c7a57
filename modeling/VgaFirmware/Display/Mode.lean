import VgaFirmware.Adapter.Field
import VgaFirmware.Rejection

/-!
# Display modes

Each mode is a row of a fixed table: its geometry, the distance between its pages, and the
register values that activate it.
-/

namespace VgaFirmware

/-- The geometries that modes come in, named for their shape. -/
inductive Layout where
  | narrow | wide | tall | tallest
  deriving DecidableEq, Repr

namespace Layout

def columns : Layout → UInt8
  | narrow => 40
  | wide | tall | tallest => 80

def rows : Layout → UInt8
  | narrow | wide => 25
  | tall => 43
  | tallest => 60

end Layout

structure ModeSpec where
  mode : UInt8
  layout : Layout
  /-- Distance between pages in cells view bytes; zero where there is a single page. -/
  pageSize : UInt16
  mapMask : PlaneSet
  /-- Selection of the character maps, for text modes only. -/
  characterMap : Option UInt8
  memoryMode : MemoryMode
  graphicsMode : GraphicsMode
  graphicsMisc : GraphicsMisc
  deriving DecidableEq, Repr

namespace ModeSpec

def columns (m : ModeSpec) : UInt8 := m.layout.columns

def rows (m : ModeSpec) : UInt8 := m.layout.rows

def isText (m : ModeSpec) : Bool := !m.graphicsMisc.graphics

/-- A text mode: characters in plane 0, attributes in plane 1. -/
def text (mode : UInt8) (layout : Layout) (pageSize : UInt16) : ModeSpec where
  mode := mode
  layout := layout
  pageSize := pageSize
  mapMask := .ofByte 0x03
  characterMap := some 0
  memoryMode := ⟨0x02⟩
  graphicsMode := ⟨0x10⟩
  graphicsMisc := ⟨0x0E⟩

/-- A mode of four colours, two bits a pixel, in interleaved planes. -/
def fourColour (mode : UInt8) : ModeSpec where
  mode := mode
  layout := .narrow
  pageSize := 0
  mapMask := .ofByte 0x03
  characterMap := none
  memoryMode := ⟨0x02⟩
  graphicsMode := ⟨0x30⟩
  graphicsMisc := ⟨0x0F⟩

/-- A mode of sixteen colours, one bit of a pixel in each plane. -/
def sixteenColour (mode : UInt8) (layout : Layout) (pageSize : UInt16) : ModeSpec where
  mode := mode
  layout := layout
  pageSize := pageSize
  mapMask := .all
  characterMap := none
  memoryMode := ⟨0x06⟩
  graphicsMode := ⟨0x00⟩
  graphicsMisc := ⟨0x07⟩

/-- The mode of two colours in a single plane. -/
def twoColour : ModeSpec where
  mode := 0x06
  layout := .wide
  pageSize := 0
  mapMask := .ofByte 0x01
  characterMap := none
  memoryMode := ⟨0x06⟩
  graphicsMode := ⟨0x00⟩
  graphicsMisc := ⟨0x0D⟩

/-- The mode of 256 colours in four chained planes. -/
def chained : ModeSpec where
  mode := 0x13
  layout := .narrow
  pageSize := 0
  mapMask := .all
  characterMap := none
  memoryMode := ⟨0x0E⟩
  graphicsMode := ⟨0x40⟩
  graphicsMisc := ⟨0x01⟩

def table : List ModeSpec :=
  [ text 0x00 .narrow 0x0800,
    text 0x01 .narrow 0x0800,
    text 0x02 .wide 0x1000,
    text 0x03 .wide 0x1000,
    fourColour 0x04,
    fourColour 0x05,
    twoColour,
    sixteenColour 0x0D .narrow 0x2000,
    sixteenColour 0x0E .wide 0x4000,
    sixteenColour 0x0F .tall 0x8000,
    sixteenColour 0x10 .tall 0x8000,
    sixteenColour 0x11 .tallest 0,
    sixteenColour 0x12 .tallest 0,
    chained ]

def lookup (mode : UInt8) : Except Rejection ModeSpec :=
  match table.find? (·.mode == mode) with
  | some spec => .ok spec
  | none => .error (.unknownMode mode)

theorem lookup_eq_ok {mode : UInt8} {spec : ModeSpec} (h : lookup mode = .ok spec) :
    spec ∈ table ∧ spec.mode = mode := by
  unfold lookup at h
  split at h
  · rename_i s hs
    cases h
    exact ⟨List.mem_of_find?_eq_some hs, by simpa using List.find?_some hs⟩
  · cases h

theorem lookup_eq_error {mode : UInt8} :
    lookup mode = .error (.unknownMode mode) ↔ ∀ spec ∈ table, spec.mode ≠ mode := by
  unfold lookup
  split
  · rename_i s hs
    simp only [reduceCtorEq, false_iff]
    intro h
    exact h s (List.mem_of_find?_eq_some hs) (by simpa using List.find?_some hs)
  · rename_i hs
    simpa using hs

end ModeSpec

end VgaFirmware
