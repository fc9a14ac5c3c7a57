import VgaFirmware.Display.Screen
import VgaFirmware.Machine

/-!
# Cursor and start address

The timing controller shows the cursor between two scan lines of one cell, and the display from
a start address.
-/

namespace VgaFirmware.Machine

variable {B : Type} [Backend B]

def setCursorShape (m : Machine B) (base : CrtcBase) (shape : CursorShape) : Machine B :=
  (m.writeRegSplit (.crtc base) 0x0A shape.first).writeRegSplit (.crtc base) 0x0B
    (shape.last &&& 0x1F)

def cursorShape (m : Machine B) (base : CrtcBase) : CursorShape × Machine B :=
  let (first, m) := m.readReg (.crtc base) 0x0A
  let (last, m) := m.readReg (.crtc base) 0x0B
  (.of (first &&& 0x1F) last, m)

def setStartAddress (m : Machine B) (base : CrtcBase) (start : UInt16) : Machine B :=
  m.writeRegPair (.crtc base) 0x0C start

def setCursorLocation (m : Machine B) (base : CrtcBase) (index : UInt16) : Machine B :=
  m.writeRegPair (.crtc base) 0x0E index

end VgaFirmware.Machine
