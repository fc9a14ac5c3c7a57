import VgaFirmware.Adapter
import VgaFirmware.Machine.Backend
import VgaFirmware.Machine.Ram

/-!
# A board with a display adapter

The adapter answers the ports and the addresses between `A0000` and `BFFFF`; all other addresses
are memory. The width of the bus is part of the type and shows in the bus cycles only.
-/

namespace VgaFirmware

/-- An adapter beside memory, on a bus of the given width. -/
structure Board (bus : BusWidth) where
  window : UInt16
  ram : Ram
  adapter : Adapter

namespace Board

variable {bus : BusWidth}

def powerOn (bus : BusWidth) : Board bus := ⟨0, .blank, .powerOn⟩

def updateAdapter (b : Board bus) (f : Adapter → Adapter) : Board bus :=
  match b with
  | ⟨window, ram, adapter⟩ => ⟨window, ram, f adapter⟩

def queryAdapter {α : Type} (b : Board bus) (f : Adapter → α × Adapter) : α × Board bus :=
  match b with
  | ⟨window, ram, adapter⟩ =>
    let (a, adapter) := f adapter
    (a, ⟨window, ram, adapter⟩)

def updateRam (b : Board bus) (f : Ram → Ram) : Board bus :=
  match b with
  | ⟨window, ram, adapter⟩ => ⟨window, f ram, adapter⟩

def read (b : Board bus) (a : Address) : UInt8 × Board bus :=
  if a.isDisplay then b.queryAdapter (·.hostRead a.val) else (b.ram.get a, b)

def write (b : Board bus) (a : Address) (v : UInt8) : Board bus :=
  if a.isDisplay then b.updateAdapter (·.hostWrite a.val v) else b.updateRam (·.set a v)

instance : Backend (Board bus) where
  busWidth := bus
  portIn b port := b.queryAdapter (·.readPort port)
  portOut b port v := b.updateAdapter (·.writePort port v)
  portOutWord b port w := b.updateAdapter (·.writePortWord port w)
  window b := b.window
  setWindow b segment := { b with window := segment }
  load b off := b.read (.ofSegment b.window off)
  store b off v := b.write (.ofSegment b.window off) v
  fetch b a := b.read (.ofLinear a)

/-- Puts a cell straight into the planes. -/
def putCell (b : Board bus) (off : UInt16) (c : Cell) : Board bus :=
  b.updateAdapter fun
    | ⟨misc, sequencer, graphics, crtc, attributes, dac, latches, planes⟩ =>
      ⟨misc, sequencer, graphics, crtc, attributes, dac, latches,
        (planes.set .characters off c.chr).set .attributes off c.attr⟩

end Board

end VgaFirmware
