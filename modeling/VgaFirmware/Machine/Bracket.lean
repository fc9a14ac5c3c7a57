import VgaFirmware.Machine

/-!
# Work inside a view

Every transfer runs between the opening and the closing of a view. Opening saves the five view
registers and the window and sets them for the view; closing puts the window back first and then
the registers. A transfer is always the body of `edit` or `inspect`, so what it sets up cannot
outlive it.
-/

namespace VgaFirmware

/-- What closing a view puts back. -/
structure Saved where
  registers : ViewRegisters
  window : UInt16
  deriving DecidableEq, Repr

namespace Machine

variable {B : Type} [Backend B]

def capture (m : Machine B) : ViewRegisters × Machine B :=
  let (mapMask, m) := m.readReg .sequencer 2
  let (memoryMode, m) := m.readReg .sequencer 4
  let (readMap, m) := m.readReg .graphics 4
  let (graphicsMode, m) := m.readReg .graphics 5
  let (graphicsMisc, m) := m.readReg .graphics 6
  (⟨mapMask, memoryMode, readMap, graphicsMode, graphicsMisc⟩, m)

/-- Sets the view registers, one word each. -/
def program (m : Machine B) (r : ViewRegisters) : Machine B :=
  let m := m.writeReg .sequencer 2 r.mapMask
  let m := m.writeReg .sequencer 4 r.memoryMode
  let m := m.writeReg .graphics 4 r.readMap
  let m := m.writeReg .graphics 5 r.graphicsMode
  m.writeReg .graphics 6 r.graphicsMisc

/-- Sets the view registers, two bytes each. -/
def restore (m : Machine B) (r : ViewRegisters) : Machine B :=
  let m := m.writeRegSplit .sequencer 2 r.mapMask
  let m := m.writeRegSplit .sequencer 4 r.memoryMode
  let m := m.writeRegSplit .graphics 4 r.readMap
  let m := m.writeRegSplit .graphics 5 r.graphicsMode
  m.writeRegSplit .graphics 6 r.graphicsMisc

def openView (m : Machine B) (v : View) (start : UInt16) : Saved × Machine B :=
  let (registers, m) := m.capture
  let window := m.window
  let m := m.program (v.registers ⟨registers.graphicsMisc⟩)
  let m := m.setWindow (v.segment start)
  (⟨registers, window⟩, m.emit (.viewOpened v (v.segment start)))

def closeView (m : Machine B) (s : Saved) : Machine B :=
  ((m.setWindow s.window).restore s.registers).emit .viewClosed

/-- Turns an open view of planes to one plane. -/
def selectPlane (m : Machine B) (p : Plane) : Machine B :=
  (m.writeReg .sequencer 2 (PlaneSet.single p).toByte).writeReg .graphics 4 (UInt8.ofNat p.val)

def edit (m : Machine B) (v : View) (start : UInt16) (body : Machine B → Machine B) :
    Machine B :=
  let (saved, m) := m.openView v start
  (body m).closeView saved

def inspect {α : Type} (m : Machine B) (v : View) (start : UInt16)
    (body : Machine B → α × Machine B) : α × Machine B :=
  let (saved, m) := m.openView v start
  let (a, m) := body m
  (a, m.closeView saved)

end Machine

end VgaFirmware
