import VgaFirmware.Adapter.Dac
import VgaFirmware.Machine.Backend
import VgaFirmware.Machine.Controller
import VgaFirmware.Machine.Cycle
import VgaFirmware.Machine.Event

/-!
# Machines

Hardware together with the record of what was done to it: the bus cycles, and the events that
were reported. Accesses to memory are not recorded.
-/

namespace VgaFirmware

/-- Hardware and its record, oldest entry first. -/
structure Machine (B : Type) where
  hardware : B
  cycles : Array Cycle
  events : Array Event

namespace Machine

variable {B : Type}

def ofHardware (hardware : B) : Machine B := ⟨hardware, #[], #[]⟩

/-- Changes the hardware and leaves no record. -/
def update (m : Machine B) (f : B → B) : Machine B :=
  match m with
  | ⟨hardware, cycles, events⟩ => ⟨f hardware, cycles, events⟩

def query {α : Type} (m : Machine B) (f : B → α × B) : α × Machine B :=
  match m with
  | ⟨hardware, cycles, events⟩ =>
    let (a, hardware) := f hardware
    (a, ⟨hardware, cycles, events⟩)

def log (m : Machine B) (c : Cycle) : Machine B :=
  match m with
  | ⟨hardware, cycles, events⟩ => ⟨hardware, cycles.push c, events⟩

def emit (m : Machine B) (e : Event) : Machine B :=
  match m with
  | ⟨hardware, cycles, events⟩ => ⟨hardware, cycles, events.push e⟩

def forget (m : Machine B) : Machine B :=
  match m with
  | ⟨hardware, _, _⟩ => ofHardware hardware

@[simp] theorem hardware_update (m : Machine B) (f : B → B) :
    (m.update f).hardware = f m.hardware := rfl

@[simp] theorem cycles_update (m : Machine B) (f : B → B) : (m.update f).cycles = m.cycles := rfl

@[simp] theorem events_update (m : Machine B) (f : B → B) : (m.update f).events = m.events := rfl

@[simp] theorem fst_query {α : Type} (m : Machine B) (f : B → α × B) :
    (m.query f).1 = (f m.hardware).1 := rfl

@[simp] theorem hardware_query {α : Type} (m : Machine B) (f : B → α × B) :
    (m.query f).2.hardware = (f m.hardware).2 := rfl

@[simp] theorem cycles_query {α : Type} (m : Machine B) (f : B → α × B) :
    (m.query f).2.cycles = m.cycles := rfl

@[simp] theorem events_query {α : Type} (m : Machine B) (f : B → α × B) :
    (m.query f).2.events = m.events := rfl

@[simp] theorem hardware_log (m : Machine B) (c : Cycle) : (m.log c).hardware = m.hardware := rfl

@[simp] theorem cycles_log (m : Machine B) (c : Cycle) : (m.log c).cycles = m.cycles.push c := rfl

@[simp] theorem events_log (m : Machine B) (c : Cycle) : (m.log c).events = m.events := rfl

@[simp] theorem hardware_emit (m : Machine B) (e : Event) : (m.emit e).hardware = m.hardware := rfl

@[simp] theorem cycles_emit (m : Machine B) (e : Event) : (m.emit e).cycles = m.cycles := rfl

@[simp] theorem events_emit (m : Machine B) (e : Event) : (m.emit e).events = m.events.push e := rfl

variable [Backend B]

/-! ## Ports and window -/

def readPort (m : Machine B) (port : UInt16) : UInt8 × Machine B :=
  let (v, m) := m.query (Backend.portIn · port)
  (v, m.log (.readByte port v))

def writePort (m : Machine B) (port : UInt16) (v : UInt8) : Machine B :=
  (m.log (.writeByte port v)).update (Backend.portOut · port v)

/-- A word for two adjacent ports, low byte first. -/
def writePortWord (m : Machine B) (port w : UInt16) : Machine B :=
  match Backend.busWidth B with
  | .word => (m.log (.writeWord port w)).update (Backend.portOutWord · port w)
  | .byte => (m.writePort port (Word.low w)).writePort (port + 1) (Word.high w)

def window (m : Machine B) : UInt16 := Backend.window m.hardware

def setWindow (m : Machine B) (segment : UInt16) : Machine B :=
  (m.log (.moveWindow segment)).update (Backend.setWindow · segment)

/-! ## Indexed registers -/

/-- Sends index and value as one word. -/
def writeReg (m : Machine B) (c : Controller) (index v : UInt8) : Machine B :=
  m.writePortWord c.indexPort (Word.ofBytes index v)

/-- Sends index and value one after the other. -/
def writeRegSplit (m : Machine B) (c : Controller) (index v : UInt8) : Machine B :=
  (m.writePort c.indexPort index).writePort c.valuePort v

def readReg (m : Machine B) (c : Controller) (index : UInt8) : UInt8 × Machine B :=
  (m.writePort c.indexPort index).readPort c.valuePort

/-- A word as two registers, high byte first. -/
def writeRegPair (m : Machine B) (c : Controller) (index : UInt8) (w : UInt16) : Machine B :=
  (m.writeRegSplit c index (Word.high w)).writeRegSplit c (index + 1) (Word.low w)

/-- One register of the attribute controller, which must be expecting an index. -/
def writeAttribute (m : Machine B) (index v : UInt8) : Machine B :=
  (m.writePort 0x3C0 index).writePort 0x3C0 v

def pushColour (m : Machine B) (c : Colour) : Machine B :=
  ((m.writePort 0x3C9 c.red).writePort 0x3C9 c.green).writePort 0x3C9 c.blue

def writeColours (m : Machine B) (first : UInt8) (colours : List Colour) : Machine B :=
  colours.foldl pushColour (m.writePort 0x3C8 first)

end Machine

end VgaFirmware
