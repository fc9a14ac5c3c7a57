import VgaFirmware.Cell
import VgaFirmware.Adapter.RegisterBank
import VgaFirmware.Adapter.Attribute
import VgaFirmware.Adapter.Dac
import VgaFirmware.Adapter.Datapath
import VgaFirmware.Adapter.Port

/-!
# The display adapter

Register banks behind ports, and four planes of memory behind a host aperture. Nothing is drawn:
registers and planes are the whole of the state. Every access is a function from the adapter to
the adapter, with the value read beside it.
-/

namespace VgaFirmware

structure Adapter where
  miscOutput : UInt8
  sequencer : RegisterBank 5
  graphics : RegisterBank 9
  crtc : RegisterBank 25
  attributes : AttributeController
  dac : Dac
  latches : Latches
  planes : PlaneMemory

namespace Adapter

/-- Power-on: all zero, but for the bit mask and the colour mask, which let everything pass. -/
def powerOn : Adapter where
  miscOutput := 0
  sequencer := .blank 5
  graphics := (RegisterBank.blank 9).write 8 0xFF
  crtc := .blank 25
  attributes := .blank
  dac := .blank
  latches := Vector.replicate 4 0
  planes := .blank

/-! ## Registers -/

def memoryMode (a : Adapter) : MemoryMode := ⟨a.sequencer.read 4⟩

def graphicsMode (a : Adapter) : GraphicsMode := ⟨a.graphics.read 5⟩

def graphicsMisc (a : Adapter) : GraphicsMisc := ⟨a.graphics.read 6⟩

def mapMask (a : Adapter) : PlaneSet := .ofByte (a.sequencer.read 2)

def startAddress (a : Adapter) : UInt16 := Word.ofBytes (a.crtc.read 0x0D) (a.crtc.read 0x0C)

def cursorLocation (a : Adapter) : UInt16 := Word.ofBytes (a.crtc.read 0x0F) (a.crtc.read 0x0E)

/-- The text cell whose bytes lie at an offset of planes 0 and 1. -/
def cell (a : Adapter) (off : UInt16) : Cell :=
  ⟨a.planes.get .characters off, a.planes.get .attributes off⟩

/-- Bit 7 of register 0x11 protects the first eight timing registers. -/
def writeCrtc (a : Adapter) (v : UInt8) : Adapter :=
  if a.crtc.index.toNat ≤ 7 ∧ a.crtc.read 0x11 &&& 0x80 ≠ 0 then a
  else { a with crtc := a.crtc.write a.crtc.index v }

/-! ## Ports -/

def readPort (a : Adapter) (address : UInt16) : UInt8 × Adapter :=
  match Port.ofAddress address with
  | .miscRead => (a.miscOutput, a)
  | .sequencerIndex => (a.sequencer.index, a)
  | .sequencerValue => (a.sequencer.current, a)
  | .graphicsIndex => (a.graphics.index, a)
  | .graphicsValue => (a.graphics.current, a)
  | .crtcIndex => (a.crtc.index, a)
  | .crtcValue => (a.crtc.current, a)
  | .attributeValue => (a.attributes.read a.attributes.index, a)
  | .inputStatus => (0, { a with attributes := a.attributes.reset })
  | .pelMask => (a.dac.mask, a)
  | .dacReadIndex => (a.dac.readIndex, a)
  | .dacWriteIndex => (a.dac.writeIndex, a)
  | .dacValue =>
    let (v, dac) := a.dac.pull
    (v, { a with dac := dac })
  | .attributeStream | .miscWrite | .unmapped => (0xFF, a)

def writePort (a : Adapter) (address : UInt16) (v : UInt8) : Adapter :=
  match Port.ofAddress address with
  | .miscWrite => { a with miscOutput := v }
  | .sequencerIndex => { a with sequencer := a.sequencer.select v }
  | .sequencerValue => { a with sequencer := a.sequencer.write a.sequencer.index v }
  | .graphicsIndex => { a with graphics := a.graphics.select v }
  | .graphicsValue => { a with graphics := a.graphics.write a.graphics.index v }
  | .crtcIndex => { a with crtc := a.crtc.select v }
  | .crtcValue => a.writeCrtc v
  | .attributeStream => { a with attributes := a.attributes.push v }
  | .pelMask => { a with dac := { a.dac with mask := v } }
  | .dacReadIndex => { a with dac := a.dac.seekRead v }
  | .dacWriteIndex => { a with dac := a.dac.seekWrite v }
  | .dacValue => { a with dac := a.dac.push v }
  | .attributeValue | .miscRead | .inputStatus | .unmapped => a

/-- The two bytes of a word go to the port and to the one after it, low byte first. -/
def writePortWord (a : Adapter) (address : UInt16) (w : UInt16) : Adapter :=
  (a.writePort address (Word.low w)).writePort (address + 1) (Word.high w)

/-- A read of one or two bytes; wider reads find nothing on the bus. -/
def readPortSized (a : Adapter) (address : UInt16) (size : Nat) : UInt32 × Adapter :=
  match size with
  | 0 => (0, a)
  | 1 =>
    let (v, a) := a.readPort address
    (v.toUInt32, a)
  | 2 =>
    let (low, a) := a.readPort address
    let (high, a) := a.readPort (address + 1)
    ((Word.ofBytes low high).toUInt32, a)
  | _ => (0xFFFFFFFF, a)

/-- A write of one or two bytes; other sizes are ignored. -/
def writePortSized (a : Adapter) (address : UInt16) (size : Nat) (v : UInt32) : Adapter :=
  match size with
  | 1 => a.writePort address v.toUInt8
  | 2 => a.writePortWord address v.toUInt16
  | _ => a

/-! ## Host memory -/

/-- Chaining four planes wins over odd/even, which both controllers have to allow. -/
def addressing (a : Adapter) : Addressing :=
  if a.memoryMode.chained then .chained
  else if a.graphicsMode.oddEven && !a.memoryMode.sequential then .oddEven
  else .planar

def target (a : Adapter) (address : Nat) : Option Target :=
  (a.graphicsMisc.aperture.offset? address).map a.addressing.target

def writeControl (a : Adapter) : WriteControl where
  mode := .ofBits a.graphicsMode.bits
  op := .ofBits (a.graphics.read 3 >>> 3)
  rotate := (a.graphics.read 3).toNat % 8
  bitMask := a.graphics.read 8
  setReset := .ofByte (a.graphics.read 0)
  enableSetReset := .ofByte (a.graphics.read 1)

/-- A planar read fills the latches, then shows one plane or compares all with a colour. -/
def readColumn (a : Adapter) (off : UInt16) : UInt8 × Adapter :=
  let latches := a.planes.column off
  let v :=
    if a.graphicsMode.readMode = 0 then latches.get (Plane.ofByte (a.graphics.read 4))
    else colourMatch (.ofByte (a.graphics.read 2)) (.ofByte (a.graphics.read 7)) latches
  (v, { a with latches := latches })

/-- A planar write fills the latches first, unless they are the data to be written. -/
def writeColumn (a : Adapter) (off : UInt16) (value : UInt8) : Adapter :=
  let control := a.writeControl
  let mask := a.mapMask
  let latches := if control.mode = .latched then a.latches else a.planes.column off
  { a with
    latches := latches
    planes := a.planes.setColumn off mask fun p => control.result value p (latches.get p) }

/-- A host read; an address that nothing answers reads as all ones. -/
def hostRead (a : Adapter) (address : Nat) : UInt8 × Adapter :=
  match a.target address with
  | some (.single p off) => (a.planes.get p off, a)
  | some (.column off) => a.readColumn off
  | none => (0xFF, a)

/-- A host write; planes outside the map mask keep their bytes. -/
def hostWrite (a : Adapter) (address : Nat) (value : UInt8) : Adapter :=
  match a.target address with
  | some (.single p off) =>
    if a.mapMask.has p then { a with planes := a.planes.set p off value } else a
  | some (.column off) => a.writeColumn off value
  | none => a

end Adapter

end VgaFirmware
