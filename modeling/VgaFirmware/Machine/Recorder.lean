import VgaFirmware.Adapter.RegisterBank
import VgaFirmware.Machine.Backend
import VgaFirmware.Machine.Ram

/-!
# A board without an adapter

Register banks that keep what is written to them, behind the same ports, and memory at every
address. It shows which accesses are made when nothing reacts to them.
-/

namespace VgaFirmware

/-- Three register banks and memory. -/
structure Recorder where
  sequencer : RegisterBank 8
  graphics : RegisterBank 16
  crtc : RegisterBank 32
  window : UInt16
  ram : Ram

namespace Recorder

def powerOn : Recorder := ⟨.blank 8, .blank 16, .blank 32, 0, .blank⟩

/-- An index counts only as far as its bank reaches. -/
def readPort (r : Recorder) (port : UInt16) : UInt8 :=
  match port with
  | 0x3C5 => r.sequencer.read (r.sequencer.index &&& 0x07)
  | 0x3CF => r.graphics.read (r.graphics.index &&& 0x0F)
  | 0x3B5 | 0x3D5 => r.crtc.read (r.crtc.index &&& 0x1F)
  | _ => 0

def writePort (r : Recorder) (port : UInt16) (v : UInt8) : Recorder :=
  match port with
  | 0x3C4 => { r with sequencer := r.sequencer.select v }
  | 0x3C5 => { r with sequencer := r.sequencer.write (r.sequencer.index &&& 0x07) v }
  | 0x3CE => { r with graphics := r.graphics.select v }
  | 0x3CF => { r with graphics := r.graphics.write (r.graphics.index &&& 0x0F) v }
  | 0x3B4 | 0x3D4 => { r with crtc := r.crtc.select v }
  | 0x3B5 | 0x3D5 => { r with crtc := r.crtc.write (r.crtc.index &&& 0x1F) v }
  | _ => r

def updateRam (r : Recorder) (f : Ram → Ram) : Recorder :=
  match r with
  | ⟨sequencer, graphics, crtc, window, ram⟩ => ⟨sequencer, graphics, crtc, window, f ram⟩

instance : Backend Recorder where
  busWidth := .word
  portIn r port := (r.readPort port, r)
  portOut r port v := r.writePort port v
  portOutWord r port w := (r.writePort port (Word.low w)).writePort (port + 1) (Word.high w)
  window r := r.window
  setWindow r segment := { r with window := segment }
  load r off := (r.ram.get (.ofSegment r.window off), r)
  store r off v :=
    let a := Address.ofSegment r.window off
    r.updateRam (·.set a v)
  fetch r a := (r.ram.get (.ofLinear a), r)

end Recorder

end VgaFirmware
