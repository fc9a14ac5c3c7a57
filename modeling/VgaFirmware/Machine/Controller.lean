/-!
# Controllers

The index ports of the three banks of indexed registers. The timing controller answers at one of
two bases.
-/

namespace VgaFirmware

inductive CrtcBase where
  | mono | colour
  deriving DecidableEq, Repr

namespace CrtcBase

def indexPort : CrtcBase → UInt16
  | mono => 0x3B4
  | colour => 0x3D4

/-- Reading it puts the attribute controller back to expecting an index. -/
def statusPort : CrtcBase → UInt16
  | mono => 0x3BA
  | colour => 0x3DA

/-- The miscellaneous output value that enables display memory and selects the base. -/
def miscOutput : CrtcBase → UInt8
  | mono => 0x02
  | colour => 0x03

end CrtcBase

inductive Controller where
  | sequencer
  | graphics
  | crtc (base : CrtcBase)
  deriving DecidableEq, Repr

namespace Controller

def indexPort : Controller → UInt16
  | sequencer => 0x3C4
  | graphics => 0x3CE
  | crtc base => base.indexPort

def valuePort (c : Controller) : UInt16 := c.indexPort + 1

end Controller

end VgaFirmware
