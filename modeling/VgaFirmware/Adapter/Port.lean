/-!
# The port map

Which register a port address reaches. The controller of the display timing answers at a
monochrome and at a colour address alike.
-/

namespace VgaFirmware

/-- The registers behind the ports; some addresses answer reads and writes differently. -/
inductive Port where
  | attributeStream
  | attributeValue
  | miscWrite
  | miscRead
  | sequencerIndex
  | sequencerValue
  | graphicsIndex
  | graphicsValue
  | crtcIndex
  | crtcValue
  | inputStatus
  | pelMask
  | dacReadIndex
  | dacWriteIndex
  | dacValue
  | unmapped
  deriving DecidableEq, Repr

def Port.ofAddress (address : UInt16) : Port :=
  match address with
  | 0x3C0 => attributeStream
  | 0x3C1 => attributeValue
  | 0x3C2 => miscWrite
  | 0x3CC => miscRead
  | 0x3C4 => sequencerIndex
  | 0x3C5 => sequencerValue
  | 0x3CE => graphicsIndex
  | 0x3CF => graphicsValue
  | 0x3B4 | 0x3D4 => crtcIndex
  | 0x3B5 | 0x3D5 => crtcValue
  | 0x3BA | 0x3DA => inputStatus
  | 0x3C6 => pelMask
  | 0x3C7 => dacReadIndex
  | 0x3C8 => dacWriteIndex
  | 0x3C9 => dacValue
  | _ => unmapped

end VgaFirmware
