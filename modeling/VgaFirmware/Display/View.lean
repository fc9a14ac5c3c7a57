import VgaFirmware.Adapter.Field

/-!
# Views of display memory

Display memory is reached through one of two views. Each is a setting of five registers and a
position of the memory window, which begins where the page on view begins.
-/

namespace VgaFirmware

/-- A way of reaching display memory. -/
inductive View where
  /-- Planes 0 and 1 in turn: characters at even offsets, attributes at odd ones. -/
  | cells
  /-- A write to an offset reaches all planes of a set there, and a read one plane. -/
  | planes (write : MapMask) (read : UInt8)
  deriving DecidableEq, Repr

structure ViewRegisters where
  mapMask : UInt8
  memoryMode : UInt8
  readMap : UInt8
  graphicsMode : UInt8
  graphicsMisc : UInt8
  deriving DecidableEq, Repr

namespace View

def plane (p : Plane) : View := planes (.single p) (UInt8.ofNat p.val)

/-- The register values of a view; settings unrelated to it are taken from `misc`. -/
def registers (v : View) (misc : GraphicsMisc) : ViewRegisters :=
  match v with
  | cells =>
    { mapMask := 0x03
      memoryMode := 0x02
      readMap := 0
      graphicsMode := (GraphicsMode.mk 0).withOddEven true |>.bits
      graphicsMisc := (misc.withChainOddEven true).withAperture .colourText |>.bits }
  | planes write read =>
    { mapMask := write.bits
      memoryMode := 0x06
      readMap := read &&& 0x03
      graphicsMode := 0
      graphicsMisc := (misc.withChainOddEven false).withAperture .full |>.bits }

/-- Where the window stands for a page that starts at `start` in the cells view. One cell is two
bytes of that view and a single byte of a plane. -/
def segment (v : View) (start : UInt16) : UInt16 :=
  match v with
  | cells => Aperture.colourText.segment + (start >>> 4)
  | planes _ _ => Aperture.full.segment + (start >>> 5)

end View

end VgaFirmware
