import VgaFirmware.Adapter.PlaneMemory
import VgaFirmware.Adapter.Field

/-!
# The planar datapath

How one host byte becomes the bytes of up to four planes, and how the latched bytes of four
planes become one host byte. Nothing here depends on where the bytes lie.
-/

namespace VgaFirmware

def spread (on : Bool) : UInt8 := if on then 0xFF else 0x00

/-- The bits of `value` where the mask is set, those of `old` elsewhere. -/
def blend (mask value old : UInt8) : UInt8 := (value &&& mask) ||| (old &&& ~~~mask)

/-- How written data meets the latched byte. -/
inductive RasterOp where
  | replace | and | or | xor
  deriving DecidableEq, Repr

namespace RasterOp

def ofBits (b : UInt8) : RasterOp :=
  match b.toNat % 4 with
  | 0 => replace
  | 1 => and
  | 2 => or
  | _ => xor

def apply (op : RasterOp) (data latch : UInt8) : UInt8 :=
  match op with
  | replace => data
  | and => data &&& latch
  | or => data ||| latch
  | xor => data ^^^ latch

end RasterOp

/-- Where the data of a planar write comes from. -/
inductive WriteMode where
  /-- The host byte, or the set/reset colour in the planes that enable it. -/
  | hostData
  /-- The latches. -/
  | latched
  /-- The low bits of the host byte, as a colour. -/
  | hostColour
  /-- The set/reset colour, through a mask that the host byte narrows. -/
  | maskedColour
  deriving DecidableEq, Repr

def WriteMode.ofBits (b : UInt8) : WriteMode :=
  match b.toNat % 4 with
  | 0 => hostData
  | 1 => latched
  | 2 => hostColour
  | _ => maskedColour

structure WriteControl where
  mode : WriteMode
  op : RasterOp
  rotate : Nat
  bitMask : UInt8
  setReset : PlaneSet
  enableSetReset : PlaneSet
  deriving DecidableEq, Repr

namespace WriteControl

def rotated (c : WriteControl) (value : UInt8) : UInt8 := ⟨value.toBitVec.rotateRight c.rotate⟩

/-- The byte that a plane receives for a host byte, given its latched byte. -/
def result (c : WriteControl) (value : UInt8) (p : Plane) (latch : UInt8) : UInt8 :=
  match c.mode with
  | .hostData =>
    let data :=
      if c.enableSetReset.has p then spread (c.setReset.has p) else c.rotated value
    blend c.bitMask (c.op.apply data latch) latch
  | .latched => latch
  | .hostColour =>
    blend c.bitMask (c.op.apply (spread ((PlaneSet.ofByte value).has p)) latch) latch
  | .maskedColour =>
    blend (c.bitMask &&& c.rotated value) (c.op.apply (spread (c.setReset.has p)) latch) latch

end WriteControl

/-- The bits of one plane that differ from a colour, if the plane counts. -/
def planeMismatch (colour care : PlaneSet) (p : Plane) (latch : UInt8) : UInt8 :=
  (latch ^^^ spread (colour.has p)) &&& spread (care.has p)

/-- The pixels whose planes, those of `care`, all hold the colour. -/
def colourMatch (colour care : PlaneSet) (latches : Latches) : UInt8 :=
  ~~~(Plane.all.foldl (fun bits p => bits ||| planeMismatch colour care p (latches.get p)) 0)

end VgaFirmware
