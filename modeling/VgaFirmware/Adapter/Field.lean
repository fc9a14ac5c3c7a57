import VgaFirmware.Adapter.Aperture

/-!
# Packed register fields

Three registers pack several settings into one byte: the sequencer's memory mode and the
graphics controller's mode and miscellaneous registers. Setting one field leaves the others as
they are.
-/

namespace VgaFirmware

/-- A byte with the bits of `mask` taken from `value`. -/
def putField (bits mask value : UInt8) : UInt8 := (bits &&& ~~~mask) ||| (value &&& mask)

def putFlag (bits mask : UInt8) (on : Bool) : UInt8 := putField bits mask (if on then mask else 0)

@[simp] theorem putField_and_mask (bits mask value : UInt8) :
    putField bits mask value &&& mask = value &&& mask := by
  apply UInt8.toBitVec_inj.mp
  ext i hi
  simp only [putField, UInt8.toBitVec_and, UInt8.toBitVec_or, UInt8.toBitVec_not,
    BitVec.getElem_and, BitVec.getElem_or, BitVec.getElem_not]
  cases bits.toBitVec[i] <;> cases mask.toBitVec[i] <;> cases value.toBitVec[i] <;> rfl

structure MemoryMode where
  bits : UInt8
  deriving DecidableEq, Repr

namespace MemoryMode

/-- Keeps the three defined bits of a byte. -/
def ofByte (b : UInt8) : MemoryMode := ⟨b &&& 0x0E⟩

/-- Overrides odd/even addressing. -/
def sequential (m : MemoryMode) : Bool := m.bits &&& 0x04 != 0

def chained (m : MemoryMode) : Bool := m.bits &&& 0x08 != 0

end MemoryMode

structure GraphicsMode where
  bits : UInt8
  deriving DecidableEq, Repr

namespace GraphicsMode

def writeMode (m : GraphicsMode) : UInt8 := m.bits &&& 0x03

def withWriteMode (m : GraphicsMode) (mode : UInt8) : GraphicsMode :=
  ⟨putField m.bits 0x03 mode⟩

def readMode (m : GraphicsMode) : UInt8 := (m.bits &&& 0x08) >>> 3

def oddEven (m : GraphicsMode) : Bool := m.bits &&& 0x10 != 0

def withOddEven (m : GraphicsMode) (on : Bool) : GraphicsMode := ⟨putFlag m.bits 0x10 on⟩

/-- How the planes are shifted out: in parallel (0), interleaved (1) or as 256 colours (2, 3). -/
def shiftRegister (m : GraphicsMode) : UInt8 := (m.bits &&& 0x60) >>> 5

def withShiftRegister (m : GraphicsMode) (shift : UInt8) : GraphicsMode :=
  ⟨putField m.bits 0x60 (shift <<< 5)⟩

end GraphicsMode

structure GraphicsMisc where
  bits : UInt8
  deriving DecidableEq, Repr

namespace GraphicsMisc

def graphics (m : GraphicsMisc) : Bool := m.bits &&& 0x01 != 0

def withGraphics (m : GraphicsMisc) (on : Bool) : GraphicsMisc := ⟨putFlag m.bits 0x01 on⟩

def chainOddEven (m : GraphicsMisc) : Bool := m.bits &&& 0x02 != 0

def withChainOddEven (m : GraphicsMisc) (on : Bool) : GraphicsMisc := ⟨putFlag m.bits 0x02 on⟩

def aperture (m : GraphicsMisc) : Aperture := .ofBits (m.bits >>> 2)

def withAperture (m : GraphicsMisc) (a : Aperture) : GraphicsMisc :=
  ⟨putField m.bits 0x0C (a.toBits <<< 2)⟩

theorem aperture_eq (m : GraphicsMisc) : m.aperture = .ofBits ((m.bits &&& 0x0C) >>> 2) := by
  have key : ∀ b : BitVec 8, (b >>> 2).toNat % 4 = ((b &&& 0x0C#8) >>> 2).toNat % 4 := by decide
  have h : (m.bits >>> 2).toNat % 4 = ((m.bits &&& 0x0C) >>> 2).toNat % 4 := key m.bits.toBitVec
  simp only [aperture, Aperture.ofBits, h]

@[simp] theorem aperture_withAperture (m : GraphicsMisc) (a : Aperture) :
    (m.withAperture a).aperture = a := by
  rw [aperture_eq, withAperture, putField_and_mask]
  cases a <;> rfl

end GraphicsMisc

end VgaFirmware
