/-!
# Saturating bytes

Coordinates and counts are bytes that stop at their ends instead of wrapping.
-/

namespace VgaFirmware.Byte

/-- One more, staying at 255. -/
def up (b : UInt8) : UInt8 := UInt8.ofNat (min (b.toNat + 1) 255)

/-- One less, staying at 0. -/
def down (b : UInt8) : UInt8 := UInt8.ofNat (b.toNat - 1)

def least (a b : UInt8) : UInt8 := UInt8.ofNat (min a.toNat b.toNat)

theorem toNat_up (b : UInt8) : (up b).toNat = min (b.toNat + 1) 255 := by
  simp only [up, UInt8.toNat_ofNat']
  omega

theorem toNat_down (b : UInt8) : (down b).toNat = b.toNat - 1 := by
  have := b.toNat_lt
  simp only [down, UInt8.toNat_ofNat']
  omega

theorem toNat_least (a b : UInt8) : (least a b).toNat = min a.toNat b.toNat := by
  have := a.toNat_lt
  simp only [least, UInt8.toNat_ofNat']
  omega

end VgaFirmware.Byte
