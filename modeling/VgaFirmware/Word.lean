/-!
# Words as pairs of bytes

A sixteen-bit word is a low and a high byte. Splitting and joining are inverse to each other, so
a word sent to an index port carries exactly one index and one value.
-/

namespace VgaFirmware.Word

/-- The low byte, the first of the two on a byte-wide bus. -/
def low (w : UInt16) : UInt8 := w.toUInt8

def high (w : UInt16) : UInt8 := (w >>> 8).toUInt8

def ofBytes (low high : UInt8) : UInt16 := low.toUInt16 + high.toUInt16 * 256

theorem toNat_low (w : UInt16) : (low w).toNat = w.toNat % 256 := by simp [low]

theorem toNat_high (w : UInt16) : (high w).toNat = w.toNat / 256 := by
  have := w.toNat_lt
  simp [high, Nat.shiftRight_eq_div_pow]
  omega

theorem toNat_ofBytes (l h : UInt8) : (ofBytes l h).toNat = l.toNat + 256 * h.toNat := by
  have := l.toNat_lt
  have := h.toNat_lt
  simp [ofBytes]
  omega

@[simp] theorem ofBytes_low_high (w : UInt16) : ofBytes (low w) (high w) = w := by
  apply UInt16.toNat_inj.mp
  rw [toNat_ofBytes, toNat_low, toNat_high]
  omega

@[simp] theorem low_ofBytes (l h : UInt8) : low (ofBytes l h) = l := by
  apply UInt8.toNat_inj.mp
  have := l.toNat_lt
  rw [toNat_low, toNat_ofBytes]
  omega

@[simp] theorem high_ofBytes (l h : UInt8) : high (ofBytes l h) = h := by
  apply UInt8.toNat_inj.mp
  have := l.toNat_lt
  rw [toNat_high, toNat_ofBytes]
  omega

end VgaFirmware.Word
