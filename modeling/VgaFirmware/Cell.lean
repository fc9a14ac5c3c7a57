import VgaFirmware.Word

/-!
# Text cells

A character and its attribute. As a word of the cells view, the character comes first.
-/

namespace VgaFirmware

structure Cell where
  chr : UInt8
  attr : UInt8
  deriving DecidableEq, Repr

namespace Cell

def toWord (c : Cell) : UInt16 := Word.ofBytes c.chr c.attr

def ofWord (w : UInt16) : Cell := ⟨Word.low w, Word.high w⟩

@[simp] theorem ofWord_toWord (c : Cell) : ofWord c.toWord = c := by
  simp [ofWord, toWord]

end Cell

end VgaFirmware
