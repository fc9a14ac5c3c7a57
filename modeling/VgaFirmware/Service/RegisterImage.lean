import VgaFirmware.Word

/-!
# The caller's registers

The six registers that carry arguments and results. Four of them are also reached by halves.
-/

namespace VgaFirmware

structure RegisterImage where
  ax : UInt16
  bx : UInt16
  cx : UInt16
  dx : UInt16
  bp : UInt16
  es : UInt16
  deriving DecidableEq, Repr

inductive Half where
  | ah | al | bh | bl | ch | cl | dh | dl
  deriving DecidableEq, Repr

namespace RegisterImage

def get (r : RegisterImage) : Half → UInt8
  | .ah => Word.high r.ax
  | .al => Word.low r.ax
  | .bh => Word.high r.bx
  | .bl => Word.low r.bx
  | .ch => Word.high r.cx
  | .cl => Word.low r.cx
  | .dh => Word.high r.dx
  | .dl => Word.low r.dx

def set (r : RegisterImage) (h : Half) (v : UInt8) : RegisterImage :=
  match h with
  | .ah => { r with ax := Word.ofBytes (Word.low r.ax) v }
  | .al => { r with ax := Word.ofBytes v (Word.high r.ax) }
  | .bh => { r with bx := Word.ofBytes (Word.low r.bx) v }
  | .bl => { r with bx := Word.ofBytes v (Word.high r.bx) }
  | .ch => { r with cx := Word.ofBytes (Word.low r.cx) v }
  | .cl => { r with cx := Word.ofBytes v (Word.high r.cx) }
  | .dh => { r with dx := Word.ofBytes (Word.low r.dx) v }
  | .dl => { r with dx := Word.ofBytes v (Word.high r.dx) }

@[simp] theorem get_set_self (r : RegisterImage) (h : Half) (v : UInt8) :
    (r.set h v).get h = v := by
  cases h <;> simp [get, set]

theorem get_set_ne (r : RegisterImage) {h k : Half} (v : UInt8) (hne : k ≠ h) :
    (r.set h v).get k = r.get k := by
  cases h <;> cases k <;> simp_all [get, set]

end RegisterImage

end VgaFirmware
