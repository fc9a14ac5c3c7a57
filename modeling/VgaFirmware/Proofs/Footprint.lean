import VgaFirmware.Proofs.Window

/-!
# What an access reaches

Which places an access at an offset of the window reads or writes is a matter of the registers
and of the window (`SameRegisters.reads_iff`, `SameRegisters.writes_iff`). A load depends on no
other bytes (`SameRegisters.fst_load`). A store changes no others (`byteAt_store_of_ne`), and what it
puts into one depends on the byte that was there (`SameRegisters.byteAt_store`).
-/

namespace VgaFirmware

theorem planeMismatch_congr {colour care : PlaneSet} {p : Plane} {x y : UInt8}
    (h : care.has p = true → x = y) :
    planeMismatch colour care p x = planeMismatch colour care p y := by
  by_cases hp : care.has p = true
  · rw [h hp]
  · simp [planeMismatch, hp, spread]

/-- A comparison with a colour looks only at the planes that count. -/
theorem colourMatch_congr {colour care : PlaneSet} {x y : Latches}
    (h : ∀ p, care.has p = true → x.get p = y.get p) :
    colourMatch colour care x = colourMatch colour care y := by
  have hplane (p : Plane) : planeMismatch colour care p (x.get p) =
      planeMismatch colour care p (y.get p) := planeMismatch_congr (h p)
  simp only [colourMatch, hplane]

namespace Adapter

/-- The planes of a column that show in a planar read: one plane, or those that count when the
column is compared with a colour. -/
def readPlanes (a : Adapter) : PlaneSet :=
  if a.graphicsMode.readMode = 0 then .single (.ofByte (a.graphics.read 4))
  else .ofByte (a.graphics.read 7)

/-- The byte of a plane shows in a host read. -/
def Reads (a : Adapter) (address : Nat) (p : Plane) (off : UInt16) : Prop :=
  match a.target address with
  | some (.single q o) => p = q ∧ off = o
  | some (.column o) => a.readPlanes.has p = true ∧ off = o
  | none => False

/-- The byte of a plane is open to a host write. -/
def Writes (a : Adapter) (address : Nat) (p : Plane) (off : UInt16) : Prop :=
  match a.target address with
  | some (.single q o) => p = q ∧ off = o ∧ a.mapMask.has p = true
  | some (.column o) => a.mapMask.has p = true ∧ off = o
  | none => False

/-- A host write leaves every byte alone that is not open to it. -/
theorem get_hostWrite_of_not_writes {a : Adapter} {address : Nat} {p : Plane} {off : UInt16}
    (v : UInt8) (h : ¬ a.Writes address p off) :
    (a.hostWrite address v).planes.get p off = a.planes.get p off := by
  unfold Writes at h
  unfold hostWrite
  split
  · next q o htarget =>
    rw [htarget] at h
    split
    · next hmask =>
      rw [PlaneMemory.get_set, if_neg]
      rintro ⟨rfl, rfl⟩
      exact h ⟨rfl, rfl, hmask⟩
    · rfl
  · next o htarget =>
    rw [htarget] at h
    rw [writeColumn, PlaneMemory.get_setColumn, if_neg]
    rintro ⟨rfl, hmask⟩
    exact h ⟨hmask, rfl⟩
  · rfl

end Adapter

namespace Board

variable {bus : BusWidth} {moved : List UInt8} {b c : Board bus}

/-- The places whose bytes show in a load at an offset of the window. -/
def Reads (b : Board bus) (off : UInt16) : Place → Prop
  | .plane p o =>
    (Address.ofSegment b.window off).isDisplay = true ∧
      b.adapter.Reads (Address.ofSegment b.window off).val p o
  | .memory a => a = .ofSegment b.window off ∧ a.isDisplay = false

/-- The places that a store at an offset of the window may change. -/
def Writes (b : Board bus) (off : UInt16) : Place → Prop
  | .plane p o =>
    (Address.ofSegment b.window off).isDisplay = true ∧
      b.adapter.Writes (Address.ofSegment b.window off).val p o
  | .memory a => a = .ofSegment b.window off ∧ a.isDisplay = false

namespace SameRegisters

theorem symm (h : SameRegisters moved b c) : SameRegisters moved c b where
  window := h.window.symm
  sequencer i := (h.sequencer i).symm
  graphics i := (h.graphics i).symm
  crtc i hi := (h.crtc i hi).symm

theorem memoryMode (h : SameRegisters moved b c) :
    c.adapter.memoryMode = b.adapter.memoryMode := by
  rw [Adapter.memoryMode, h.sequencer, Adapter.memoryMode]

theorem graphicsMode (h : SameRegisters moved b c) :
    c.adapter.graphicsMode = b.adapter.graphicsMode := by
  rw [Adapter.graphicsMode, h.graphics, Adapter.graphicsMode]

theorem graphicsMisc (h : SameRegisters moved b c) :
    c.adapter.graphicsMisc = b.adapter.graphicsMisc := by
  rw [Adapter.graphicsMisc, h.graphics, Adapter.graphicsMisc]

theorem target (h : SameRegisters moved b c) (address : Nat) :
    c.adapter.target address = b.adapter.target address := by
  rw [Adapter.target, Adapter.addressing, h.memoryMode, h.graphicsMode, h.graphicsMisc]
  rfl

theorem readPlanes (h : SameRegisters moved b c) :
    c.adapter.readPlanes = b.adapter.readPlanes := by
  rw [Adapter.readPlanes, h.graphicsMode, h.graphics, h.graphics, Adapter.readPlanes]

theorem mapMask (h : SameRegisters moved b c) : c.adapter.mapMask = b.adapter.mapMask := by
  rw [Adapter.mapMask, h.sequencer, Adapter.mapMask]

theorem writeControl (h : SameRegisters moved b c) :
    c.adapter.writeControl = b.adapter.writeControl := by
  simp only [Adapter.writeControl, h.graphicsMode, h.graphics]

/-- The registers decide what a load shows. -/
theorem reads_iff (h : SameRegisters moved b c) (off : UInt16) (l : Place) :
    c.Reads off l ↔ b.Reads off l := by
  cases l <;> simp only [Reads, Adapter.Reads, h.window, h.target, h.readPlanes]

/-- The registers decide what a store may change. -/
theorem writes_iff (h : SameRegisters moved b c) (off : UInt16) (l : Place) :
    c.Writes off l ↔ b.Writes off l := by
  cases l <;> simp only [Writes, Adapter.Writes, h.window, h.target, h.mapMask]

/-- A load shows the bytes at the places that it reads, whatever the others hold. -/
theorem fst_load (h : SameRegisters moved b c) {off : UInt16}
    (hbytes : ∀ l, b.Reads off l → c.byteAt l = b.byteAt l) :
    (Backend.load c off).1 = (Backend.load b off).1 := by
  change (c.read (.ofSegment c.window off)).1 = (b.read (.ofSegment b.window off)).1
  rw [h.window]
  unfold Board.read
  split
  · next hdisplay =>
    have hplane (p : Plane) (o : UInt16)
        (hp : b.adapter.Reads (Address.ofSegment b.window off).val p o) :
        c.adapter.planes.get p o = b.adapter.planes.get p o := hbytes (.plane p o) ⟨hdisplay, hp⟩
    simp only [fst_queryAdapter, Adapter.hostRead, h.target]
    simp only [Adapter.Reads] at hplane
    split
    · next q o htarget =>
      rw [htarget] at hplane
      exact hplane q o ⟨rfl, rfl⟩
    · next o htarget =>
      rw [htarget] at hplane
      simp only [Adapter.readPlanes] at hplane
      simp only [Adapter.readColumn]
      rw [h.graphicsMode]
      simp only [h.graphics]
      split
      · next hmode =>
        rw [PlaneMemory.get_column, PlaneMemory.get_column]
        refine hplane _ o ⟨?_, rfl⟩
        rw [if_pos hmode, PlaneSet.has_single, decide_eq_true rfl]
      · next hmode =>
        refine colourMatch_congr fun p hp => ?_
        rw [PlaneMemory.get_column, PlaneMemory.get_column]
        refine hplane p o ⟨?_, rfl⟩
        rw [if_neg hmode, hp]
    · rfl
  · next hdisplay =>
    exact hbytes (.memory (.ofSegment b.window off)) ⟨rfl, by simpa using hdisplay⟩

/-- A store puts the same byte into a place that it writes if the same was there before, unless
it copies the latches. -/
theorem byteAt_store (h : SameRegisters moved b c)
    (hmode : b.adapter.writeControl.mode ≠ .latched) {off : UInt16} {l : Place}
    (hl : b.Writes off l) (hbyte : c.byteAt l = b.byteAt l) (v : UInt8) :
    (Backend.store c off v).byteAt l = (Backend.store b off v).byteAt l := by
  change (c.write (.ofSegment c.window off) v).byteAt l =
    (b.write (.ofSegment b.window off) v).byteAt l
  rw [h.window]
  cases l with
  | memory a =>
    obtain ⟨rfl, hdisplay⟩ := hl
    simp only [Board.write, hdisplay, Bool.false_eq_true, if_false, byteAt_setRam,
      Function.update_self]
  | plane p o =>
    obtain ⟨hdisplay, hwrites⟩ := hl
    have hplane : c.adapter.planes.get p o = b.adapter.planes.get p o := hbyte
    simp only [Board.write, hdisplay, if_true, Board.byteAt, adapter_updateAdapter,
      Adapter.hostWrite, h.target, h.mapMask]
    unfold Adapter.Writes at hwrites
    split
    · next q o' htarget =>
      rw [htarget] at hwrites
      obtain ⟨rfl, rfl, hmask⟩ := hwrites
      simp only [hmask, if_true, PlaneMemory.get_set, and_self]
    · next o' htarget =>
      rw [htarget] at hwrites
      obtain ⟨hmask, rfl⟩ := hwrites
      simp only [Adapter.writeColumn, h.writeControl, h.mapMask, if_neg hmode,
        PlaneMemory.get_setColumn, hmask, and_self, if_true, PlaneMemory.get_column, hplane]
    · next htarget =>
      rw [htarget] at hwrites
      exact hwrites.elim

end SameRegisters

/-- A store leaves all places alone that it does not write. -/
theorem byteAt_store_of_ne {off : UInt16} (v : UInt8) {l : Place} (hl : ¬ b.Writes off l) :
    (Backend.store b off v).byteAt l = b.byteAt l := by
  change (b.write (.ofSegment b.window off) v).byteAt l = b.byteAt l
  unfold Board.write
  split
  · next hdisplay =>
    cases l with
    | memory a => rfl
    | plane p o =>
      simp only [Board.byteAt, adapter_updateAdapter]
      exact Adapter.get_hostWrite_of_not_writes v fun hw => hl ⟨hdisplay, hw⟩
  · next hdisplay =>
    have hdisplay : (Address.ofSegment b.window off).isDisplay = false := by simpa using hdisplay
    rw [byteAt_setRam, Function.update_of_ne]
    rintro rfl
    exact hl ⟨rfl, hdisplay⟩

end Board

end VgaFirmware
