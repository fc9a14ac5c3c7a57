import VgaFirmware.Proofs.WritePath

/-!
# The two views

What each view shows at an offset of the window: the view of a plane all of that plane
(`shows_plane`), the cells view planes 0 and 1 in turn (`shows_cells`). Behind the aperture of the
cells view there are 32 KiB. Where the page starts far into it, the rest of the window lies over
the caller's memory.
-/

namespace VgaFirmware

namespace Board

variable {bus : BusWidth} {b c : Board bus} {start : UInt16}

/-! ## The view of a plane -/

/-- Offset in the planes at which the window stands over a page. -/
def planeBase (start : UInt16) : UInt16 := UInt16.ofNat (16 * (start.toNat / 32))

/-- Offset in the planes of an offset in a planes view. -/
theorem planeBase_add (start off : UInt16) :
    planeBase start + off = UInt16.ofNat (16 * (start.toNat / 32) + off.toNat) := by
  rw [planeBase, UInt16.ofNat_add, UInt16.ofNat_toNat]

theorem toNat_segment_planes (write : MapMask) (read : UInt8) (start : UInt16) :
    ((View.planes write read).segment start).toNat = 0xA000 + start.toNat / 32 := by
  have := start.toNat_lt
  simp [View.segment, Aperture.segment, Nat.shiftRight_eq_div_pow]
  omega

/-- Every offset of a planes view lies in the adapter's address range. -/
theorem ofSegment_planes (write : MapMask) (read : UInt8) (start off : UInt16) :
    (Address.ofSegment ((View.planes write read).segment start) off).val =
      0xA0000 + (16 * (start.toNat / 32) + off.toNat) := by
  have := start.toNat_lt
  have := off.toNat_lt
  simp only [Address.ofSegment, toNat_segment_planes]
  omega

theorem isDisplay_planes (write : MapMask) (read : UInt8) (start off : UInt16) :
    (Address.ofSegment ((View.planes write read).segment start) off).isDisplay = true := by
  have h := ofSegment_planes write read start off
  have := start.toNat_lt
  have := off.toNat_lt
  simp only [Address.isDisplay, h, Bool.and_eq_true, decide_eq_true_eq]
  omega

/-- The window lies over the adapter, all of it. -/
def Shielded (b : Board bus) : Prop :=
  ∀ off, (Address.ofSegment b.window off).isDisplay = true

theorem Viewing.shielded {write : MapMask} {read : UInt8}
    (h : b.Viewing (.planes write read) start) : b.Shielded := by
  intro off
  rw [h.window]
  exact isDisplay_planes write read start off

theorem shielded_openView (b : Board bus) (write : MapMask) (read : UInt8) (start : UInt16) :
    (b.openView (.planes write read) start).Shielded :=
  (b.viewing_openView _ start).shielded

/-- Through a window over the adapter nobody reaches the caller's memory. -/
theorem Shielded.accesses (hb : b.Shielded) (h : Backend.Accesses b c) :
    c.Shielded ∧ c.ram = b.ram := by
  refine h.keeps (P := fun d => d.Shielded ∧ d.ram = b.ram) ?_ ?_ ?_ ⟨hb, rfl⟩
  · rintro d off ⟨hd, ih⟩
    refine ⟨fun o => ?_, (d.sameMemory_read _).ram.trans ih⟩
    rw [show (Backend.load d off).2.window = d.window from (d.sameRegisters_read _).window]
    exact hd o
  · rintro d off x ⟨hd, ih⟩
    refine ⟨fun o => ?_, ?_⟩
    · rw [show (Backend.store d off x).window = d.window from (d.sameRegisters_write _ x).window]
      exact hd o
    · refine Eq.trans ?_ ih
      change (d.write _ x).ram = d.ram
      rw [Board.write, if_pos (hd off), ram_updateAdapter]
  · rintro d a ⟨hd, ih⟩
    refine ⟨fun o => ?_, (d.sameMemory_read _).ram.trans ih⟩
    rw [show (Backend.fetch d a).2.window = d.window from (d.sameRegisters_read _).window]
    exact hd o

variable {write : MapMask} {read : UInt8}

theorem Viewing.has_mapMask_planes (h : b.Viewing (.planes write read) start) (p : Plane) :
    b.adapter.mapMask.has p = write.has p := by
  obtain ⟨misc, hmisc⟩ := h.registers
  have hmask : b.adapter.sequencer.read 2 = write.bits :=
    congrArg ViewRegisters.mapMask hmisc
  rw [Adapter.mapMask, hmask, MapMask.has, MapMask.planes]

theorem Viewing.graphicsMode_planes (h : b.Viewing (.planes write read) start) :
    b.adapter.graphicsMode = ⟨0⟩ := by
  obtain ⟨misc, hmisc⟩ := h.registers
  exact congrArg (GraphicsMode.mk ·.graphicsMode) hmisc

theorem Viewing.addressing_planes (h : b.Viewing (.planes write read) start) :
    b.adapter.addressing = .planar := by
  obtain ⟨misc, hmisc⟩ := h.registers
  have hmode : b.adapter.memoryMode = ⟨0x06⟩ := congrArg (MemoryMode.mk ·.memoryMode) hmisc
  rw [Adapter.addressing, hmode, h.graphicsMode_planes]
  rfl

theorem Viewing.aperture_planes (h : b.Viewing (.planes write read) start) :
    b.adapter.graphicsMisc.aperture = .full := by
  obtain ⟨misc, hmisc⟩ := h.registers
  have hbits : b.adapter.graphicsMisc = (misc.withChainOddEven false).withAperture .full :=
    congrArg (GraphicsMisc.mk ·.graphicsMisc) hmisc
  rw [hbits, GraphicsMisc.aperture_withAperture]

/-- In a planes view an offset reaches a column of the planes. -/
theorem Viewing.target_planes (h : b.Viewing (.planes write read) start) (off : UInt16) :
    b.adapter.target (Address.ofSegment b.window off).val =
      some (.column (planeBase start + off)) := by
  have hoff : Aperture.full.offset? (Address.ofSegment b.window off).val =
      some (16 * (start.toNat / 32) + off.toNat) := by
    have := start.toNat_lt
    have := off.toNat_lt
    refine Aperture.offset?_eq_some.mpr ⟨?_, ?_⟩
    · rw [h.window, ofSegment_planes]
      rfl
    · simp only [Aperture.size]
      omega
  rw [Adapter.target, h.aperture_planes, h.addressing_planes, hoff, Option.map_some,
    Addressing.target, planeBase_add]

theorem Viewing.writeControl_planes (h : b.Viewing (.planes write read) start) :
    b.adapter.writeControl = b.adapter.writePath := by
  have hmode : b.adapter.writeControl.mode = .hostData := by
    rw [Adapter.writeControl, h.graphicsMode_planes]
    rfl
  rw [Adapter.writePath, ← hmode]

/-- In a planes view a store sends its byte through the write path, to every plane that is open
for writing. -/
theorem Viewing.get_store (h : b.Viewing (.planes write read) start) (off : UInt16) (x : UInt8)
    (p : Plane) (o : UInt16) :
    (Backend.store b off x).adapter.planes.get p o =
      if o = planeBase start + off ∧ write.has p then
        b.adapter.writePath.result x p (b.adapter.planes.get p o)
      else b.adapter.planes.get p o := by
  have hshown : (Address.ofSegment b.window off).isDisplay = true := by
    rw [h.window]
    exact isDisplay_planes write read start off
  have hmode : ¬ b.adapter.writePath.mode = .latched := by
    rw [Adapter.mode_writePath]
    decide
  change (b.write (.ofSegment b.window off) x).adapter.planes.get p o = _
  rw [Board.write, if_pos hshown, adapter_updateAdapter, Adapter.hostWrite, h.target_planes off]
  simp only [Adapter.writeColumn, h.has_mapMask_planes, h.writeControl_planes, if_neg hmode,
    PlaneMemory.get_setColumn, PlaneMemory.get_column]
  split
  · next hreached => rw [hreached.1]
  · rfl

/-- In a planes view a load shows the byte of the plane that is open for reading. -/
theorem Viewing.fst_read_planes (h : b.Viewing (.planes write read) start) (off : UInt16) :
    (b.read (.ofSegment b.window off)).1 =
      b.byteAt (.plane (.ofByte (read &&& 0x03)) (planeBase start + off)) := by
  obtain ⟨misc, hmisc⟩ := h.registers
  have hmap : b.adapter.graphics.read 4 = read &&& 0x03 := congrArg ViewRegisters.readMap hmisc
  have hshown : (Address.ofSegment b.window off).isDisplay = true := by
    rw [h.window]
    exact isDisplay_planes write read start off
  have hmode : b.adapter.graphicsMode.readMode = 0 := by
    rw [h.graphicsMode_planes]
    rfl
  rw [Board.read, if_pos hshown, fst_queryAdapter, Adapter.hostRead, h.target_planes off]
  simp only [Adapter.readColumn, hmode, if_true, hmap, PlaneMemory.get_column, byteAt]

/-- A view of the page at `start` is open, and host bytes arrive in the planes as they are. -/
structure Relaying (v : View) (start : UInt16) (b : Board bus) : Prop
    extends Viewing v start b where
  passes : ∀ p, b.adapter.writePath.Passes p

theorem Showing.relaying {v : View} (h : b.Showing v start) : b.Relaying v start where
  toViewing := h.toViewing
  passes := h.plain.passes

theorem relaying_openView (h : ∀ p, b.adapter.writePath.Passes p) (v : View) (start : UInt16) :
    (b.openView v start).Relaying v start where
  toViewing := b.viewing_openView v start
  passes p := by
    rw [(b.inside_openView v start).writePath]
    exact h p

theorem SameRegisters.relaying {v : View} (h : SameRegisters [] b c) (hb : b.Relaying v start) :
    c.Relaying v start where
  toViewing := h.viewing hb.toViewing
  passes p := by
    rw [h.inside.writePath]
    exact hb.passes p

/-- In a planes view a store puts its byte into every plane that is open for writing. -/
theorem Relaying.byteAt_write_planes (h : b.Relaying (.planes write read) start) (off : UInt16)
    (x : UInt8) (l : Place) :
    (b.write (.ofSegment b.window off) x).byteAt l =
      if ∃ p, write.has p ∧ l = .plane p (planeBase start + off) then x else b.byteAt l := by
  cases l with
  | plane q o =>
    have hreached : (∃ p, write.has p ∧ Place.plane q o = .plane p (planeBase start + off)) ↔
        o = planeBase start + off ∧ write.has q := by
      constructor
      · rintro ⟨p, hp, e⟩
        obtain ⟨rfl, rfl⟩ := Place.plane.inj e
        exact ⟨rfl, hp⟩
      · rintro ⟨rfl, hq⟩
        exact ⟨q, hq, rfl⟩
    have hstore := h.get_store off x q o
    rw [(h.passes q).result b.adapter.mode_writePath] at hstore
    exact hstore.trans (if_congr hreached.symm rfl rfl)
  | memory a =>
    have hshown : (Address.ofSegment b.window off).isDisplay = true := by
      rw [h.window]
      exact isDisplay_planes write read start off
    rw [Board.write, if_pos hshown]
    simp [byteAt]

/-- Places of a plane, from a page on. -/
def planePlace (p : Plane) (start off : UInt16) : Place := .plane p (planeBase start + off)

/-- The view of a plane shows that plane, all of it, if host bytes arrive there as they are. -/
theorem shows_plane_of_relaying (p : Plane) (start : UInt16) :
    Backend.Shows (Relaying (.plane p) start : Board bus → Prop) byteAt (planePlace p start) := by
  refine shows_of_read_write SameRegisters.relaying ?_ ?_ ?_
  · intro x y hxy
    simpa [planePlace] using hxy
  · intro b off h
    have hp : ∀ p : Plane, Plane.ofByte (UInt8.ofNat p.val &&& 0x03) = p := by decide
    rw [h.fst_read_planes off, hp]
    rfl
  · intro b off x h
    funext l
    rw [h.byteAt_write_planes off x l, Function.update_apply]
    refine if_congr ?_ rfl rfl
    simp [planePlace]

theorem shows_plane (p : Plane) (start : UInt16) :
    Backend.Shows (Showing (.plane p) start : Board bus → Prop) byteAt (planePlace p start) :=
  (shows_plane_of_relaying p start).restrict Showing.relaying
    fun hc h => (sameRegisters_of_accesses hc).showing h

/-! ## The cells view -/

/-- Distance of an offset of the cells view from the beginning of the aperture. -/
def cellOffset (start off : UInt16) : Nat := 16 * (start.toNat / 16) + off.toNat

/-- What the cells view shows at an offset. Behind the aperture lie 32 KiB; from there on the
window runs into the caller's memory. -/
def cellPlace (start off : UInt16) : Place :=
  if cellOffset start off < 0x8000 then
    .plane ⟨cellOffset start off % 2, by omega⟩ (UInt16.ofNat (cellOffset start off / 2))
  else .memory (.ofSegment (View.cells.segment start) off)

theorem ofSegment_cells (start off : UInt16) :
    (Address.ofSegment (View.cells.segment start) off).val =
      0xB8000 + cellOffset start off := by
  have := start.toNat_lt
  have := off.toNat_lt
  have hsegment : (View.cells.segment start).toNat = 0xB800 + start.toNat / 16 := by
    simp [View.segment, Aperture.segment, Nat.shiftRight_eq_div_pow]
    omega
  simp only [Address.ofSegment, hsegment, cellOffset]
  omega

theorem isDisplay_cells (start off : UInt16) :
    (Address.ofSegment (View.cells.segment start) off).isDisplay =
      decide (cellOffset start off < 0x8000) := by
  have h := ofSegment_cells start off
  rw [Bool.eq_iff_iff]
  simp only [Address.isDisplay, h, Bool.and_eq_true, decide_eq_true_eq]
  omega

theorem Viewing.target_cells (h : b.Viewing .cells start) {off : UInt16}
    (hoff : cellOffset start off < 0x8000) :
    b.adapter.target (Address.ofSegment b.window off).val =
      some (Addressing.oddEven.target (cellOffset start off)) := by
  obtain ⟨misc, hmisc⟩ := h.registers
  have hmode : b.adapter.memoryMode = ⟨0x02⟩ := congrArg (MemoryMode.mk ·.memoryMode) hmisc
  have hgraphics : b.adapter.graphicsMode = (GraphicsMode.mk 0).withOddEven true :=
    congrArg (GraphicsMode.mk ·.graphicsMode) hmisc
  have haddressing : b.adapter.addressing = .oddEven := by
    rw [Adapter.addressing, hmode, hgraphics]
    rfl
  have hbits : b.adapter.graphicsMisc = (misc.withChainOddEven true).withAperture .colourText :=
    congrArg (GraphicsMisc.mk ·.graphicsMisc) hmisc
  have hoffset : Aperture.colourText.offset? (Address.ofSegment b.window off).val =
      some (cellOffset start off) := by
    refine Aperture.offset?_eq_some.mpr ⟨?_, hoff⟩
    rw [h.window, ofSegment_cells]
    rfl
  rw [Adapter.target, hbits, GraphicsMisc.aperture_withAperture, haddressing, hoffset,
    Option.map_some]

theorem Viewing.mapMask_cells (h : b.Viewing .cells start) :
    b.adapter.mapMask = .ofByte 0x03 := by
  obtain ⟨misc, hmisc⟩ := h.registers
  have hmask : b.adapter.sequencer.read 2 = 0x03 := congrArg ViewRegisters.mapMask hmisc
  rw [Adapter.mapMask, hmask]

theorem Viewing.has_mapMask_cells (h : b.Viewing .cells start) {p : Plane} (hp : p.val < 2) :
    b.adapter.mapMask.has p = true := by
  rw [h.mapMask_cells]
  revert hp p
  decide

theorem cellPlace_of_lt {off : UInt16} (h : cellOffset start off < 0x8000) :
    cellPlace start off =
      .plane ⟨cellOffset start off % 2, by omega⟩ (UInt16.ofNat (cellOffset start off / 2)) :=
  if_pos h

theorem cellPlace_of_le {off : UInt16} (h : 0x8000 ≤ cellOffset start off) :
    cellPlace start off = .memory (.ofSegment (View.cells.segment start) off) :=
  if_neg (by omega)

theorem cellPlace_injective (start : UInt16) : Function.Injective (cellPlace start) := by
  intro x y hxy
  have key : cellOffset start x = cellOffset start y := by
    unfold cellPlace at hxy
    split at hxy
    · split at hxy
      · obtain ⟨hp, hoff⟩ := Place.plane.inj hxy
        have hp := congrArg Fin.val hp
        have hoff := congrArg UInt16.toNat hoff
        simp only [UInt16.toNat_ofNat'] at hp hoff
        omega
      · cases hxy
    · split at hxy
      · cases hxy
      · have haddress := congrArg Fin.val (Place.memory.inj hxy)
        rw [ofSegment_cells, ofSegment_cells] at haddress
        omega
  unfold cellOffset at key
  exact UInt16.toNat_inj.mp (by omega)

/-- The cells view shows planes 0 and 1 in turn, and then memory, whatever the write path. -/
theorem shows_cells_of_viewing (start : UInt16) :
    Backend.Shows (Viewing .cells start : Board bus → Prop) byteAt (cellPlace start) := by
  refine shows_of_read_write SameRegisters.viewing (cellPlace_injective start) ?_ ?_
  · intro b off h
    by_cases hoff : cellOffset start off < 0x8000
    · have hshown : (Address.ofSegment b.window off).isDisplay = true := by
        rw [h.window, isDisplay_cells, decide_eq_true hoff]
      rw [cellPlace_of_lt hoff, Board.read, if_pos hshown, fst_queryAdapter, Adapter.hostRead,
        h.target_cells hoff]
      rfl
    · have hhidden : ¬ (Address.ofSegment b.window off).isDisplay = true := by
        rw [h.window, isDisplay_cells, decide_eq_false hoff]
        decide
      rw [cellPlace_of_le (by omega), Board.read, if_neg hhidden, h.window]
      rfl
  · intro b off x h
    by_cases hoff : cellOffset start off < 0x8000
    · have hshown : (Address.ofSegment b.window off).isDisplay = true := by
        rw [h.window, isDisplay_cells, decide_eq_true hoff]
      have hmask : b.adapter.mapMask.has ⟨cellOffset start off % 2, by omega⟩ = true :=
        h.has_mapMask_cells (Nat.mod_lt _ (by decide))
      have hhost : b.updateAdapter (·.hostWrite (Address.ofSegment b.window off).val x) =
          b.updateAdapter fun a =>
            { a with
              planes := a.planes.set ⟨cellOffset start off % 2, by omega⟩
                (UInt16.ofNat (cellOffset start off / 2)) x } := by
        simp only [updateAdapter, Adapter.hostWrite, h.target_cells hoff, Addressing.target,
          hmask, if_true]
      rw [cellPlace_of_lt hoff, Board.write, if_pos hshown, hhost, byteAt_setPlane]
    · have hhidden : ¬ (Address.ofSegment b.window off).isDisplay = true := by
        rw [h.window, isDisplay_cells, decide_eq_false hoff]
        decide
      rw [cellPlace_of_le (by omega), Board.write, if_neg hhidden, h.window, byteAt_setRam]

theorem shows_cells (start : UInt16) :
    Backend.Shows (Showing .cells start : Board bus → Prop) byteAt (cellPlace start) :=
  (shows_cells_of_viewing start).restrict Showing.toViewing
    fun hc h => (sameRegisters_of_accesses hc).showing h

/-! ## The same cell in both views -/

/-- The character of a cell is at the same place in the cells view and in that of plane 0. -/
theorem cellPlace_character {index : UInt16} (hstart : start.toNat % 32 = 0)
    (hend : start.toNat + 2 * index.toNat < 0x8000) :
    cellPlace start (index * 2) = planePlace .characters start index := by
  have hoff : cellOffset start (index * 2) = start.toNat + 2 * index.toNat := by
    simp only [cellOffset, UInt16.toNat_mul, UInt16.reduceToNat]
    omega
  rw [cellPlace_of_lt (by omega), planePlace, Place.plane.injEq]
  refine ⟨Fin.ext (?_ : cellOffset start (index * 2) % 2 = 0), UInt16.toNat_inj.mp ?_⟩
  · omega
  · simp only [planeBase, hoff, UInt16.toNat_add, UInt16.toNat_ofNat']
    omega

/-- The attribute of a cell is at the same place in the cells view and in that of plane 1. -/
theorem cellPlace_attribute {index : UInt16} (hstart : start.toNat % 32 = 0)
    (hend : start.toNat + 2 * index.toNat < 0x8000) :
    cellPlace start (index * 2 + 1) = planePlace .attributes start index := by
  have hoff : cellOffset start (index * 2 + 1) = start.toNat + 2 * index.toNat + 1 := by
    simp only [cellOffset, UInt16.toNat_add, UInt16.toNat_mul, UInt16.reduceToNat]
    omega
  rw [cellPlace_of_lt (by omega), planePlace, Place.plane.injEq]
  refine ⟨Fin.ext (?_ : cellOffset start (index * 2 + 1) % 2 = 1), UInt16.toNat_inj.mp ?_⟩
  · omega
  · simp only [planeBase, hoff, UInt16.toNat_add, UInt16.toNat_ofNat']
    omega

end Board

end VgaFirmware
