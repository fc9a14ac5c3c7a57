import VgaFirmware.Proofs.WriteMasks
import VgaFirmware.Proofs.WritePath

/-!
# Drawing in a colour

A column of the planes holds eight pixels, one bit of each in every plane. Write modes 0, 2 and 3
can all draw pixels in a colour, through a mask (`WriteControl.draw`), and they draw the same
(`colour_writes_agree`). A comparison with the colour then finds the pixels that were drawn beside
those that had it before (`colour_found_where_drawn`).
-/

namespace VgaFirmware

/-! ## Drawing through a mask -/

namespace WriteControl

variable {c : WriteControl}

/-- The byte that a plane receives when pixels are drawn in a colour. -/
def draw (c : WriteControl) (mask : UInt8) (colour : PlaneSet) (p : Plane) (latch : UInt8) :
    UInt8 :=
  blend mask (c.op.apply (spread (colour.has p)) latch) latch

theorem result_hostColour (hmode : c.mode = .hostColour) (v : UInt8) (p : Plane) (latch : UInt8) :
    c.result v p latch = c.draw c.bitMask (.ofByte v) p latch := by
  simp only [result, hmode, draw]

theorem result_maskedColour (hmode : c.mode = .maskedColour) (v : UInt8) (p : Plane)
    (latch : UInt8) :
    c.result v p latch = c.draw (c.bitMask &&& c.rotated v) c.setReset p latch := by
  simp only [result, hmode, draw]

/-- Where every plane enables set/reset, the host byte does not count. -/
theorem result_setReset (hmode : c.mode = .hostData) (henable : c.enableSetReset = .all)
    (v : UInt8) (p : Plane) (latch : UInt8) :
    c.result v p latch = c.draw c.bitMask c.setReset p latch := by
  rw [result_hostData hmode, henable, PlaneSet.has_all, if_pos rfl, draw]

theorem rotated_full (c : WriteControl) : c.rotated 0xFF = 0xFF := by
  apply UInt8.toBitVec_inj.mp
  ext i hi
  simp only [rotated, UInt8.toBitVec_ofNat, BitVec.getElem_rotateRight, BitVec.getElem_full]
  split <;> rfl

/-- A full host byte leaves the mask as it is. -/
theorem and_rotated_full (c : WriteControl) (mask : UInt8) : mask &&& c.rotated 0xFF = mask := by
  rw [rotated_full]
  exact UInt8.and_neg_one

end WriteControl

/-! ## Registers of the graphics controller -/

theorem putField_and_of_disjoint {mask other : UInt8} (h : mask &&& other = 0)
    (bits value : UInt8) : putField bits mask value &&& other = bits &&& other := by
  apply UInt8.toBitVec_inj.mp
  ext i hi
  have hbit := congrArg (fun b : UInt8 => b.toBitVec[i]) h
  simp only [UInt8.toBitVec_and, UInt8.toBitVec_ofNat, BitVec.getElem_and, BitVec.getElem_zero]
    at hbit
  simp only [putField, UInt8.toBitVec_and, UInt8.toBitVec_or, UInt8.toBitVec_not,
    BitVec.getElem_and, BitVec.getElem_or, BitVec.getElem_not]
  cases hmask : mask.toBitVec[i] <;> cases hother : other.toBitVec[i] <;> simp_all

theorem WriteMode.ofBits_and (b : UInt8) : ofBits (b &&& 0x03) = ofBits b := by
  have hlow : (b &&& 0x03).toNat % 4 = b.toNat % 4 := by
    have hmask : (0x03 : UInt8).toNat = 2 ^ 2 - 1 := rfl
    rw [UInt8.toNat_and, hmask, Nat.and_two_pow_sub_one_eq_mod]
    omega
  simp only [ofBits, hlow]

namespace Adapter

variable {a b c : Adapter} {address : UInt32}

/-- Another value in a register of the graphics controller. -/
def setGraphics (a : Adapter) (i v : UInt8) : Adapter :=
  { a with graphics := a.graphics.write i v }

/-- Another write mode, the rest of its register as it was. -/
def inWriteMode (a : Adapter) (mode : UInt8) : Adapter :=
  a.setGraphics 5 (a.graphicsMode.withWriteMode mode).bits

/-- Another read mode, the rest of its register as it was. -/
def inReadMode (a : Adapter) (mode : UInt8) : Adapter :=
  a.setGraphics 5 (putField (a.graphics.read 5) 0x08 (mode <<< 3))

/-- Write mode 0, with a colour in set/reset that all planes enable. -/
def setResetMode (a : Adapter) (colour : UInt8) : Adapter :=
  ((a.setGraphics 0 colour).setGraphics 1 0x0F).inWriteMode 0

/-- Write mode 2. -/
def hostColourMode (a : Adapter) : Adapter := a.inWriteMode 2

/-- Write mode 3, with a colour in set/reset. -/
def maskedColourMode (a : Adapter) (colour : UInt8) : Adapter :=
  (a.setGraphics 0 colour).inWriteMode 3

/-- Display memory as accesses leave it. -/
def displayMemory (a : Adapter) : PlaneMemory × Latches := (a.planes, a.latches)

/-- Adapters whose addresses select the same bytes of the same planes. -/
structure SameTargets (a b : Adapter) : Prop where
  addressing : b.addressing = a.addressing
  graphicsMisc : b.graphicsMisc = a.graphicsMisc
  mapMask : b.mapMask = a.mapMask

/-- Beside the modes of reading and writing, the registers behind accesses are the same. -/
structure SameButModes (a b : Adapter) : Prop extends SameTargets a b where
  graphics : ∀ i, i ≠ 5 → b.graphics.read i = a.graphics.read i

theorem SameTargets.trans (h : SameTargets a b) (g : SameTargets b c) : SameTargets a c where
  addressing := g.addressing.trans h.addressing
  graphicsMisc := g.graphicsMisc.trans h.graphicsMisc
  mapMask := g.mapMask.trans h.mapMask

theorem SameTargets.decodes_iff (h : SameTargets a b) : b.Decodes address ↔ a.Decodes address := by
  rw [Decodes, h.graphicsMisc, Decodes]

theorem SameButModes.trans (h : SameButModes a b) (g : SameButModes b c) : SameButModes a c where
  toSameTargets := h.toSameTargets.trans g.toSameTargets
  graphics i hi := (g.graphics i hi).trans (h.graphics i hi)

theorem read_setGraphics_of_ne (a : Adapter) {i j : UInt8} (v : UInt8) (h : j ≠ i) :
    (a.setGraphics i v).graphics.read j = a.graphics.read j :=
  a.graphics.read_write_of_ne v h

theorem read_setGraphics_self (a : Adapter) {i : UInt8} (v : UInt8) (h : i.toNat < 9) :
    (a.setGraphics i v).graphics.read i = v :=
  (a.graphics.read_write_self i v).trans (if_pos h)

theorem sameTargets_setGraphics (a : Adapter) {i : UInt8} (v : UInt8) (h₅ : 5 ≠ i) (h₆ : 6 ≠ i) :
    SameTargets a (a.setGraphics i v) where
  addressing := by
    simp only [addressing, graphicsMode, a.read_setGraphics_of_ne v h₅]
    rfl
  graphicsMisc := congrArg GraphicsMisc.mk (a.read_setGraphics_of_ne v h₆)
  mapMask := rfl

/-- Of the mode register only the bit for odd/even addresses matters to addresses. -/
theorem sameButModes_setGraphics (a : Adapter) {bits : UInt8}
    (h : bits &&& 0x10 = a.graphics.read 5 &&& 0x10) : SameButModes a (a.setGraphics 5 bits) where
  addressing := by
    have hmode : (a.setGraphics 5 bits).graphicsMode.oddEven = a.graphicsMode.oddEven := by
      simp only [graphicsMode, GraphicsMode.oddEven,
        a.read_setGraphics_self (i := 5) bits (by decide), h]
    simp only [addressing, hmode]
    rfl
  graphicsMisc := congrArg GraphicsMisc.mk (a.read_setGraphics_of_ne bits (by decide))
  mapMask := rfl
  graphics _ hi := a.read_setGraphics_of_ne bits hi

theorem sameButModes_inWriteMode (a : Adapter) (mode : UInt8) :
    SameButModes a (a.inWriteMode mode) :=
  a.sameButModes_setGraphics (putField_and_of_disjoint (by decide) _ _)

theorem sameButModes_inReadMode (a : Adapter) (mode : UInt8) :
    SameButModes a (a.inReadMode mode) :=
  a.sameButModes_setGraphics (putField_and_of_disjoint (by decide) _ _)

theorem sameButModes_hostRead (a : Adapter) (address : Nat) :
    SameButModes a (a.hostRead address).2 := by
  rw [hostRead_eq]
  exact ⟨⟨rfl, rfl, rfl⟩, fun _ _ => rfl⟩

theorem sameButModes_hostWrite (a : Adapter) (address : Nat) (v : UInt8) :
    SameButModes a (a.hostWrite address v) := by
  rw [hostWrite_eq]
  exact ⟨⟨rfl, rfl, rfl⟩, fun _ _ => rfl⟩

/-! ### The write path -/

theorem writeControl_setReset (a : Adapter) (v : UInt8) :
    (a.setGraphics 0 v).writeControl = { a.writeControl with setReset := .ofByte v } := by
  simp [writeControl, graphicsMode, setGraphics, RegisterBank.read_write]

theorem writeControl_enableSetReset (a : Adapter) (v : UInt8) :
    (a.setGraphics 1 v).writeControl = { a.writeControl with enableSetReset := .ofByte v } := by
  simp [writeControl, graphicsMode, setGraphics, RegisterBank.read_write]

theorem writeControl_bitMask (a : Adapter) (v : UInt8) :
    (a.setGraphics 8 v).writeControl = { a.writeControl with bitMask := v } := by
  simp [writeControl, graphicsMode, setGraphics, RegisterBank.read_write]

theorem writeControl_inWriteMode (a : Adapter) (mode : UInt8) :
    (a.inWriteMode mode).writeControl = { a.writeControl with mode := .ofBits mode } := by
  have hmode : WriteMode.ofBits (putField (a.graphics.read 5) 0x03 mode) = .ofBits mode := by
    rw [← WriteMode.ofBits_and, putField_and_mask, WriteMode.ofBits_and]
  simp [writeControl, inWriteMode, graphicsMode, GraphicsMode.withWriteMode, setGraphics,
    RegisterBank.read_write, hmode]

/-! ### Write modes that draw -/

theorem mode_inWriteMode_ne (a : Adapter) {mode : UInt8} (h : WriteMode.ofBits mode ≠ .latched) :
    (a.inWriteMode mode).writeControl.mode ≠ .latched := by
  rw [writeControl_inWriteMode]
  exact h

/-- Set up for a host byte that draws in a colour through a mask, what `a` would draw on. -/
structure Draws (a b : Adapter) (v mask : UInt8) (colour : PlaneSet) : Prop
    extends SameTargets a b where
  memory : b.displayMemory = a.displayMemory
  mode_ne : b.writeControl.mode ≠ .latched
  result : ∀ p latch, b.writeControl.result v p latch = a.writeControl.draw mask colour p latch

theorem draws_hostColourMode (a : Adapter) (colour : UInt8) :
    Draws a a.hostColourMode colour (a.graphics.read 8) (.ofByte colour) where
  toSameTargets := (a.sameButModes_inWriteMode 2).toSameTargets
  memory := rfl
  mode_ne := mode_inWriteMode_ne _ (by decide)
  result p latch := by
    rw [hostColourMode, writeControl_inWriteMode, WriteControl.result_hostColour rfl]
    rfl

theorem draws_setResetMode (a : Adapter) (colour w : UInt8) :
    Draws a (a.setResetMode colour) w (a.graphics.read 8) (.ofByte colour) where
  toSameTargets :=
    ((a.sameTargets_setGraphics colour (by decide) (by decide)).trans
      (sameTargets_setGraphics _ 0x0F (by decide) (by decide))).trans
        (sameButModes_inWriteMode _ 0).toSameTargets
  memory := rfl
  mode_ne := mode_inWriteMode_ne _ (by decide)
  result p latch := by
    rw [setResetMode, writeControl_inWriteMode, writeControl_enableSetReset, writeControl_setReset,
      WriteControl.result_setReset rfl rfl]
    rfl

theorem draws_maskedColourMode (a : Adapter) (colour v : UInt8) :
    Draws a (a.maskedColourMode colour) v (a.graphics.read 8 &&& a.writeControl.rotated v)
      (.ofByte colour) where
  toSameTargets := (a.sameTargets_setGraphics colour (by decide) (by decide)).trans
    (sameButModes_inWriteMode _ 3).toSameTargets
  memory := rfl
  mode_ne := mode_inWriteMode_ne _ (by decide)
  result p latch := by
    rw [maskedColourMode, writeControl_inWriteMode, writeControl_setReset,
      WriteControl.result_maskedColour rfl]
    rfl

namespace Draws

variable {v w mask : UInt8} {colour : PlaneSet}

/-- Another mask in the register draws through that mask. -/
theorem of_bitMask (h : Draws (a.setGraphics 8 mask) b v mask colour) :
    Draws a b v mask colour where
  toSameTargets := (a.sameTargets_setGraphics mask (by decide) (by decide)).trans h.toSameTargets
  memory := h.memory
  mode_ne := h.mode_ne
  result p latch := by
    rw [h.result, writeControl_bitMask]
    rfl

/-- What is drawn, in all planes at once. -/
theorem displayMemory_hostWrite (h : Draws a b v mask colour) (hplanar : a.addressing = .planar)
    (haddress : a.Decodes address) :
    let off := UInt16.ofNat (address.toNat - a.graphicsMisc.aperture.base)
    (b.hostWrite address.toNat v).displayMemory =
      (a.planes.setColumn off a.mapMask fun p =>
        a.writeControl.draw mask colour p (a.planes.get p off), a.planes.column off) := by
  have hplanes : b.planes = a.planes := congrArg Prod.fst h.memory
  rw [hostWrite_of_planar (h.addressing.trans hplanar) (h.decodes_iff.mpr haddress)]
  simp only [displayMemory, writeColumn, if_neg h.mode_ne, h.graphicsMisc, h.mapMask, hplanes,
    h.result, PlaneMemory.get_column]

theorem get_hostWrite (h : Draws a b v mask colour) (hplanar : a.addressing = .planar)
    (haddress : a.Decodes address) {p : Plane} (hp : a.mapMask.has p = true) :
    let off := UInt16.ofNat (address.toNat - a.graphicsMisc.aperture.base)
    (b.hostWrite address.toNat v).planes.get p off =
      a.writeControl.draw mask colour p (a.planes.get p off) := by
  intro off
  have hplanes : (b.hostWrite address.toNat v).planes = _ :=
    congrArg Prod.fst (h.displayMemory_hostWrite hplanar haddress)
  rw [hplanes, PlaneMemory.get_setColumn]
  exact if_pos ⟨rfl, hp⟩

/-- However a colour is drawn through a mask, planes and latches come out the same. -/
theorem displayMemory_eq (h : Draws a b v mask colour) (g : Draws a c w mask colour)
    (hplanar : a.addressing = .planar) (address : UInt32) :
    (b.hostWrite address.toNat v).displayMemory = (c.hostWrite address.toNat w).displayMemory := by
  by_cases haddress : a.Decodes address
  · rw [h.displayMemory_hostWrite hplanar haddress, g.displayMemory_hostWrite hplanar haddress]
  · rw [hostWrite_of_not_decodes fun hout => haddress (h.decodes_iff.mp hout),
      hostWrite_of_not_decodes fun hout => haddress (g.decodes_iff.mp hout), h.memory, g.memory]

end Draws

/-- The write modes agree on colours. A colour as the host byte of write mode 2, the same colour in
set/reset with all planes enabled in write mode 0, and a full host byte with it in write mode 3 draw
the same. Any other host byte narrows the mask in write mode 3, as the bit mask register would. -/
theorem colour_writes_agree (h : a.addressing = .planar) (address : UInt32) (colour v w : UInt8) :
    let drawn := (a.hostColourMode.hostWrite address.toNat colour).displayMemory
    let narrowed := a.setGraphics 8 (a.graphics.read 8 &&& a.writeControl.rotated v)
    ((a.setResetMode colour).hostWrite address.toNat w).displayMemory = drawn ∧
      ((a.maskedColourMode colour).hostWrite address.toNat 0xFF).displayMemory = drawn ∧
      ((a.maskedColourMode colour).hostWrite address.toNat v).displayMemory =
        ((narrowed.setResetMode colour).hostWrite address.toNat w).displayMemory := by
  intro drawn narrowed
  have htwo := a.draws_hostColourMode colour
  have hzero := a.draws_setResetMode colour w
  have hfull := a.draws_maskedColourMode colour 0xFF
  rw [WriteControl.and_rotated_full] at hfull
  have hthree := a.draws_maskedColourMode colour v
  have hnarrowed := narrowed.draws_setResetMode colour w
  rw [read_setGraphics_self _ _ (by decide)] at hnarrowed
  exact ⟨hzero.displayMemory_eq htwo h address, hfull.displayMemory_eq htwo h address,
    hthree.displayMemory_eq hnarrowed.of_bitMask h address⟩

/-- Exclusive or, a bit mask and a rotated host byte that narrows it. -/
theorem colour_writes_agree_narrowed :
    let a : Adapter :=
      { Adapter.powerOn with
        sequencer := ((RegisterBank.blank 5).write 2 0x0B).write 4 0x06
        graphics := ((RegisterBank.blank 9).write 3 0x19).write 8 0x3C }
    a.addressing = .planar ∧
      ((a.maskedColourMode 0x0A).hostWrite 0xA0005 0xF0).displayMemory =
        (((a.setGraphics 8 0x38).setResetMode 0x0A).hostWrite 0xA0005 0x12).displayMemory := by
  intro a
  have hplanar : a.addressing = .planar := by decide
  have hmask : a.graphics.read 8 &&& a.writeControl.rotated 0xF0 = 0x38 := by decide
  obtain ⟨-, -, hnarrowed⟩ := colour_writes_agree hplanar 0xA0005 0x0A 0xF0 0x12
  exact ⟨hplanar, hmask ▸ hnarrowed⟩

end Adapter

/-! ## Finding a colour -/

/-- Of a plane that counts, drawing in the colour leaves mismatches outside the mask only. -/
theorem planeMismatch_blend {colour care : PlaneSet} {p : Plane} {mask old new : UInt8}
    (h : care.has p = true → new = blend mask (spread (colour.has p)) old) :
    planeMismatch colour care p new = planeMismatch colour care p old &&& ~~~mask := by
  apply UInt8.toBitVec_inj.mp
  cases hcare : care.has p with
  | false => simp [planeMismatch, hcare, spread]
  | true =>
    rw [h hcare]
    ext i hi
    simp only [planeMismatch, blend, UInt8.toBitVec_and, UInt8.toBitVec_or, UInt8.toBitVec_xor,
      UInt8.toBitVec_not, BitVec.getElem_and, BitVec.getElem_or, BitVec.getElem_xor,
      BitVec.getElem_not]
    cases mask.toBitVec[i] <;> simp

theorem UInt8.or_and_not (x y mask : UInt8) :
    (x ||| y) &&& ~~~mask = (x &&& ~~~mask) ||| (y &&& ~~~mask) := by
  apply UInt8.toBitVec_inj.mp
  ext i hi
  simp [Bool.and_or_distrib_right]

theorem UInt8.not_and_not (x mask : UInt8) : ~~~(x &&& ~~~mask) = ~~~x ||| mask := by
  apply UInt8.toBitVec_inj.mp
  ext i hi
  simp

/-- Where the planes that count were drawn in the colour through a mask, the comparison finds the
pixels of the mask, beside those that it found before. -/
theorem colourMatch_blend {colour care : PlaneSet} {mask : UInt8} {old new : Latches}
    (h : ∀ p, care.has p = true →
      new.get p = blend mask (spread (colour.has p)) (old.get p)) :
    colourMatch colour care new = colourMatch colour care old ||| mask := by
  -- masking goes through the fold, one plane after the other
  have hfold : Plane.all.foldl
        (fun bits p => bits ||| planeMismatch colour care p (new.get p)) (0 &&& ~~~mask) =
      Plane.all.foldl
        (fun bits p => bits ||| planeMismatch colour care p (old.get p)) 0 &&& ~~~mask :=
    List.foldl_hom (· &&& ~~~mask) fun bits p => by
      rw [planeMismatch_blend (h p), UInt8.or_and_not]
  rw [UInt8.zero_and] at hfold
  rw [colourMatch, hfold, UInt8.not_and_not, colourMatch]

namespace Adapter

variable {a : Adapter} {address : UInt32}

/-- A read in read mode 1 compares the column that the address selects. -/
theorem fst_hostRead_inReadMode (h : a.addressing = .planar) (haddress : a.Decodes address) :
    ((a.inReadMode 1).hostRead address.toNat).1 =
      colourMatch (.ofByte (a.graphics.read 2)) (.ofByte (a.graphics.read 7))
        (a.planes.column (UInt16.ofNat (address.toNat - a.graphicsMisc.aperture.base))) := by
  have hsame := a.sameButModes_inReadMode 1
  have hmode : (a.inReadMode 1).graphicsMode.readMode = 1 := by
    simp only [graphicsMode, GraphicsMode.readMode, inReadMode,
      read_setGraphics_self (i := 5) _ _ (by decide), putField_and_mask]
    decide
  rw [hostRead_of_planar (hsame.addressing.trans h) (hsame.decodes_iff.mpr haddress)]
  simp only [readColumn, hmode, if_neg (by decide : ¬ (1 : UInt8) = 0), hsame.graphicsMisc,
    hsame.graphics 2 (by decide), hsame.graphics 7 (by decide)]
  rfl

/-- Colour compare recognises what write mode 2 draws. With replacing writes, and all planes open
that count in the comparison, drawing in the colour that is compared with adds the pixels of the bit
mask to those that are found. -/
theorem colour_found_where_drawn (h : a.addressing = .planar) (haddress : a.Decodes address)
    {colour : UInt8} (hcompare : PlaneSet.ofByte (a.graphics.read 2) = .ofByte colour)
    (hcare : ∀ p, (PlaneSet.ofByte (a.graphics.read 7)).has p = true → a.mapMask.has p = true)
    (hop : a.writeControl.op = .replace) :
    let before := (a.inReadMode 1).hostRead address.toNat
    let drawn := before.2.hostColourMode.hostWrite address.toNat colour
    let after := (drawn.inReadMode 1).hostRead address.toNat
    after.1 = before.1 ||| a.graphics.read 8 := by
  intro before drawn after
  let off := UInt16.ofNat (address.toNat - a.graphicsMisc.aperture.base)
  have hbefore : SameButModes a before.2 :=
    (a.sameButModes_inReadMode 1).trans (sameButModes_hostRead _ _)
  have hdrawn : SameButModes a drawn :=
    (hbefore.trans (sameButModes_inWriteMode _ 2)).trans (sameButModes_hostWrite _ _ _)
  have hplanes : before.2.planes = a.planes :=
    (congrArg Adapter.planes ((a.inReadMode 1).hostRead_eq address.toNat)).trans rfl
  have hreplace : before.2.writeControl.op = .replace := by
    simp only [writeControl, hbefore.graphics 3 (by decide)]
    exact hop
  have hcolumn (p : Plane) (hp : a.mapMask.has p = true) :
      (drawn.planes.column off).get p =
        blend (a.graphics.read 8) (spread ((PlaneSet.ofByte colour).has p))
          ((a.planes.column off).get p) := by
    have hget := (before.2.draws_hostColourMode colour).get_hostWrite
      (hbefore.addressing.trans h) (hbefore.decodes_iff.mpr haddress) (hbefore.mapMask ▸ hp)
    simp only [hbefore.graphicsMisc, hbefore.graphics 8 (by decide), hplanes, WriteControl.draw,
      hreplace, RasterOp.apply] at hget
    rw [PlaneMemory.get_column, PlaneMemory.get_column]
    exact hget
  have hfirst : before.1 = _ := fst_hostRead_inReadMode h haddress
  have hlast : after.1 = _ :=
    fst_hostRead_inReadMode (hdrawn.addressing.trans h) (hdrawn.decodes_iff.mpr haddress)
  rw [hlast, hfirst, hdrawn.graphics 2 (by decide), hdrawn.graphics 7 (by decide),
    hdrawn.graphicsMisc, hcompare]
  exact colourMatch_blend fun p hp => hcolumn p (hcare p hp)

/-- Three planes count, and a fourth one is open. Nothing is found in blank planes, and the bit mask
is found after drawing. -/
theorem colour_found_where_drawn_masked :
    let a : Adapter :=
      { Adapter.powerOn with
        sequencer := ((RegisterBank.blank 5).write 2 0x0F).write 4 0x06
        graphics := (((RegisterBank.blank 9).write 2 0x0A).write 7 0x0B).write 8 0x3C }
    let before := (a.inReadMode 1).hostRead 0xA0005
    let drawn := before.2.hostColourMode.hostWrite 0xA0005 0x0A
    a.addressing = .planar ∧ a.Decodes 0xA0005 ∧
      PlaneSet.ofByte (a.graphics.read 2) = .ofByte 0x0A ∧
      (∀ p, (PlaneSet.ofByte (a.graphics.read 7)).has p = true → a.mapMask.has p = true) ∧
      a.writeControl.op = .replace ∧ before.1 = 0x00 ∧
      ((drawn.inReadMode 1).hostRead 0xA0005).1 = 0x3C := by
  intro a before drawn
  have hplanar : a.addressing = .planar := by decide
  have haddress : a.Decodes 0xA0005 := by decide
  have hcompare : PlaneSet.ofByte (a.graphics.read 2) = .ofByte 0x0A := by decide
  have hcare : ∀ p, (PlaneSet.ofByte (a.graphics.read 7)).has p = true →
      a.mapMask.has p = true := by decide
  have hop : a.writeControl.op = .replace := by decide
  have hblank : before.1 = 0x00 := by
    refine (fst_hostRead_inReadMode hplanar haddress).trans ?_
    rw [colourMatch_congr (y := .replicate 4 0)]
    · decide
    · intro p _
      rw [PlaneMemory.get_column]
      exact (PlaneMemory.get_blank p _).trans (Vector.getElem_replicate p.isLt).symm
  have hfound : ((drawn.inReadMode 1).hostRead 0xA0005).1 = before.1 ||| 0x3C :=
    colour_found_where_drawn hplanar haddress hcompare hcare hop
  refine ⟨hplanar, haddress, hcompare, hcare, hop, hblank, ?_⟩
  exact hfound.trans ((congrArg (fun x : UInt8 => x ||| 0x3C) hblank).trans (by decide))

end Adapter

end VgaFirmware
