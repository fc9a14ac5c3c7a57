import VgaFirmware.Display.Font
import VgaFirmware.Proofs.Views
import VgaFirmware.Service.ModeSet

/-!
# Filling planes and loading glyphs

What display memory holds after a fill of planes (`Viewing.get_fill`) and after the glyphs of the
font are stored (`Viewing.get_storeGlyphs`), through whatever write path. The lines that are stored
show the pixels of the table (`Font.image_eq`).
-/

namespace VgaFirmware

namespace Font

/-- Whether a pixel of a glyph is set. Column 0 is the leftmost; the table has it in the lowest bit
of the line, and the lines from the highest byte down. -/
def pixel (glyph row column : Nat) : Bool :=
  row < 8 && (glyphs[glyph]?.getD 0).toBitVec.getLsbD (8 * (7 - row) + column)

/-- What the font plane holds at an offset once the glyphs are loaded: 32 bytes for each glyph, the
first eight of them its lines with the leftmost pixel in the highest bit, and zero elsewhere. -/
def image (off : UInt16) : UInt8 :=
  ⟨.ofBoolListBE ((List.range 8).map (pixel (off.toNat / 32) (off.toNat % 32)))⟩

theorem getMsbD_image (off : UInt16) {column : Nat} (h : column < 8) :
    (image off).toBitVec.getMsbD column = pixel (off.toNat / 32) (off.toNat % 32) column := by
  let pixels := (List.range 8).map (pixel (off.toNat / 32) (off.toNat % 32))
  have hbits : (BitVec.ofBoolListBE pixels).getMsbD column = pixels.getD column false :=
    BitVec.getMsbD_ofBoolListBE
  rw [List.getD_eq_getElem?_getD, List.getElem?_map, List.getElem?_range h] at hbits
  exact hbits

/-- A line is stored with its pixels in the opposite order. -/
theorem getMsbD_line (glyph row : Nat) {column : Nat} (h : column < 8) :
    (line glyph row).toBitVec.getMsbD column = pixel glyph row column := by
  unfold line pixel
  split
  · next hrow =>
    rw [height] at hrow
    have hshift : ((UInt64.ofNat (56 - 8 * row)).toBitVec % 64).toNat = 8 * (7 - row) := by
      rw [BitVec.toNat_umod, UInt64.toNat_toBitVec, UInt64.toNat_ofNat',
        show (64 : BitVec 64).toNat = 64 from rfl]
      omega
    rw [reversed, BitVec.getMsbD_reverse, UInt64.toBitVec_toUInt8, BitVec.getLsbD_setWidth,
      UInt64.toBitVec_shiftRight, BitVec.ushiftRight_eq', BitVec.getLsbD_ushiftRight, hshift]
    simp only [h, hrow, decide_true, Bool.true_and]
  · next hrow =>
    rw [height] at hrow
    simp [hrow]

/-- The glyphs that are stored make up the image, and it is blank elsewhere. -/
theorem image_eq (o : UInt16) :
    image o = if o.toNat / stride < count ∧ o.toNat % stride < height then
      line (o.toNat / stride) (o.toNat % stride) else 0 := by
  apply UInt8.eq_of_toBitVec_eq
  refine BitVec.eq_of_getMsbD_eq fun column hcolumn => ?_
  rw [getMsbD_image o hcolumn]
  split
  · exact (getMsbD_line _ _ hcolumn).symm
  · next hblank =>
    unfold pixel
    rcases Classical.not_and_iff_not_or_not.mp hblank with hglyph | hrow
    · simp only [stride, count, Nat.not_lt] at hglyph
      simp [Vector.getElem?_eq_none hglyph]
    · simp only [stride, height] at hrow
      simp [hrow]

end Font

namespace Board

variable {bus : BusWidth} {b c : Board bus} {write : MapMask} {read : UInt8} {start : UInt16}

/-- Accesses keep the view open and the write path as it is. -/
theorem Viewing.accesses {v : View} (h : b.Viewing v start) (hc : Backend.Accesses b c) :
    c.Viewing v start ∧ c.adapter.writePath = b.adapter.writePath :=
  ⟨(sameRegisters_of_accesses hc).viewing h, (inside_of_accesses hc).writePath⟩

/-- A fill reaches each offset once. -/
theorem Viewing.get_fill (h : b.Viewing (.planes write read) start) (dst : UInt16) (v : UInt8)
    {count : Nat} (hcount : count ≤ 65536) (p : Plane) (o : UInt16) :
    (Backend.fill b dst v count).adapter.planes.get p o =
      if (o - (planeBase start + dst)).toNat < count ∧ write.has p then
        b.adapter.writePath.result v p (b.adapter.planes.get p o)
      else b.adapter.planes.get p o := by
  induction count generalizing b dst with
  | zero => simp [Backend.fill]
  | succ count ih =>
    obtain ⟨hview, hpath⟩ := h.accesses (.store .refl dst v)
    rw [Backend.fill, ih hview (dst + 1) (by omega), hpath, h.get_store, ← UInt16.add_assoc]
    by_cases ho : o = planeBase start + dst
    · subst ho
      have hlast : ¬ (planeBase start + dst - (planeBase start + dst + 1)).toNat < count := by
        have := (planeBase start + dst).toNat_lt
        simp only [UInt16.toNat_sub, UInt16.toNat_add, UInt16.reduceToNat]
        omega
      simp only [hlast, false_and, if_false, true_and, UInt16.sub_self, UInt16.toNat_zero,
        Nat.zero_lt_succ]
    · have hstep := UInt16.toNat_sub_succ ho
      simp only [hstep, ho, false_and, if_false, Nat.add_lt_add_iff_right]

/-! ## Glyphs -/

/-- The first lines of a glyph. -/
def storeLines (b : Board bus) (glyph count : Nat) : Board bus :=
  (List.range count).foldl (fun b row =>
    Backend.store b (UInt16.ofNat (Font.stride * glyph + row)) (Font.line glyph row)) b

theorem accesses_storeLines (b : Board bus) (glyph count : Nat) :
    Backend.Accesses b (b.storeLines glyph count) :=
  Backend.Accesses.refl.foldl _ _ fun _ h => h.store _ _

/-- The first glyphs of the font. -/
def storeGlyphs (b : Board bus) (count : Nat) : Board bus :=
  (List.range count).foldl (fun b glyph => b.storeLines glyph Font.height) b

theorem fontStore_eq (b : Board bus) : Font.store b = b.storeGlyphs Font.count := by
  simp only [Font.store, storeGlyphs, storeLines]

theorem accesses_storeGlyphs (b : Board bus) (count : Nat) :
    Backend.Accesses b (b.storeGlyphs count) :=
  Backend.Accesses.refl.foldl _ _ fun _ h => h.foldl _ _ fun _ g => g.store _ _

/-- The offset of a line of a glyph. -/
theorem eq_lineOffset_iff {glyph row : Nat} (hglyph : glyph < Font.count) (hrow : row < Font.height)
    (o : UInt16) :
    o = planeBase 0 + UInt16.ofNat (Font.stride * glyph + row) ↔
      o.toNat / Font.stride = glyph ∧ o.toNat % Font.stride = row := by
  have := o.toNat_lt
  rw [← UInt16.toNat_inj]
  simp only [Font.count, Font.height] at hglyph hrow
  simp only [planeBase, Font.stride, UInt16.toNat_add, UInt16.toNat_ofNat', UInt16.toNat_zero]
  omega

theorem Viewing.get_storeLines (h : b.Viewing (.planes write read) 0) {glyph count : Nat}
    (hglyph : glyph < Font.count) (hcount : count ≤ Font.height) (p : Plane) (o : UInt16) :
    (b.storeLines glyph count).adapter.planes.get p o =
      if o.toNat / Font.stride = glyph ∧ o.toNat % Font.stride < count ∧ write.has p then
        b.adapter.writePath.result (Font.line glyph (o.toNat % Font.stride)) p
          (b.adapter.planes.get p o)
      else b.adapter.planes.get p o := by
  induction count with
  | zero => simp [storeLines]
  | succ count ih =>
    obtain ⟨hview, hpath⟩ := h.accesses (b.accesses_storeLines glyph count)
    rw [storeLines, List.range_succ, List.foldl_append, List.foldl_cons, List.foldl_nil,
      ← storeLines, hview.get_store, hpath, ih (by omega)]
    simp only [eq_lineOffset_iff hglyph hcount]
    by_cases hline : o.toNat % Font.stride = count
    · simp [hline]
    · have hlt : o.toNat % Font.stride < count + 1 ↔ o.toNat % Font.stride < count := by omega
      simp [hline, hlt]

/-- The glyphs go through the write path, line by line. -/
theorem Viewing.get_storeGlyphs (h : b.Viewing (.planes write read) 0) {count : Nat}
    (hcount : count ≤ Font.count) (p : Plane) (o : UInt16) :
    (b.storeGlyphs count).adapter.planes.get p o =
      if o.toNat / Font.stride < count ∧ o.toNat % Font.stride < Font.height ∧ write.has p then
        b.adapter.writePath.result (Font.line (o.toNat / Font.stride) (o.toNat % Font.stride)) p
          (b.adapter.planes.get p o)
      else b.adapter.planes.get p o := by
  induction count with
  | zero => simp [storeGlyphs]
  | succ count ih =>
    obtain ⟨hview, hpath⟩ := h.accesses (b.accesses_storeGlyphs count)
    rw [storeGlyphs, List.range_succ, List.foldl_append, List.foldl_cons, List.foldl_nil,
      ← storeGlyphs, hview.get_storeLines hcount (Nat.le_refl _), hpath, ih (by omega)]
    by_cases hglyph : o.toNat / Font.stride = count
    · simp [hglyph]
    · have hlt : o.toNat / Font.stride < count + 1 ↔ o.toNat / Font.stride < count := by omega
      simp [hglyph, hlt]

end Board

end VgaFirmware
