import VgaFirmware.Proofs.Operations

/-!
# The cells of a page

A page whose cells all lie within the aperture of the cells view is a block of planes 0 and 1.
Work on it redraws its cells and leaves every other byte (`Redraws`): writing a cell changes that
cell alone (`redraws_putCell`), and scrolling the whole page by a row shifts its cells by a row
(`redraws_scrollCells`).
-/

namespace VgaFirmware

/-- A scroll leaves all offsets past the last row. -/
theorem Region.shifted_of_le {columns rows : Nat} {off : UInt16} (hcolumns : 0 < columns)
    (hoff : columns * rows ≤ off.toNat) (direction : Direction) (count : Nat) (v : UInt8)
    (old : UInt16 → UInt8) :
    (Region.mk columns rows columns).shifted direction count v old off = old off := by
  refine if_neg fun hin => ?_
  have hrow : off.toNat / columns < rows := hin.2
  rw [Nat.div_lt_iff_lt_mul hcolumns, Nat.mul_comm] at hrow
  omega

namespace Board

variable {bus : BusWidth} {b c d : Board bus} {start : UInt16} {size : Nat}

/-- The places of `size` cells from the start of a page on. -/
def OnPage (start : UInt16) (size : Nat) : Place → Prop
  | .plane p off => p.val < 2 ∧ start.toNat / 2 ≤ off.toNat ∧ off.toNat < start.toNat / 2 + size
  | .memory _ => False

/-- The cell at an index of a page. -/
def pageCell (b : Board bus) (start : UInt16) (j : Nat) : Cell :=
  b.adapter.cell (UInt16.ofNat (start.toNat / 2 + j))

/-- The cells of a page become `cells`, and nothing else changes. -/
structure Redraws (start : UInt16) (size : Nat) (b : Board bus) (cells : Nat → Cell)
    (c : Board bus) : Prop where
  cells : ∀ j < size, c.pageCell start j = cells j
  frame : ∀ l, ¬ OnPage start size l → c.byteAt l = b.byteAt l

theorem pageCell_congr (h : c.byteAt = b.byteAt) (start : UInt16) (j : Nat) :
    c.pageCell start j = b.pageCell start j :=
  congrArg₂ Cell.mk (congrFun h (.plane .characters _)) (congrFun h (.plane .attributes _))

theorem Redraws.of_byteAt {cells : Nat → Cell} (h : Redraws start size b cells c)
    (hd : d.byteAt = c.byteAt) : Redraws start size b cells d where
  cells j hj := (pageCell_congr hd start j).trans (h.cells j hj)
  frame l hl := (congrFun hd l).trans (h.frame l hl)

theorem Redraws.trans {cells cells' : Nat → Cell} (h : Redraws start size b cells c)
    (g : Redraws start size c cells' d) : Redraws start size b cells' d where
  cells := g.cells
  frame l hl := (g.frame l hl).trans (h.frame l hl)

theorem Redraws.congr {cells cells' : Nat → Cell} (h : Redraws start size b cells c)
    (heq : ∀ j < size, cells j = cells' j) : Redraws start size b cells' c where
  cells j hj := (h.cells j hj).trans (heq j hj)
  frame := h.frame

/-- A page that lies within the aperture of the cells view. -/
structure PageFits (start : UInt16) (size : Nat) : Prop where
  start_mod : start.toNat % 32 = 0
  end_le : start.toNat + 2 * size ≤ 0x8000

theorem planePlace_inj {p q : Plane} {x y : UInt16} :
    planePlace p start x = planePlace q start y ↔ p = q ∧ x = y := by
  rw [planePlace, planePlace, Place.plane.injEq, UInt16.add_right_inj]

namespace PageFits

theorem toNat_planeBase (fits : PageFits start size) :
    (planeBase start).toNat = start.toNat / 2 := by
  have := fits.start_mod
  have := start.toNat_lt
  simp only [planeBase, UInt16.toNat_ofNat']
  omega

theorem planeBase_add (fits : PageFits start size) (j : Nat) :
    planeBase start + UInt16.ofNat j = UInt16.ofNat (start.toNat / 2 + j) := by
  rw [UInt16.ofNat_add, ← fits.toNat_planeBase, UInt16.ofNat_toNat]

theorem pageCell_eq (fits : PageFits start size) (b : Board bus) (j : Nat) :
    b.pageCell start j =
      ⟨b.byteAt (planePlace .characters start (UInt16.ofNat j)),
        b.byteAt (planePlace .attributes start (UInt16.ofNat j))⟩ := by
  rw [planePlace, planePlace, fits.planeBase_add j]
  rfl

/-- The offsets of the cells of a page in the view of a plane. -/
theorem onPage_iff (fits : PageFits start size) {p : Plane} (hp : p.val < 2) (off : UInt16) :
    OnPage start size (planePlace p start off) ↔ off.toNat < size := by
  have hend := fits.end_le
  have hoff := off.toNat_lt
  simp only [planePlace, OnPage, hp, true_and, UInt16.toNat_add, fits.toNat_planeBase]
  omega

theorem toNat_ofNat (fits : PageFits start size) {j : Nat} (hj : j < size) :
    (UInt16.ofNat j).toNat = j := by
  have hend := fits.end_le
  rw [UInt16.toNat_ofNat']
  omega

end PageFits

/-! ## One cell -/

/-- Writing a cell in the cells view. -/
theorem Plain.byteAt_putCell (h : b.Plain) {index : UInt16} (hstart : start.toNat % 32 = 0)
    (hend : start.toNat + 2 * index.toNat < 0x8000) (c : Cell) :
    (b.within .cells start (Backend.storeWord · (index * 2) c.toWord)).byteAt =
      Function.update (Function.update b.byteAt (planePlace .characters start index) c.chr)
        (planePlace .attributes start index) c.attr := by
  have hshows : Backend.Shows (Showing .cells start : Board bus → Prop) byteAt
    (cellPlace start) := shows_cells start
  have hopen := h.showing_openView .cells start
  have hstore := hshows.keeps_store (index * 2) (Word.low c.toWord) hopen
  rw [byteAt_within, Backend.storeWord, hshows.byte_store _ _ hstore, hshows.byte_store _ _ hopen,
    cellPlace_character hstart hend, cellPlace_attribute hstart hend, byteAt_openView,
    Cell.toWord, Word.low_ofBytes, Word.high_ofBytes]

theorem Plain.redraws_putCell (h : b.Plain) (fits : PageFits start size) {index : UInt16}
    (hindex : index.toNat < size) (c : Cell) :
    Redraws start size b (Function.update (b.pageCell start) index.toNat c)
      (b.within .cells start (Backend.storeWord · (index * 2) c.toWord)) := by
  have hlast : start.toNat + 2 * index.toNat < 0x8000 := by
    have := fits.end_le
    omega
  have hput := h.byteAt_putCell fits.start_mod hlast c
  have hchr : Plane.characters ≠ Plane.attributes := by decide
  constructor
  · intro j hj
    have hval := fits.toNat_ofNat hj
    rw [fits.pageCell_eq, hput]
    by_cases hself : j = index.toNat
    · have hoff : UInt16.ofNat j = index := UInt16.toNat_inj.mp (hval.trans hself)
      simp [planePlace_inj, hself, hchr]
    · have hoff : UInt16.ofNat j ≠ index := fun e => hself (e ▸ hval.symm)
      simp [planePlace_inj, hoff, hself, fits.pageCell_eq b]
  · intro l hl
    have hne {p : Plane} (hp : p.val < 2) : l ≠ planePlace p start index := by
      rintro rfl
      exact hl ((fits.onPage_iff hp index).mpr hindex)
    rw [hput, Function.update_of_ne (hne (by decide)), Function.update_of_ne (hne (by decide))]

/-! ## All cells -/

/-- A scroll in the view of a plane shifts the bytes of that plane. -/
theorem Showing.byteAt_scroll {p : Plane} (h : b.Showing (.plane p) start) {r : Region}
    (fits : r.Fits) (direction : Direction) {count : Nat} (hcount : 0 < count) (v : UInt8) :
    let c := r.scroll b direction count v
    c.Showing (.plane p) start ∧
      (∀ off, c.byteAt (planePlace p start off) =
        r.shifted direction count v (fun o => b.byteAt (planePlace p start o)) off) ∧
      ∀ l, (∀ off, planePlace p start off ≠ l) → c.byteAt l = b.byteAt l := by
  have hshows : Backend.Shows (Showing (.plane p) start : Board bus → Prop) byteAt
    (planePlace p start) := shows_plane p start
  have hacc := Region.accesses_scroll (.refl (b := b)) r direction count v
  refine ⟨hshows.flat.keeps hacc h, fun off => ?_, fun l hl => hshows.byte_of_accesses hacc h hl⟩
  exact congrFun (Region.bytes_scroll hshows.flat fits h direction hcount v) off

theorem sameMemory_selectPlane (b : Board bus) (p : Plane) : b.SameMemory (b.selectPlane p) :=
  ⟨rfl, rfl⟩

/-- A scroll of characters and attributes shifts the bytes of planes 0 and 1, each on its own. -/
theorem Plain.byteAt_scrollCells (h : b.Plain) (start : UInt16) {r : Region} (fits : r.Fits)
    (direction : Direction) {count : Nat} (hcount : 0 < count) (attr : UInt8) :
    let c := b.within (.plane .characters) start (·.scrollCells r direction count attr)
    (∀ off, c.byteAt (planePlace .characters start off) =
      r.shifted direction count 0 (fun o => b.byteAt (planePlace .characters start o)) off) ∧
    (∀ off, c.byteAt (planePlace .attributes start off) =
      r.shifted direction count attr (fun o => b.byteAt (planePlace .attributes start o)) off) ∧
    ∀ l, (∀ p off, p.val < 2 → planePlace p start off ≠ l) → c.byteAt l = b.byteAt l := by
  have hapart (x y : UInt16) : planePlace .characters start x ≠ planePlace .attributes start y :=
    fun e => absurd (planePlace_inj.mp e).1 (by decide)
  have hopen := h.showing_openView (.plane .characters) start
  obtain ⟨hshow, hchars, hrest⟩ := hopen.byteAt_scroll fits direction hcount 0
  obtain ⟨-, hattrs, hrest'⟩ :=
    (hshow.selectPlane .attributes).byteAt_scroll fits direction hcount attr
  simp only [(sameMemory_selectPlane _ _).byteAt, byteAt_openView] at hchars hrest hattrs hrest'
  simp only [byteAt_within, scrollCells]
  refine ⟨fun off => ?_, fun off => ?_, fun l hl => ?_⟩
  · rw [hrest' _ fun y => (hapart off y).symm, hchars]
  · simp only [hattrs, hrest _ fun x => hapart x _]
  · rw [hrest' l fun off => hl _ off (by decide), hrest l fun off => hl _ off (by decide)]

variable {columns rows : Nat}

/-- Scrolling all rows of a page up by one, the last of them comes free. -/
theorem PageFits.shifted_up (fits : PageFits start (columns * rows)) (hcolumns : 0 < columns)
    (v : UInt8) (old : UInt16 → UInt8) {j : Nat} (hj : j < columns * rows) :
    (Region.mk columns rows columns).shifted .up 1 v old (UInt16.ofNat j) =
      if j + columns < columns * rows then old (UInt16.ofNat (j + columns)) else v := by
  let r : Region := ⟨columns, rows, columns⟩
  have hval := fits.toNat_ofNat hj
  have hrow : r.row (UInt16.ofNat j) = j / columns := congrArg (· / columns) hval
  have hcolumn : r.column (UInt16.ofNat j) = j % columns := congrArg (· % columns) hval
  have hin : j % columns < columns ∧ j / columns < rows :=
    ⟨Nat.mod_lt _ hcolumns, Nat.div_lt_of_lt_mul hj⟩
  have hnext : j / columns + 1 < rows ↔ j + columns < columns * rows := by
    rw [← Nat.add_div_right j hcolumns, Nat.div_lt_iff_lt_mul hcolumns, Nat.mul_comm]
  have hoff : UInt16.ofNat j + r.rowStart 1 = UInt16.ofNat (j + columns) := by
    simp only [r, Region.rowStart, Nat.mul_one, UInt16.ofNat_add]
  rw [Region.shifted, hrow, hcolumn, if_pos hin, hoff]
  exact if_congr hnext rfl rfl

theorem Plain.redraws_scrollCells (h : b.Plain) (fits : PageFits start (columns * rows))
    (hcolumns : 0 < columns) (attr : UInt8) :
    Redraws start (columns * rows) b
      (fun j => if j + columns < columns * rows then b.pageCell start (j + columns)
        else ⟨0x00, attr⟩)
      (b.within (.plane .characters) start
        (·.scrollCells ⟨columns, rows, columns⟩ .up 1 attr)) := by
  have hsize := fits.end_le
  have hregion : Region.Fits ⟨columns, rows, columns⟩ := by
    refine ⟨Nat.le_refl _, ?_⟩
    change columns * rows ≤ 65536
    omega
  obtain ⟨hchars, hattrs, hrest⟩ := h.byteAt_scrollCells start hregion .up Nat.one_pos attr
  constructor
  · intro j hj
    rw [fits.pageCell_eq, hchars, hattrs, fits.shifted_up hcolumns _ _ hj,
      fits.shifted_up hcolumns _ _ hj]
    split
    · rw [fits.pageCell_eq]
    · rfl
  · intro l hl
    by_cases hview : ∃ p off, p.val < 2 ∧ planePlace p start off = l
    · obtain ⟨p, off, hp, rfl⟩ := hview
      have hoff : columns * rows ≤ off.toNat :=
        Nat.le_of_not_lt fun hlt => hl ((fits.onPage_iff hp off).mpr hlt)
      have hplanes : ∀ q : Plane, q.val < 2 → q = .characters ∨ q = .attributes := by decide
      rcases hplanes p hp with rfl | rfl
      · rw [hchars, Region.shifted_of_le hcolumns hoff]
      · rw [hattrs, Region.shifted_of_le hcolumns hoff]
    · exact hrest l fun p off hp e => hview ⟨p, off, hp, e⟩

end Board

end VgaFirmware
