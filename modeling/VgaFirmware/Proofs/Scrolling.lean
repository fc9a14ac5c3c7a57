import VgaFirmware.Proofs.CallerMemory
import VgaFirmware.Proofs.ClosedPlanes
import VgaFirmware.Proofs.PageCells
import VgaFirmware.Proofs.Usable

/-!
# Scrolling, cell by cell

A scroll moves whole rows of the region, so that each cell takes the bytes of the cell `count` rows
away in its column, if that row is in the region (`Direction.source?`), and is filled otherwise.
This holds on every page, also on those whose cells the cells view does not reach, since scrolls go
through the views of single planes (`Started.scroll_rows`).
-/

namespace VgaFirmware

/-- The row of a region that scrolling by `count` brings to row `y`, if there is one. -/
def Direction.source? (direction : Direction) (count rows y : Nat) : Option Nat :=
  match direction with
  | up => if y + count < rows then some (y + count) else none
  | down => if count ≤ y then some (y - count) else none

/-! ## Cells of a region -/

namespace Region

variable {r : Region} {x y count : Nat}

/-- The offset of a cell. -/
def offset (r : Region) (x y : Nat) : UInt16 := UInt16.ofNat (r.stride * y + x)

theorem offset_add_rowStart (r : Region) (x y count : Nat) :
    r.offset x y + r.rowStart count = r.offset x (y + count) := by
  rw [offset, rowStart, ← UInt16.ofNat_add, offset, Nat.mul_add]
  congr 1
  omega

theorem offset_sub_rowStart (r : Region) (x : Nat) (h : count ≤ y) :
    r.offset x y - r.rowStart count = r.offset x (y - count) := by
  have hback := r.offset_add_rowStart x (y - count) count
  rw [Nat.sub_add_cancel h] at hback
  rw [← hback, UInt16.add_sub_cancel]

namespace Fits

theorem row_column_offset (fits : r.Fits) (hx : x < r.columns) (hy : y < r.rows) :
    r.row (r.offset x y) = y ∧ r.column (r.offset x y) = x := by
  have hend := fits.row_end_le hy
  have hcolumns := fits.columns_le
  refine row_column_of_toNat (by omega) ?_
  rw [offset, UInt16.toNat_ofNat', Nat.mod_eq_of_lt (by omega)]

/-- A cell of the region takes the byte of its source row. -/
theorem shifted_offset (fits : r.Fits) (hx : x < r.columns) (hy : y < r.rows)
    (direction : Direction) (count : Nat) (v : UInt8) (old : UInt16 → UInt8) :
    r.shifted direction count v old (r.offset x y) =
      (direction.source? count r.rows y).elim v fun z => old (r.offset x z) := by
  obtain ⟨hrow, hcolumn⟩ := fits.row_column_offset hx hy
  unfold shifted
  rw [hrow, hcolumn, if_pos ⟨hx, hy⟩]
  cases direction with
  | up =>
    simp only [Direction.source?, offset_add_rowStart]
    split <;> rfl
  | down =>
    simp only [Direction.source?]
    split
    · next hcount => simp only [r.offset_sub_rowStart x hcount, Option.elim_some]
    · rfl

/-- Every other offset keeps its byte. -/
theorem shifted_of_forall_ne (direction : Direction) (count : Nat) (v : UInt8)
    (old : UInt16 → UInt8) {off : UInt16}
    (h : ∀ x < r.columns, ∀ y < r.rows, off ≠ r.offset x y) :
    r.shifted direction count v old off = old off := by
  refine if_neg fun ⟨hcolumn, hrow⟩ => h _ hcolumn _ hrow ?_
  rw [offset, ← r.toNat_eq, UInt16.ofNat_toNat]

end Fits

end Region

/-! ## Cells of a page -/

/-- The offset of a cell of the page on display in planes 0 and 1. -/
def Screen.cellOffset (d : Screen) (x y : Nat) : UInt16 :=
  UInt16.ofNat ((d.pageStart d.activePage).toNat / 2 + d.columns.toNat * y + x)

namespace Screen.InMode

variable {d : Screen} {spec : ModeSpec}

theorem fits_region (h : d.InMode spec) (columns rows : UInt8) : (d.region columns rows).Fits where
  columns_le := by
    simp only [region, Byte.toNat_least]
    omega
  rows_le := by
    have hsize := h.size_le
    have hrows : d.columns.toNat * min rows.toNat d.rows.toNat ≤
        d.columns.toNat * d.rows.toNat := Nat.mul_le_mul_left _ (Nat.min_le_right _ _)
    simp only [region, Byte.toNat_least]
    omega

/-- The view of a plane shows the cells of the page at the offsets of the region. -/
theorem planePlace_offset (h : d.InMode spec) (p : Plane) (columns rows : UInt8) (x y : Nat) :
    Board.planePlace p (d.pageStart d.activePage) ((d.region columns rows).offset x y) =
      .plane p (d.cellOffset x y) := by
  have hmod := h.pageStart_mod d.activePage
  have hbase : 16 * ((d.pageStart d.activePage).toNat / 32) =
      (d.pageStart d.activePage).toNat / 2 := by omega
  rw [Board.planePlace, Board.planeBase, hbase, Region.offset, ← UInt16.ofNat_add, ← Nat.add_assoc]
  rfl

end Screen.InMode

namespace Service

variable {bus : BusWidth} {window : UInt16} {spec : ModeSpec} {s : Service (Board bus)}

/-- What a scroll leaves in the cells of the region, and that it leaves everything else. -/
theorem Usable.byteAt_scroll (h : s.Usable window spec) (direction : Direction) {count : UInt8}
    (hcount : count ≠ 0) (attr columns rows : UInt8) :
    let c := (s.scroll direction count attr columns rows).machine.hardware
    let r := s.screen.region columns rows
    (∀ x < r.columns, ∀ y < r.rows,
      c.byteAt (.plane .characters (s.screen.cellOffset x y)) =
        (direction.source? count.toNat r.rows y).elim 0 (fun z =>
          s.machine.hardware.byteAt (.plane .characters (s.screen.cellOffset x z))) ∧
      c.byteAt (.plane .attributes (s.screen.cellOffset x y)) =
        (direction.source? count.toNat r.rows y).elim attr (fun z =>
          s.machine.hardware.byteAt (.plane .attributes (s.screen.cellOffset x z)))) ∧
    ∀ l, (∀ p x y, p.val < 2 → x < r.columns → y < r.rows →
        l ≠ .plane p (s.screen.cellOffset x y)) →
      c.byteAt l = s.machine.hardware.byteAt l := by
  intro c r
  have hfits : r.Fits := h.screen.fits_region columns rows
  have hpos : 0 < count.toNat := Nat.pos_of_ne_zero fun e => hcount (UInt8.toNat_inj.mp e)
  have hc : c = _ := s.hardware_scrollPage hcount s.screen.activePage direction attr columns rows
  obtain ⟨hchars, hattrs, hrest⟩ := h.ready.plain.byteAt_scrollCells
    (s.screen.pageStart s.screen.activePage) hfits direction hpos attr
  rw [← hc] at hchars hattrs hrest
  have hplace (p : Plane) (x y : Nat) :
      Board.planePlace p (s.screen.pageStart s.screen.activePage) (r.offset x y) =
        .plane p (s.screen.cellOffset x y) := h.screen.planePlace_offset p columns rows x y
  refine ⟨fun x hx y hy => ?_, fun l hl => ?_⟩
  · simp only [← hplace]
    rw [hchars, hattrs, hfits.shifted_offset hx hy, hfits.shifted_offset hx hy]
    exact ⟨rfl, rfl⟩
  · by_cases hview : ∃ p off, p.val < 2 ∧
        Board.planePlace p (s.screen.pageStart s.screen.activePage) off = l
    · obtain ⟨p, off, hp, rfl⟩ := hview
      have hne : ∀ x < r.columns, ∀ y < r.rows, off ≠ r.offset x y := by
        rintro x hx y hy rfl
        exact hl p x y hp hx hy (hplace p x y)
      have hplanes : ∀ q : Plane, q.val < 2 → q = .characters ∨ q = .attributes := by decide
      rcases hplanes p hp with rfl | rfl
      · rw [hchars, Region.Fits.shifted_of_forall_ne _ _ _ _ hne]
      · rw [hattrs, Region.Fits.shifted_of_forall_ne _ _ _ _ hne]
    · exact hrest l fun p off hp e => hview ⟨p, off, hp, e⟩

/-- Scrolling is a shift of the rows of a region of the page on display, cut to the screen: in each
column the characters and the attributes move by `count` rows, the rows that come free are filled,
and nothing else changes, neither in the planes nor in the caller's memory nor on the screen. -/
theorem Started.scroll_rows (h : s.Started window) (direction : Direction)
    (count attr columns rows : UInt8) :
    let t := s.scroll direction count attr columns rows
    let width := min columns.toNat s.screen.columns.toNat
    let height := min rows.toNat s.screen.rows.toNat
    t.screen = s.screen ∧ (count = 0 → t = s) ∧ (count ≠ 0 →
      (∀ x < width, ∀ y < height,
        t.plane .characters (s.screen.cellOffset x y) =
          (direction.source? count.toNat height y).elim 0 (fun z =>
            s.plane .characters (s.screen.cellOffset x z)) ∧
        t.plane .attributes (s.screen.cellOffset x y) =
          (direction.source? count.toNat height y).elim attr (fun z =>
            s.plane .attributes (s.screen.cellOffset x z))) ∧
      (∀ (p : Plane) (off : UInt16),
        (p.val < 2 → ∀ x < width, ∀ y < height, off ≠ s.screen.cellOffset x y) →
          t.plane p off = s.plane p off) ∧
      t.machine.hardware.ram = s.machine.hardware.ram) := by
  intro t width height
  obtain ⟨spec, hs⟩ := h.usable
  refine ⟨(s.quiet_scrollPage _ direction count attr columns rows).screen, fun hcount => ?_,
    fun hcount => ?_⟩
  · exact if_pos hcount
  · have hwidth : (s.screen.region columns rows).columns = width := Byte.toNat_least _ _
    have hheight : (s.screen.region columns rows).rows = height := Byte.toNat_least _ _
    obtain ⟨hcells, hrest⟩ := hs.byteAt_scroll direction hcount attr columns rows
    simp only [hwidth, hheight] at hcells hrest
    refine ⟨hcells, fun p off hoff => hrest (.plane p off) ?_, s.ram_scrollPage _ _ _ _ _ _⟩
    rintro q x y hq hx hy e
    obtain ⟨rfl, rfl⟩ := Place.plane.inj e
    exact hoff hq x hx y hy rfl

/-- In a text mode of 80 columns, scrolling the whole screen up by a row blanks the last one. -/
theorem Started.scroll_rows_text :
    Started 0 (poweredOn 0x03) ∧
      ∀ x < 80, ((poweredOn 0x03).scroll .up 1 0x17 80 25).plane .attributes
        ((poweredOn 0x03).screen.cellOffset x 24) = 0x17 := by
  have h : Started 0 (poweredOn 0x03) := (reachable_poweredOn 0x03 rfl).started
  obtain ⟨-, -, hshift⟩ := h.scroll_rows .up 1 0x17 80 25
  obtain ⟨hcells, -⟩ := hshift (by decide)
  have hcolumns : (poweredOn 0x03).screen.columns = 80 := by rw [screen_poweredOn 0x03 rfl]; rfl
  have hrows : (poweredOn 0x03).screen.rows = 25 := by rw [screen_poweredOn 0x03 rfl]; rfl
  rw [hcolumns, hrows] at hcells
  exact ⟨h, fun x hx => (hcells x hx 24 (by decide)).2⟩

end Service

end VgaFirmware
