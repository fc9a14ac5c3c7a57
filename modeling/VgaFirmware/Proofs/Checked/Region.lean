import VgaFirmware.Machine.Region
import VgaFirmware.Proofs.Checked.Board

/-!
# Regions of rows, checked

Rows are counted in a byte, and so are the rows above or below that they are taken from. Offsets
of rows may wrap. Scrolling comes to what it does to the region (`scroll_raw`), whatever the
number of rows to scroll by.
-/

namespace VgaFirmware

/-- A region whose rows and stride are counted as they are kept. -/
structure RawRegion where
  columns : Nat
  rows : UInt8
  stride : UInt16

/-- The region with its numbers as they are. -/
def RawRegion.region (r : RawRegion) : Region := ⟨r.columns, r.rows.toNat, r.stride.toNat⟩

namespace RawRegion

open RawBoard

/-- Offset of a row, which wraps. -/
def rowStart (r : RawRegion) (row : UInt8) : UInt16 := r.stride * row.toUInt16

def clearRow (r : RawRegion) (v : UInt8) (row : Nat) : Work RawBoard Unit :=
  fill (r.rowStart (UInt8.ofNat row)) v r.columns

/-- Fills the rows from `first` up to `past`, which is not one of them. -/
def clear (r : RawRegion) (first past v : UInt8) : Work RawBoard Unit :=
  forM (List.range' first.toNat (past.toNat - first.toNat)) (r.clearRow v)

def copyRow (r : RawRegion) (dst src : UInt8) : Work RawBoard Unit :=
  copy (r.rowStart dst) (r.rowStart src) r.columns

/-- A row becomes the one `count` rows below. -/
def pullUp (r : RawRegion) (count : UInt8) (row : Nat) : Work RawBoard Unit := do
  let src ← Checked.byte (row + count.toNat)
  r.copyRow (UInt8.ofNat row) src

/-- A row becomes the one `count` rows above. -/
def pullDown (r : RawRegion) (count : UInt8) (row : Nat) : Work RawBoard Unit := do
  let src ← Checked.byte (row - count.toNat)
  r.copyRow (UInt8.ofNat row) src

def scrollUp (r : RawRegion) (kept count v : UInt8) : Work RawBoard Unit := do
  forM (List.range kept.toNat) (r.pullUp count)
  r.clear kept r.rows v

def scrollDown (r : RawRegion) (count v : UInt8) : Work RawBoard Unit := do
  forM (List.range' count.toNat (r.rows.toNat - count.toNat)).reverse (r.pullDown count)
  r.clear 0 count v

def scroll (r : RawRegion) (direction : Direction) (count v : UInt8) : Work RawBoard Unit :=
  if r.rows ≤ count then r.clear 0 r.rows v
  else do
    let kept ← Checked.byte (r.rows.toNat - count.toNat)
    match direction with
    | .up => r.scrollUp kept count v
    | .down => r.scrollDown count v

/-! ## Scrolling comes to the same -/

variable (r : RawRegion) (b : Board .word)

theorem rowStart_ofNat {row : Nat} (h : row < 0x100) :
    r.rowStart (UInt8.ofNat row) = r.region.rowStart row := by
  rw [rowStart, Region.rowStart, ← UInt16.toNat_inj, UInt16.toNat_mul, UInt8.toNat_toUInt16,
    UInt8.toNat_ofNat', UInt16.toNat_ofNat', Nat.mod_eq_of_lt h]
  rfl

theorem clearRow_raw (v : UInt8) {row : Nat} (h : row < 0x100) :
    (r.clearRow v row).run b.raw =
      .ok ((), (Backend.fill b (r.region.rowStart row) v r.columns).raw) := by
  rw [clearRow, rowStart_ofNat r h, fill_raw]

theorem clear_raw (first past v : UInt8) :
    (r.clear first past v).run b.raw =
      .ok ((), (r.region.clear b first.toNat (past.toNat - first.toNat) v).raw) := by
  have hpast := past.toNat_lt
  refine Work.run_forM (r.clearRow v)
    (fun b row => Backend.fill b (r.region.rowStart row) v r.columns) Board.raw _
    (fun row hrow b => r.clearRow_raw b v ?_) b
  rw [List.mem_range'_1] at hrow
  omega

theorem copyRow_raw {dst src : Nat} (hdst : dst < 0x100) (hsrc : src < 0x100) :
    (r.copyRow (UInt8.ofNat dst) (UInt8.ofNat src)).run b.raw =
      .ok ((), (r.region.copyRow b dst src).raw) := by
  rw [copyRow, rowStart_ofNat r hdst, rowStart_ofNat r hsrc, copy_raw]
  rfl

theorem pullUp_raw (count : UInt8) {row : Nat} (h : row + count.toNat < 0x100) :
    (r.pullUp count row).run b.raw =
      .ok ((), (r.region.copyRow b row (row + count.toNat)).raw) := by
  have hsrc : Checked.byte (row + count.toNat) = .ok (UInt8.ofNat (row + count.toNat)) :=
    Checked.byte_eq (by omega) h
  rw [pullUp, Work.run_bind (Work.run_lift hsrc _), copyRow_raw r b (by omega) h]

theorem pullDown_raw (count : UInt8) {row : Nat} (hcount : count.toNat ≤ row) (hrow : row < 0x100) :
    (r.pullDown count row).run b.raw =
      .ok ((), (r.region.copyRow b row (row - count.toNat)).raw) := by
  have hsrc : Checked.byte (row - count.toNat) = .ok (UInt8.ofNat (row - count.toNat)) :=
    Checked.byte_eq (by omega) (by omega)
  rw [pullDown, Work.run_bind (Work.run_lift hsrc _), copyRow_raw r b hrow (by omega)]

theorem scrollUp_raw {kept count : UInt8} (v : UInt8)
    (h : kept.toNat + count.toNat = r.rows.toNat) :
    (r.scrollUp kept count v).run b.raw = .ok ((), (r.region.scrollUp b count.toNat v).raw) := by
  have hrows := r.rows.toNat_lt
  have hloop := Work.run_forM (r.pullUp count)
    (fun b row => r.region.copyRow b row (row + count.toNat)) Board.raw (List.range kept.toNat)
    (fun row hrow b => r.pullUp_raw b count (by rw [List.mem_range] at hrow; omega)) b
  have hregion : r.region.rows = r.rows.toNat := rfl
  have hkept : kept.toNat = r.region.rows - count.toNat := by omega
  have hfree : r.rows.toNat - kept.toNat = count.toNat := by omega
  rw [scrollUp, Work.run_bind hloop, clear_raw, hfree, Region.scrollUp, ← hkept]

theorem scrollDown_raw (count v : UInt8) :
    (r.scrollDown count v).run b.raw = .ok ((), (r.region.scrollDown b count.toNat v).raw) := by
  have hrows := r.rows.toNat_lt
  have hloop := Work.run_forM (r.pullDown count)
    (fun b row => r.region.copyRow b row (row - count.toNat)) Board.raw
    (List.range' count.toNat (r.rows.toNat - count.toNat)).reverse
    (fun row hrow b => by
      rw [List.mem_reverse, List.mem_range'_1] at hrow
      exact r.pullDown_raw b count hrow.1 (by omega)) b
  -- the rows that change, as the rows that they come from
  have hfrom : (List.range' count.toNat (r.rows.toNat - count.toNat)).reverse.foldl
      (fun b row => r.region.copyRow b row (row - count.toNat)) b =
      (List.range (r.rows.toNat - count.toNat)).reverse.foldl
        (fun b row => r.region.copyRow b (row + count.toNat) row) b := by
    simp only [List.range'_eq_map_range, ← List.map_reverse, List.foldl_map,
      Nat.add_comm count.toNat, Nat.add_sub_cancel]
  rw [scrollDown, Work.run_bind hloop, hfrom, clear_raw]
  rfl

theorem scroll_raw (direction : Direction) (count v : UInt8) :
    (r.scroll direction count v).run b.raw =
      .ok ((), (r.region.scroll b direction count.toNat v).raw) := by
  have hrows := r.rows.toNat_lt
  by_cases h : r.rows ≤ count
  · have hregion : r.region.rows ≤ count.toNat := UInt8.le_iff_toNat_le.mp h
    rw [scroll, if_pos h, Region.scroll.eq_def, if_pos hregion, clear_raw]
    rfl
  · have hregion : ¬ r.region.rows ≤ count.toNat := mt UInt8.le_iff_toNat_le.mpr h
    have hlt : count.toNat < r.rows.toNat := Nat.lt_of_not_le hregion
    have hkept : Checked.byte (r.rows.toNat - count.toNat) =
        .ok (UInt8.ofNat (r.rows.toNat - count.toNat)) := Checked.byte_eq (by omega) (by omega)
    rw [scroll, if_neg h, Region.scroll.eq_def, if_neg hregion,
      Work.run_bind (Work.run_lift hkept _)]
    cases direction with
    | up =>
      refine scrollUp_raw r b v ?_
      rw [UInt8.toNat_ofNat']
      omega
    | down => exact scrollDown_raw r b count v

end RawRegion

end VgaFirmware
