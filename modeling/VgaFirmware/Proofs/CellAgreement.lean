import VgaFirmware.Proofs.CellRun
import VgaFirmware.Proofs.CleanScreen
import VgaFirmware.Proofs.Usable

/-!
# Both views of a cell

Plain characters go through the view of a plane, whole cells through the cells view. Where a cell
lies within the 32 KiB of the aperture, both views show it at the same place, so a character that
is written is also the one that is read. Beyond, the cells view shows the caller's memory.
-/

namespace VgaFirmware

variable {bus : BusWidth}

namespace Board

/-- The cell at an index of a page, as the cells view shows it. -/
def viewedCell (b : Board bus) (start index : UInt16) : Cell :=
  ⟨b.byteAt (cellPlace start (index * 2)), b.byteAt (cellPlace start (index * 2 + 1))⟩

theorem viewedCell_congr {b c : Board bus} (h : c.byteAt = b.byteAt) (start index : UInt16) :
    c.viewedCell start index = b.viewedCell start index := by
  rw [viewedCell, h, viewedCell]

theorem Plain.byteAt_fillPlane {b : Board bus} (h : b.Plain) (p : Plane) (start dst : UInt16)
    (v : UInt8) (count : Nat) (off : UInt16) :
    (b.within (.plane p) start (Backend.fill · dst v count)).byteAt (planePlace p start off) =
      if (off - dst).toNat < count then v else b.byteAt (planePlace p start off) := by
  have hopen := h.showing_openView (.plane p) start
  have hfill := congrFun ((shows_plane p start).flat.bytes_fill hopen dst v count) off
  rw [byteAt_within]
  exact hfill

theorem Plain.byteAt_fillPlane_of_ne {b : Board bus} (h : b.Plain) {p : Plane}
    {start dst : UInt16} {v : UInt8} {count : Nat} {l : Place}
    (hl : ∀ off, planePlace p start off ≠ l) :
    (b.within (.plane p) start (Backend.fill · dst v count)).byteAt l = b.byteAt l :=
  h.byteAt_within_of_ne (shows_plane p start) (.fill .refl dst v count) hl

/-- Characters that are written through the view of plane 0 show in the cells view as long as
they lie within its aperture. -/
theorem Plain.viewedCell_fillPlane {b : Board bus} (h : b.Plain) {start index : UInt16}
    (hstart : start.toNat % 32 = 0) (hindex : index.toNat < 0x4000) (chr : UInt8) {count : Nat}
    (hcount : 0 < count) :
    (b.within (.plane .characters) start (Backend.fill · index chr count)).viewedCell start
        index =
      if start.toNat + 2 * index.toNat < 0x8000 then ⟨chr, (b.viewedCell start index).attr⟩
      else b.viewedCell start index := by
  split
  · next hend =>
    have hattr : ∀ off, planePlace .characters start off ≠ planePlace .attributes start index :=
      fun off e => absurd (Place.plane.inj e).1 (by decide)
    have hself : (index - index).toNat < count := by
      rw [UInt16.sub_self]
      exact hcount
    simp only [viewedCell, cellPlace_character hstart hend, cellPlace_attribute hstart hend,
      h.byteAt_fillPlane, if_pos hself, h.byteAt_fillPlane_of_ne hattr]
  · next hend =>
    have hchr : 0x8000 ≤ cellOffset start (index * 2) := by
      simp only [cellOffset, UInt16.toNat_mul, UInt16.reduceToNat]
      omega
    have hattr : 0x8000 ≤ cellOffset start (index * 2 + 1) := by
      simp only [cellOffset, UInt16.toNat_add, UInt16.toNat_mul, UInt16.reduceToNat]
      omega
    have hmemory (a : Address) (off : UInt16) : planePlace .characters start off ≠ .memory a :=
      Place.noConfusion
    simp only [viewedCell, cellPlace_of_le hchr, cellPlace_of_le hattr,
      h.byteAt_fillPlane_of_ne (hmemory _)]

end Board

namespace Service

variable {window : UInt16} {spec : ModeSpec} {s : Service (Board bus)} {page : UInt8}
  {p : Position}

theorem fst_lookCell (h : s.machine.hardware.Plain) (page : UInt8) (p : Position) :
    Cell.ofWord (s.lookCell page p).1 =
      s.machine.hardware.viewedCell (s.screen.pageStart page) (s.screen.cellIndex p) := by
  have hopen := h.showing_openView .cells (s.screen.pageStart page)
  rw [lookCell, fst_query, Machine.fst_inspect_query,
    (Board.shows_cells (s.screen.pageStart page)).flat.fst_loadWord hopen]
  simp only [Cell.ofWord, Word.low_ofBytes, Word.high_ofBytes, Board.byteAt_openView,
    Board.viewedCell]

/-- Reading a cell gives what the cells view shows under the stored cursor. -/
theorem fst_readCell (h : s.machine.hardware.Plain) (hp : s.cursorOf page = .ok p) :
    (s.readCell page).1 =
      .ok (s.machine.hardware.viewedCell (s.screen.pageStart page) (s.screen.cellIndex p)) := by
  rw [s.readCell_eq hp, fst_lookCell h]

/-- What is read at the cursor of a page after characters were written there. -/
theorem Usable.readCell_writeCharacters (h : s.Usable window spec)
    (hp : s.cursorOf page = .ok p)
    (hlt : (s.screen.cellIndex p).toNat < s.screen.columns.toNat * s.screen.rows.toNat)
    (chr : UInt8) {count : UInt16} (hcount : count ≠ 0) :
    let c := s.machine.hardware.viewedCell (s.screen.pageStart page) (s.screen.cellIndex p)
    let t := (s.readCell page).2.writeCharacters page chr count
    t.1 = .ok () ∧ (t.2.readCell page).1 = .ok
      (if (s.screen.pageStart page).toNat + 2 * (s.screen.cellIndex p).toNat < 0x8000 then
        ⟨chr, c.attr⟩
      else c) := by
  have hindex : (s.screen.cellIndex p).toNat < 0x4000 := by
    have := h.screen.size_le
    omega
  have hpos : 0 < count.toNat :=
    Nat.pos_of_ne_zero fun e => hcount (UInt16.toNat_inj.mp e)
  have hread := s.quiet_readCell page
  have hbytes := (s.sameMemory_readCell page).byteAt
  generalize (s.readCell page).2 = s₁ at hread hbytes
  have hp₁ := (hread.cursorOf page).trans hp
  have hplain₁ := hread.registers.plain h.ready.plain
  have hwrite := s₁.quiet_writeCharacters page chr count
  have hsecond := fst_readCell (hwrite.registers.plain hplain₁)
    ((hwrite.cursorOf page).trans hp₁)
  rw [s₁.hardware_writeCharacters hp₁, hwrite.screen, hread.screen,
    hplain₁.viewedCell_fillPlane (h.pageStart_mod page) hindex chr hpos,
    Board.viewedCell_congr hbytes] at hsecond
  exact ⟨by rw [s₁.writeCharacters_eq hp₁], hsecond⟩

/-- After a character is written at the cursor of a page, the cell that is read there is that
character with the attribute of before, exactly if the cell lies within the aperture of the cells
view or was the character already. -/
theorem Started.readCell_writeCharacters_iff (h : s.Started window) (page : UInt8)
    (hpage : page.toNat < 8) (chr : UInt8) (count : UInt16) (hcount : count ≠ 0) :
    ∃ p c s₂, s.cursorOf page = .ok p ∧ (s.readCell page).1 = .ok c ∧
      (s.readCell page).2.writeCharacters page chr count = (.ok (), s₂) ∧
      ((s₂.readCell page).1 = .ok ⟨chr, c.attr⟩ ↔
        (s.screen.pageStart page).toNat + 2 * (s.screen.cellIndex p).toNat < 0x8000 ∨
          c.chr = chr) := by
  obtain ⟨spec, husable⟩ := h.usable
  obtain ⟨p, hp, hlt⟩ := exists_cursor husable.screen hpage
  obtain ⟨hok, hsecond⟩ := husable.readCell_writeCharacters hp hlt chr hcount
  refine ⟨p, _, _, hp, fst_readCell husable.ready.plain hp, Prod.ext hok rfl, ?_⟩
  rw [hsecond]
  split
  · next hend => simp [hend]
  · next hend =>
    generalize s.machine.hardware.viewedCell _ _ = c
    obtain ⟨c₀, a₀⟩ := c
    simp [hend]

/-- On the blank screen after power-on the attribute that stays is zero. -/
theorem Started.readCell_writeCharacters_text :
    Started 0 (poweredOn 0x03) ∧ (0 : UInt8).toNat < 8 ∧ (1 : UInt16) ≠ 0 ∧
      ((poweredOn 0x03).readCell 0).1 = .ok ⟨0, 0⟩ ∧
      ∃ s₂, ((poweredOn 0x03).readCell 0).2.writeCharacters 0 0x41 1 = (.ok (), s₂) ∧
        (s₂.readCell 0).1 = .ok ⟨0x41, 0⟩ := by
  have h : Started 0 (poweredOn 0x03) := (reachable_poweredOn _ rfl).started
  obtain ⟨spec, husable⟩ := h.usable
  obtain ⟨p, c, s₂, hp, hfirst, hwrite, hsecond⟩ :=
    h.readCell_writeCharacters_iff 0 (by decide) 0x41 1 (by decide)
  obtain rfl := eq_cursor_of_cursorOf hp .first rfl
  have hstart : (poweredOn 0x03).screen.pageStart 0 = 0 := by
    rw [screen_poweredOn 0x03 rfl]
    decide +kernel
  have hindex : (poweredOn 0x03).screen.cellIndex ((poweredOn 0x03).screen.cursor .first) = 0 := by
    rw [screen_poweredOn 0x03 rfl]
    decide +kernel
  have hspec : ModeSpec.lookup 0x03 = .ok (.text 0x03 .wide 0x1000) := rfl
  have hblank : (poweredOn 0x03).machine.hardware.viewedCell 0 0 = ⟨0, 0⟩ := by
    rw [Board.viewedCell, Board.cellPlace_character (by decide) (by decide),
      Board.cellPlace_attribute (by decide) (by decide)]
    simp only [Board.byteAt, Board.planePlace,
      get_poweredOn hspec (show Plane.characters ≠ .glyphs by decide),
      get_poweredOn hspec (show Plane.attributes ≠ .glyphs by decide)]
  rw [fst_readCell husable.ready.plain hp, hstart, hindex, hblank] at hfirst
  obtain rfl := Except.ok.inj hfirst
  rw [hstart, hindex] at hsecond
  refine ⟨h, by decide, by decide, ?_, s₂, hwrite, hsecond.mpr (.inl (by decide))⟩
  rw [fst_readCell husable.ready.plain hp, hstart, hindex, hblank]

/-- On the second page of a graphics mode the two views part: a character that is written there
is not the one that is read. -/
theorem Started.readCell_misses_second_page :
    let s := poweredOn 0x10
    let t := (s.readCell 1).2.writeCharacters 1 0x41 1
    Started 0 s ∧ (s.readCell 1).1 = .ok ⟨0, 0⟩ ∧ t.1 = .ok () ∧
      (t.2.readCell 1).1 = .ok ⟨0, 0⟩ := by
  have h : Started 0 (poweredOn 0x10) := (reachable_poweredOn _ rfl).started
  obtain ⟨spec, husable⟩ := h.usable
  obtain ⟨p, hp, hlt⟩ := exists_cursor husable.screen (show (1 : UInt8).toNat < 8 by decide)
  obtain rfl := eq_cursor_of_cursorOf hp ⟨1, by decide⟩ rfl
  obtain ⟨hok, hsecond⟩ :=
    husable.readCell_writeCharacters hp hlt 0x41 (show (1 : UInt16) ≠ 0 by decide)
  have hstart : (poweredOn 0x10).screen.pageStart 1 = 0x8000 := by
    rw [screen_poweredOn 0x10 rfl]
    decide +kernel
  have hindex : (poweredOn 0x10).screen.cellIndex
      ((poweredOn 0x10).screen.cursor ⟨1, by decide⟩) = 0 := by
    rw [screen_poweredOn 0x10 rfl]
    decide +kernel
  have hblank : (poweredOn 0x10).machine.hardware.viewedCell 0x8000 0 = ⟨0, 0⟩ := by
    rw [Board.viewedCell, Board.cellPlace_of_le (by decide), Board.cellPlace_of_le (by decide)]
    simp only [Board.byteAt, ram_poweredOn 0x10 rfl, Ram.get_blank]
  rw [hstart, hindex, if_neg (by decide), hblank] at hsecond
  refine ⟨h, ?_, hok, hsecond⟩
  rw [fst_readCell husable.ready.plain hp, hstart, hindex, hblank]

end Service

end VgaFirmware
