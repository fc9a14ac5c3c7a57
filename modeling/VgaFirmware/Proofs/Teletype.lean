import VgaFirmware.Proofs.PageCells
import VgaFirmware.Proofs.Reachable
import VgaFirmware.Proofs.Tape

/-!
# Teletype output

Teletype output lays its cells on a tape that starts at the stored cursor of the page. One cell
more on the tape is one call (`Typed.teletype`), so any list of cells gives the tape that it
spells (`Reachable.teletypeAll_tape`).
-/

namespace VgaFirmware

theorem Byte.up_lt_iff {b c : UInt8} : Byte.up b < c ↔ b.toNat + 1 < c.toNat := by
  have := c.toNat_lt
  rw [UInt8.lt_iff_toNat_lt, Byte.toNat_up]
  omega

namespace Service

variable {bus : BusWidth} {window : UInt16} {spec : ModeSpec} {s t u : Service (Board bus)}
  {page : UInt8} {slot : Page}

/-- Setting the cursor of a page that exists stores it, and leaves all memory. -/
theorem exists_setCursorPosition (s : Service (Board bus)) (hslot : slot.val = page.toNat)
    {x y : UInt8} (hx : x.toNat < s.screen.columns.toNat) (hy : y.toNat < s.screen.rows.toNat) :
    ∃ t, s.setCursorPosition page x y = (.ok (), t) ∧
      t.screen = s.screen.setCursor slot ⟨x, y⟩ ∧
      t.machine.hardware.byteAt = s.machine.hardware.byteAt := by
  have hclamp : s.screen.clamp ⟨x, y⟩ = ⟨x, y⟩ := Screen.clamp_eq hx hy
  simp only [setCursorPosition, Page.ofByte_eq_ok.mpr hslot, hclamp]
  refine ⟨_, rfl, ?_⟩
  split
  · exact ⟨rfl, (s.machine.sameMemory_writeRegPair _ _ _).byteAt⟩
  · exact ⟨rfl, rfl⟩

theorem cursorOf_of_ne (hslot : slot.val = page.toNat) {p : Position}
    (hscreen : t.screen = s.screen.setCursor slot p) {other : UInt8} (hother : other ≠ page) :
    t.cursorOf other = s.cursorOf other := by
  simp only [cursorOf, hscreen]
  cases ho : Page.ofByte other with
  | error e => rfl
  | ok o =>
    have hne : o ≠ slot := by
      rintro rfl
      exact hother (UInt8.toNat_inj.mp ((Page.ofByte_eq_ok.mp ho).symm.trans hslot))
    simp only [Except.map, Screen.cursor_setCursor, if_neg hne]

/-! ## Teletype output -/

/-- The tape of a page: cells written from its stored cursor on. -/
def tapeOf (s : Service (Board bus)) (page : UInt8) (slot : Page) (written : List Cell) :
    Nat → Cell :=
  tape (s.screen.columns.toNat * s.screen.rows.toNat)
    (s.machine.hardware.pageCell (s.screen.pageStart page))
    (s.screen.cellIndex (s.screen.cursor slot)).toNat written

/-- Where that tape ends. -/
def tapeEnd (s : Service (Board bus)) (slot : Page) (written : List Cell) : Nat :=
  (s.screen.cellIndex (s.screen.cursor slot)).toNat + written.length

/-- From `s` to `t`, the page comes to show its cells `gone` rows down the tape; no other byte
changes. -/
def Shows (page : UInt8) (s : Service (Board bus)) (cells : Nat → Cell) (gone : Nat)
    (t : Service (Board bus)) : Prop :=
  Board.Redraws (s.screen.pageStart page) (s.screen.columns.toNat * s.screen.rows.toNat)
    s.machine.hardware (fun j => cells (j + s.screen.columns.toNat * gone)) t.machine.hardware

/-- What becomes of a service when `written` is written at the cursor of a page: the page shows
the end of the tape, with the cursor behind it. -/
structure Typed (page : UInt8) (slot : Page) (s : Service (Board bus)) (written : List Cell)
    (t : Service (Board bus)) : Prop where
  screen : ∃ p, t.screen = s.screen.setCursor slot p ∧
    p.EndsAt s.screen.columns.toNat s.screen.rows.toNat (s.tapeEnd slot written)
  shows : Shows page s (s.tapeOf page slot written)
    (rowsGone s.screen.columns.toNat s.screen.rows.toNat (s.tapeEnd slot written)) t

theorem tapeEnd_concat (s : Service (Board bus)) (slot : Page) (written : List Cell) (c : Cell) :
    s.tapeEnd slot (written ++ [c]) = s.tapeEnd slot written + 1 := by
  rw [tapeEnd, List.length_append, List.length_singleton, ← Nat.add_assoc, tapeEnd]

theorem tapeOf_concat (s : Service (Board bus)) (page : UInt8) (slot : Page)
    (written : List Cell) (c : Cell) :
    s.tapeOf page slot (written ++ [c]) =
      Function.update (s.tapeOf page slot written) (s.tapeEnd slot written) c :=
  tape_concat _ _ _ _ _

theorem tapeOf_of_le {s : Service (Board bus)} {slot : Page} {written : List Cell} {j : Nat}
    (hend : s.tapeEnd slot written ≤ j)
    (hsize : s.screen.columns.toNat * s.screen.rows.toNat ≤ j) (page : UInt8) :
    s.tapeOf page slot written j = ⟨0x00, 0x07⟩ :=
  tape_of_le _ hend hsize

/-- Nothing written leaves a service as it is. -/
theorem Typed.nil (h : s.screen.InMode spec) (page : UInt8) (slot : Page) :
    Typed page slot s [] s := by
  have hcell : s.tapeEnd slot [] = s.screen.columns.toNat * (s.screen.cursor slot).y.toNat +
      (s.screen.cursor slot).x.toNat := s.screen.toNat_cellIndex _
  obtain ⟨hgone, hends⟩ := Position.endsAt (h.cursor_x slot) (h.cursor_y slot)
  rw [← hcell] at hgone hends
  refine ⟨⟨_, (s.screen.setCursor_self slot).symm, hends⟩, ?_⟩
  rw [hgone]
  constructor
  · intro j hj
    exact (tape_nil _ _ hj).symm
  · intro l _
    rfl

variable {p : Position} {written : List Cell} {gone : Nat} {cells : Nat → Cell}

/-- Writing a cell at the end of the tape. -/
theorem Shows.putCell (h : Shows page s (s.tapeOf page slot written) gone t)
    (ht : t.machine.hardware.Plain) (hscreen : t.screen = s.screen.setCursor slot p)
    (fits : Board.PageFits (s.screen.pageStart page)
      (s.screen.columns.toNat * s.screen.rows.toNat))
    (hindex : (t.screen.cellIndex p).toNat < s.screen.columns.toNat * s.screen.rows.toNat)
    (hend : (t.screen.cellIndex p).toNat + s.screen.columns.toNat * gone = s.tapeEnd slot written)
    (c : Cell) :
    Shows page s (s.tapeOf page slot (written ++ [c])) gone (t.putCell page p c) := by
  have hstart : t.screen.pageStart page = s.screen.pageStart page :=
    congrArg (·.pageStart page) hscreen
  have hput := ht.redraws_putCell fits hindex c
  rw [Shows, hardware_putCell, hstart]
  refine (Board.Redraws.trans h hput).congr fun j hj => ?_
  rw [Function.update_apply, h.cells j hj, tapeOf_concat, Function.update_apply, ← hend]
  exact if_congr Nat.add_left_inj.symm rfl rfl

/-- Scrolling moves the page a row down the tape, if that is blank below the page. -/
theorem Shows.scrollPage (h : Shows page s cells gone t) (ht : t.machine.hardware.Plain)
    (hscreen : t.screen = s.screen.setCursor slot p) (hcolumns : 0 < s.screen.columns.toNat)
    (fits : Board.PageFits (s.screen.pageStart page)
      (s.screen.columns.toNat * s.screen.rows.toNat))
    (hblank : ∀ j, s.screen.columns.toNat * (s.screen.rows.toNat + gone) ≤ j →
      cells j = ⟨0x00, 0x07⟩) :
    Shows page s cells (gone + 1)
      (t.scrollPage page .up 1 0x07 s.screen.columns s.screen.rows) := by
  have hstart : t.screen.pageStart page = s.screen.pageStart page :=
    congrArg (·.pageStart page) hscreen
  have hregion : t.screen.region s.screen.columns s.screen.rows =
      ⟨s.screen.columns.toNat, s.screen.rows.toNat, s.screen.columns.toNat⟩ := by
    rw [hscreen]
    exact s.screen.region_self
  have hscroll := ht.redraws_scrollCells fits hcolumns 0x07
  rw [Shows, t.hardware_scrollPage (by decide), hstart, hregion]
  refine (Board.Redraws.trans h hscroll).congr fun j hj => ?_
  have hmul := Nat.mul_add s.screen.columns.toNat s.screen.rows.toNat gone
  have hnext := Nat.mul_add s.screen.columns.toNat gone 1
  split
  · next hlt =>
    rw [h.cells _ hlt]
    exact congrArg cells (by omega)
  · next hge =>
    exact (hblank _ (by omega)).symm

/-- Once the page shows the end of the tape, the cursor goes there. -/
theorem Shows.setCursorPosition
    (h : Shows page s (s.tapeOf page slot written)
      (rowsGone s.screen.columns.toNat s.screen.rows.toNat (s.tapeEnd slot written)) t)
    (hs : s.screen.InMode spec) (hslot : slot.val = page.toNat)
    (hscreen : t.screen = s.screen.setCursor slot p) {x y : UInt8}
    (hends : Position.EndsAt s.screen.columns.toNat s.screen.rows.toNat
      (s.tapeEnd slot written) ⟨x, y⟩) :
    ∃ u, t.setCursorPosition page x y = (.ok (), u) ∧ Typed page slot s written u := by
  have hcolumns : 0 < s.screen.columns.toNat := hs.columns ▸ spec.columns_pos
  have hrows : 0 < s.screen.rows.toNat := hs.rows ▸ spec.rows_pos
  obtain ⟨hx, hy⟩ := hends.lt hcolumns hrows
  have hgeometry : t.screen.columns = s.screen.columns ∧ t.screen.rows = s.screen.rows := by
    rw [hscreen]
    exact ⟨rfl, rfl⟩
  obtain ⟨u, hu, hscreen', hbytes⟩ := t.exists_setCursorPosition hslot
    (hgeometry.1 ▸ hx) (hgeometry.2 ▸ hy)
  rw [hscreen, Screen.setCursor_setCursor] at hscreen'
  exact ⟨u, hu, ⟨_, hscreen', hends⟩, Board.Redraws.of_byteAt h hbytes⟩

/-- The cursor is at the end of the tape, so that is where a cell goes. -/
theorem Typed.putCell (h : Typed page slot s written t) (hs : s.screen.InMode spec)
    (ht : t.machine.hardware.Plain) (hslot : slot.val = page.toNat)
    (fits : Board.PageFits (s.screen.pageStart page)
      (s.screen.columns.toNat * s.screen.rows.toNat)) (c : Cell) :
    ∃ p, t.cursorOf page = .ok p ∧ t.screen = s.screen.setCursor slot p ∧
      p.EndsAt s.screen.columns.toNat s.screen.rows.toNat (s.tapeEnd slot written) ∧
      Shows page s (s.tapeOf page slot (written ++ [c]))
        (rowsGone s.screen.columns.toNat s.screen.rows.toNat (s.tapeEnd slot written))
        (t.putCell page p c) := by
  obtain ⟨p, hscreen, hends⟩ := h.screen
  have hp : t.cursorOf page = .ok p := by
    rw [t.cursorOf_eq page slot hslot, hscreen, Screen.cursor_setCursor, if_pos rfl]
  have hcell : (t.screen.cellIndex p).toNat =
      s.screen.columns.toNat * p.y.toNat + p.x.toNat := by
    rw [hscreen]
    exact Screen.toNat_cellIndex _ _
  obtain ⟨hx, hy⟩ := hends.lt (hs.columns ▸ spec.columns_pos) (hs.rows ▸ spec.rows_pos)
  have hindex : (t.screen.cellIndex p).toNat <
      s.screen.columns.toNat * s.screen.rows.toNat := by
    rw [hcell, ← Screen.toNat_cellIndex]
    exact Screen.cellIndex_lt hx hy
  exact ⟨p, hp, hscreen, hends, h.shows.putCell ht hscreen fits hindex
    (hcell ▸ hends.index_add) c⟩

/-- One cell more is one call more. -/
theorem Typed.teletype (h : Typed page slot s written t) (hs : s.screen.InMode spec)
    (ht : t.machine.hardware.Plain) (hslot : slot.val = page.toNat)
    (fits : Board.PageFits (s.screen.pageStart page)
      (s.screen.columns.toNat * s.screen.rows.toNat)) (c : Cell) :
    ∃ u, t.teletype page c = (.ok (), u) ∧ Typed page slot s (written ++ [c]) u := by
  obtain ⟨p, hp, hscreen, hends, hput⟩ := h.putCell hs ht hslot fits c
  have hcolumns : 0 < s.screen.columns.toNat := hs.columns ▸ spec.columns_pos
  obtain ⟨hx, hy⟩ := hends.lt hcolumns (hs.rows ▸ spec.rows_pos)
  have hgeometry : t.screen.columns = s.screen.columns ∧ t.screen.rows = s.screen.rows := by
    rw [hscreen]
    exact ⟨rfl, rfl⟩
  have hquiet := t.quiet_putCell page p c
  have hplain := hquiet.registers.plain ht
  rw [← hquiet.screen] at hscreen
  rw [t.teletype_eq hp, hgeometry.1, hgeometry.2]
  generalize t.putCell page p c = put at hput hplain hscreen ⊢
  have hlast := s.tapeEnd_concat slot written c
  simp only [Byte.up_lt_iff]
  split
  · next hright =>
    have hx' : (Byte.up p.x).toNat = p.x.toNat + 1 := by
      have := s.screen.columns.toNat_lt
      rw [Byte.toNat_up]
      omega
    obtain ⟨hgone, hnext⟩ := hends.next_column (q := ⟨Byte.up p.x, p.y⟩) hright hx' rfl
    rw [← hlast] at hgone hnext
    rw [← hgone] at hput
    exact hput.setCursorPosition hs hslot hscreen hnext
  · next hwrap =>
    have hright : p.x.toNat + 1 = s.screen.columns.toNat := by omega
    split
    · next hdown =>
      have hy' : (p.y + 1).toNat = p.y.toNat + 1 := by
        have := s.screen.rows.toNat_lt
        simp only [UInt8.toNat_add, UInt8.reduceToNat]
        omega
      obtain ⟨hgone, hnext⟩ := hends.next_row (q := ⟨0, p.y + 1⟩) hright hdown rfl hy'
      rw [← hlast] at hgone hnext
      rw [← hgone] at hput
      exact hput.setCursorPosition hs hslot hscreen hnext
    · next hlow =>
      have hbottom : p.y.toNat + 1 = s.screen.rows.toNat := by omega
      have hdown : Byte.down s.screen.rows = p.y := by
        rw [← UInt8.toNat_inj, Byte.toNat_down]
        omega
      obtain ⟨hgone, hnext⟩ := hends.bottom_row (q := ⟨0, p.y⟩) hright hbottom rfl rfl
      have hfull := hends.succ_eq hright hbottom
      rw [← hlast] at hgone hnext hfull
      -- the tape ends where the page does, so the row that comes in is blank
      have hscroll := hput.scrollPage hplain hscreen hcolumns fits fun j hj => by
        rw [Nat.mul_add] at hj
        exact tapeOf_of_le (by omega) (by omega) page
      rw [← hgone] at hscroll
      rw [hdown]
      exact hscroll.setCursorPosition hs hslot ((quiet_scrollPage _ _ _ _ _ _ _).screen.trans
        hscreen) hnext

/-- A list of cells extends the tape, call by call. -/
theorem Typed.teletypeAll (hs : s.screen.InMode spec) (hslot : slot.val = page.toNat)
    (fits : Board.PageFits (s.screen.pageStart page)
      (s.screen.columns.toNat * s.screen.rows.toNat)) (cells : List Cell)
    (h : Typed page slot s written t) (ht : t.Aligned window spec) :
    ∃ u, t.teletypeAll page cells = (.ok (), u) ∧ Typed page slot s (written ++ cells) u := by
  induction cells generalizing written t with
  | nil => exact ⟨t, rfl, by rwa [List.append_nil]⟩
  | cons c cells ih =>
    obtain ⟨u, hu, htyped⟩ := h.teletype hs ht.ready.plain hslot fits c
    have haligned := (kept_aligned window spec).teletype ht page c
    rw [hu] at haligned
    obtain ⟨v, hv, hall⟩ := ih htyped haligned
    refine ⟨v, ?_, ?_⟩
    · rw [Service.teletypeAll, hu]
      exact hv
    · rwa [List.append_assoc] at hall

/-- Where a page lies within the aperture of the cells view, writing cells to it one after the
other lays them on a tape from its stored cursor on, and the page shows the last rows of that
tape. The cursor ends up behind the last cell, and nothing else changes: no other byte of the
planes, none of the caller's memory, and no other page's cursor. -/
theorem Reachable.teletypeAll_tape (h : Reachable window s) (page : UInt8)
    (hpage : page.toNat < 8)
    (hfits : (s.screen.pageStart page).toNat +
      2 * (s.screen.columns.toNat * s.screen.rows.toNat) ≤ 0x8000) (written : List Cell) :
    ∃ p q t, s.cursorOf page = .ok p ∧ s.teletypeAll page written = (.ok (), t) ∧
      t.cursorOf page = .ok q ∧
      let a := s.machine.hardware.adapter
      let a' := t.machine.hardware.adapter
      let base := (s.screen.pageStart page).toNat / 2
      let columns := s.screen.columns.toNat
      let rows := s.screen.rows.toNat
      let first := columns * p.y.toNat + p.x.toNat
      let last := first + written.length
      let gone := last / columns - (rows - 1)
      q.x.toNat = last % columns ∧ q.y.toNat = last / columns - gone ∧
      (∀ x y, x < columns → y < rows →
        a'.cell (UInt16.ofNat (base + columns * y + x)) =
          tape (columns * rows) (fun j => a.cell (UInt16.ofNat (base + j))) first written
            (columns * (y + gone) + x)) ∧
      (∀ (plane : Plane) (off : UInt16),
        ¬ (plane.val < 2 ∧ base ≤ off.toNat ∧ off.toNat < base + columns * rows) →
          a'.planes.get plane off = a.planes.get plane off) ∧
      t.machine.hardware.ram = s.machine.hardware.ram ∧
      ∀ other, other ≠ page → t.cursorOf other = s.cursorOf other := by
  obtain ⟨spec, haligned⟩ := h.inStep
  have hs := haligned.screen
  let slot : Page := ⟨page.toNat, hpage⟩
  have fits : Board.PageFits (s.screen.pageStart page)
      (s.screen.columns.toNat * s.screen.rows.toNat) := by
    have := hs.pageStart_mod page
    exact ⟨by omega, hfits⟩
  obtain ⟨t, ht, htyped⟩ :=
    (Typed.nil hs page slot).teletypeAll hs rfl fits written haligned
  rw [List.nil_append] at htyped
  obtain ⟨q, hscreen, hends⟩ := htyped.screen
  have hfirst : (s.screen.cellIndex (s.screen.cursor slot)).toNat =
      s.screen.columns.toNat * (s.screen.cursor slot).y.toNat +
        (s.screen.cursor slot).x.toNat := s.screen.toNat_cellIndex _
  have hlast : s.tapeEnd slot written = s.screen.columns.toNat * (s.screen.cursor slot).y.toNat +
      (s.screen.cursor slot).x.toNat + written.length := by
    rw [tapeEnd, hfirst]
  have hcursor : t.cursorOf page = .ok q := by
    rw [t.cursorOf_eq page slot rfl, hscreen, Screen.cursor_setCursor, if_pos rfl]
  have hshows := htyped.shows
  rw [hlast] at hends
  rw [Shows, tapeOf, hfirst, hlast] at hshows
  refine ⟨_, q, t, s.cursorOf_eq page slot rfl, ht, hcursor, hends.x, hends.y, ?_, ?_, ?_, ?_⟩
  · intro x y hx hy
    have hcell := hshows.cells _ (Screen.index_lt hx hy)
    rw [Board.pageCell, ← Nat.add_assoc] at hcell
    refine hcell.trans (congrArg _ ?_)
    rw [Nat.mul_add]
    exact Nat.add_right_comm _ _ _
  · intro plane off hoff
    exact hshows.frame (.plane plane off) hoff
  · exact Ram.ext fun a => hshows.frame (.memory a) id
  · intro other hother
    exact cursorOf_of_ne rfl hscreen hother

/-- A screenful of characters on a text screen moves it up by a row, and the last row is blank. -/
theorem Reachable.teletypeAll_tape_text :
    let s := poweredOn 0x03
    Reachable 0 s ∧ (0 : UInt8).toNat < 8 ∧
      (s.screen.pageStart 0).toNat +
        2 * (s.screen.columns.toNat * s.screen.rows.toNat) ≤ 0x8000 ∧
      ∃ q t, s.teletypeAll 0 (List.replicate 2000 ⟨0x41, 0x07⟩) = (.ok (), t) ∧
        t.cursorOf 0 = .ok q ∧ q.x.toNat = 0 ∧ q.y.toNat = 24 ∧
        t.machine.hardware.adapter.cell 1919 = ⟨0x41, 0x07⟩ ∧
        t.machine.hardware.adapter.cell 1920 = ⟨0x00, 0x07⟩ := by
  have h : Reachable 0 (poweredOn 0x03) := reachable_poweredOn _ rfl
  have hcolumns : (poweredOn 0x03).screen.columns = 80 := by
    rw [screen_poweredOn 0x03 rfl]
    rfl
  have hrows : (poweredOn 0x03).screen.rows = 25 := by
    rw [screen_poweredOn 0x03 rfl]
    rfl
  have hstart : (poweredOn 0x03).screen.pageStart 0 = 0 := Screen.pageStart_zero _
  have hhome : (poweredOn 0x03).cursorOf 0 = .ok ⟨0, 0⟩ := by
    rw [cursorOf_eq _ 0 .first rfl, screen_poweredOn 0x03 rfl]
    exact congrArg Except.ok (by decide +kernel)
  have hfits : ((poweredOn 0x03).screen.pageStart 0).toNat + 2 *
      ((poweredOn 0x03).screen.columns.toNat * (poweredOn 0x03).screen.rows.toNat) ≤ 0x8000 := by
    rw [hstart, hcolumns, hrows]
    decide
  obtain ⟨p, q, t, hp, ht, hq, hx, hy, hcells, -⟩ := h.teletypeAll_tape 0 (by decide) hfits
    (List.replicate 2000 ⟨0x41, 0x07⟩)
  obtain rfl := Except.ok.inj (hhome.symm.trans hp)
  simp only [hstart, hcolumns, hrows, List.length_replicate] at hx hy hcells
  have hlast := hcells 79 23 (by decide) (by decide)
  have hblank := hcells 0 24 (by decide) (by decide)
  refine ⟨h, by decide, hfits, q, t, ht, hq, hx, hy, hlast.trans ?_, hblank.trans ?_⟩
  · rw [tape, dif_pos (by rw [List.length_replicate]; decide), List.getElem_replicate]
  · exact tape_of_le _ (by rw [List.length_replicate]; decide) (by decide)

end Service

end VgaFirmware
