import VgaFirmware.Proofs.CellAgreement
import VgaFirmware.Proofs.PageParts
import VgaFirmware.Proofs.Teletype
import VgaFirmware.Service.Request

/-!
# Operations on a page

Teletype output, moving the cursor and reading a cell each name a page. In a text mode each of
them draws on that page (`Draws`) or moves its cursor (`Moves`), and what it does there and what
it answers depends on nothing else (`AlikeOn.teletype`, `AlikeOn.setCursorPosition`,
`AlikeOn.readCell`).
-/

namespace VgaFirmware

theorem tape_congr {size : Nat} {old old' : Nat → Cell} (h : ∀ j < size, old j = old' j)
    (first : Nat) (written : List Cell) :
    tape size old first written = tape size old' first written := by
  funext j
  unfold tape
  split
  · rfl
  · split
    · next hj => exact h j hj
    · rfl

/-- There is one position at the end of a tape. -/
theorem Position.EndsAt.unique {columns rows last : Nat} {p q : Position}
    (hp : p.EndsAt columns rows last) (hq : q.EndsAt columns rows last) : p = q := by
  obtain ⟨x, y⟩ := p
  obtain ⟨x', y'⟩ := q
  have hx : x = x' := UInt8.toNat_inj.mp (hp.x.trans hq.x.symm)
  have hy : y = y' := UInt8.toNat_inj.mp (hp.y.trans hq.y.symm)
  rw [hx, hy]

variable {bus : BusWidth}

/-- The cells view shows the cells of a page within the aperture. -/
theorem Board.PageFits.viewedCell_eq {start index : UInt16} {size : Nat}
    (fits : PageFits start size) (hindex : index.toNat < size) (b : Board bus) :
    b.viewedCell start index = b.pageCell start index.toNat := by
  have hend : start.toNat + 2 * index.toNat < 0x8000 := by
    have := fits.end_le
    omega
  rw [viewedCell, cellPlace_character fits.start_mod hend, cellPlace_attribute fits.start_mod hend,
    fits.pageCell_eq, UInt16.ofNat_toNat]

theorem Board.besideViews_scrollCells (b : Board bus) (r : Region) (direction : Direction)
    (count : Nat) (attr : UInt8) : b.BesideViews (b.scrollCells r direction count attr) := by
  have hchars := besideViews_of_accesses
    (Region.accesses_scroll (.refl (b := b)) r direction count 0)
  have hattrs := besideViews_of_accesses
    (Region.accesses_scroll (.refl (b := (r.scroll b direction count 0).selectPlane .attributes))
      r direction count attr)
  exact (hchars.trans (besideViews_selectPlane _ _)).trans hattrs

namespace Service

variable {window : UInt16} {spec : ModeSpec} {s s' t t' u w : Service (Board bus)}
  {page : UInt8} {slot : Page} {p : Position}

/-! ## Drawing and moving -/

/-- The state after work in a view that draws on a page at most. -/
structure Draws (page : UInt8) (s t : Service (Board bus)) : Prop where
  settings : t.settings = s.settings
  screen : t.screen = s.screen
  frame : ∀ l, ¬ s.screen.OnPage page l →
    t.machine.hardware.byteAt l = s.machine.hardware.byteAt l
  crtc : t.machine.hardware.adapter.crtc = s.machine.hardware.adapter.crtc
  devices : s.machine.hardware.SameDevices true t.machine.hardware

/-- The state after the stored cursor of a page was set, and the hardware cursor with it if the
page shows. -/
structure Moves (page : UInt8) (slot : Page) (p : Position) (s t : Service (Board bus)) :
    Prop where
  settings : t.settings = s.settings
  screen : t.screen = s.screen.setCursor slot p
  hardware : t.machine.hardware =
    if page = s.screen.activePage then
      s.machine.hardware.updateAdapter (·.showCursor (s.screen.cellIndex p))
    else s.machine.hardware

namespace Draws

theorem trans (h : Draws page s t) (g : Draws page t u) : Draws page s u where
  settings := g.settings.trans h.settings
  screen := g.screen.trans h.screen
  frame l hl := (g.frame l (h.screen ▸ hl)).trans (h.frame l hl)
  crtc := g.crtc.trans h.crtc
  devices := h.devices.trans g.devices

/-- A bracket draws on a page if its work does. -/
theorem of_within {v : View} {start : UInt16} {work : Board bus → Board bus}
    (hsettings : t.settings = s.settings) (hscreen : t.screen = s.screen)
    (ht : t.machine.hardware = s.machine.hardware.within v start work)
    (hwork : ∀ b, Board.BesideViews b (work b))
    (hframe : ∀ l, ¬ s.screen.OnPage page l →
      (s.machine.hardware.within v start work).byteAt l = s.machine.hardware.byteAt l) :
    Draws page s t := by
  have hcontrols := Board.sameControls_within (hwork (s.machine.hardware.openView v start))
  rw [← ht] at hframe hcontrols
  exact ⟨hsettings, hscreen, hframe, hcontrols.crtc, .of_controls hcontrols⟩

/-- Drawing the same cells keeps states alike. -/
theorem alikeOn (h : Draws page s t) (h' : Draws page s' t') (hs : AlikeOn page s s')
    (hcells : ∀ j < s.screen.columns.toNat * s.screen.rows.toNat,
      t'.machine.hardware.pageCell (s.screen.pageStart page) j =
        t.machine.hardware.pageCell (s.screen.pageStart page) j) : AlikeOn page t t' where
  settings := h'.settings.trans (hs.settings.trans h.settings.symm)
  layout := by
    rw [h.screen, h'.screen]
    exact hs.layout
  cursor := by
    have hcursor := hs.cursor
    rw [Service.cursorOf, Service.cursorOf] at hcursor ⊢
    rw [h.screen, h'.screen, hcursor]
  cells := by
    rw [h.screen]
    exact hcells
  crtc hactive := by
    rw [h.crtc, h'.crtc]
    exact hs.crtc (h.screen ▸ hactive)

theorem touches (h : Draws page s t) : Touches (· = page) true s t where
  settings := h.settings
  layout := h.screen ▸ .refl _
  cursor _ _ := by rw [cursorOf, h.screen, cursorOf]
  frame l hl := h.frame l (hl page rfl)
  crtc _ := h.crtc
  devices := h.devices

end Draws

namespace Moves

theorem byteAt (h : Moves page slot p s t) :
    t.machine.hardware.byteAt = s.machine.hardware.byteAt := by
  rw [h.hardware]
  split <;> rfl

theorem crtc (h : Moves page slot p s t) :
    t.machine.hardware.adapter.crtc =
      if page = s.screen.activePage then
        (s.machine.hardware.adapter.showCursor (s.screen.cellIndex p)).crtc
      else s.machine.hardware.adapter.crtc := by
  rw [h.hardware]
  split <;> rfl

theorem cursorOf (h : Moves page slot p s t) (hslot : slot.val = page.toNat) :
    t.cursorOf page = .ok p := by
  rw [t.cursorOf_eq page slot hslot, h.screen, Screen.cursor_setCursor, if_pos rfl]

theorem layout (h : Moves page slot p s t) : s.screen.SameLayout t.screen :=
  h.screen ▸ .setCursor _ _ _

theorem touches (h : Moves page slot p s t) (hslot : slot.val = page.toNat) :
    Touches (· = page) false s t where
  settings := h.settings
  layout := h.layout
  cursor other hother := cursorOf_of_ne hslot h.screen hother
  frame l _ := congrFun h.byteAt l
  crtc hactive := by rw [h.crtc, if_neg (Ne.symm hactive)]
  devices := by
    rw [h.hardware]
    split <;> exact ⟨rfl, rfl, rfl, rfl, rfl, rfl⟩

/-- Moving the cursor to the same position keeps states alike, if they draw the same cells. -/
theorem alikeOn (h : Moves page slot p s t) (h' : Moves page slot p s' t')
    (hslot : slot.val = page.toNat) (hs : AlikeOn page s s') : AlikeOn page t t' where
  settings := h'.settings.trans (hs.settings.trans h.settings.symm)
  layout := h.layout.symm.trans (hs.layout.trans h'.layout)
  cursor := (h'.cursorOf hslot).trans (h.cursorOf hslot).symm
  cells j hj := by
    rw [h.layout.columns, h.layout.rows] at hj
    rw [h.layout.pageStart, Board.pageCell_congr h.byteAt, Board.pageCell_congr h'.byteAt]
    exact hs.cells j hj
  crtc hactive := by
    rw [h.layout.activePage] at hactive
    have hactive' := hactive.trans hs.layout.activePage.symm
    rw [h.crtc, h'.crtc, if_pos hactive, if_pos hactive', Adapter.showCursor, hs.crtc hactive,
      hs.layout.cellIndex, Adapter.showCursor]

end Moves

/-! ## The three operations -/

theorem Usable.exists_setCursorPosition (h : s.Usable window spec) (hslot : slot.val = page.toNat)
    (x y : UInt8) :
    ∃ t, s.setCursorPosition page x y = (.ok (), t) ∧
      Moves page slot (s.screen.clamp ⟨x, y⟩) s t := by
  simp only [Service.setCursorPosition, Page.ofByte_eq_ok.mpr hslot]
  refine ⟨_, rfl, ?_⟩
  split
  · next hactive =>
    refine ⟨rfl, rfl, ?_⟩
    rw [if_pos hactive]
    exact s.machine.hardware_setCursorLocation h.ready.unprotected _ _
  · next hactive =>
    refine ⟨rfl, rfl, ?_⟩
    rw [if_neg hactive]
    rfl

theorem Usable.draws_putCell (h : s.Usable window spec) (paged : s.screen.Paged)
    (hslot : slot.val = page.toNat) (c : Cell) :
    Draws page s (s.putCell page (s.screen.cursor slot) c) := by
  have hput := h.ready.plain.redraws_putCell (paged.pageFits (hslot ▸ slot.isLt))
    (Screen.cellIndex_lt (h.screen.cursor_x slot) (h.screen.cursor_y slot)) c
  exact .of_within rfl rfl (s.hardware_putCell page _ c)
    (fun _ => Board.besideViews_of_accesses (.storeWord .refl _ _)) hput.frame

theorem Usable.draws_scrollPage (h : s.Usable window spec) (paged : s.screen.Paged)
    (hpage : page.toNat < 8) :
    Draws page s (s.scrollPage page .up 1 0x07 s.screen.columns s.screen.rows) := by
  have hscroll := h.ready.plain.redraws_scrollCells (paged.pageFits hpage)
    (h.screen.columns ▸ spec.columns_pos) 0x07
  have hquiet := s.quiet_scrollPage page .up 1 0x07 s.screen.columns s.screen.rows
  have heq := s.hardware_scrollPage (by decide : (1 : UInt8) ≠ 0) page .up 0x07 s.screen.columns
    s.screen.rows
  rw [Screen.region_self] at heq
  exact .of_within hquiet.settings hquiet.screen heq
    (fun b => b.besideViews_scrollCells _ .up 1 0x07) hscroll.frame

/-- Teletype output draws on the page and then moves its cursor. -/
theorem Usable.exists_teletype (h : s.Usable window spec) (paged : s.screen.Paged)
    (hslot : slot.val = page.toNat) (c : Cell) :
    ∃ w x y, Draws page s w ∧ w.Usable window spec ∧
      s.teletype page c = w.setCursorPosition page x y := by
  have hput := h.draws_putCell paged hslot c
  have husable := h.quiet (s.quiet_putCell page (s.screen.cursor slot) c)
  rw [s.teletype_eq (s.cursorOf_eq page slot hslot)]
  split
  · exact ⟨_, _, _, hput, husable, rfl⟩
  · split
    · exact ⟨_, _, _, hput, husable, rfl⟩
    · have hscreen : (s.putCell page (s.screen.cursor slot) c).screen = s.screen := hput.screen
      have hscroll := husable.draws_scrollPage (hscreen.symm ▸ paged) (hslot ▸ slot.isLt)
      rw [hscreen] at hscroll
      exact ⟨_, _, _, hput.trans hscroll, husable.quiet (quiet_scrollPage _ _ _ _ _ _ _), rfl⟩

/-- The cells and the cursor that teletype output leaves are those of the tape. -/
theorem Usable.teletype_eq (h : s.Usable window spec) (paged : s.screen.Paged)
    (hslot : slot.val = page.toNat) (c : Cell) :
    ∃ w p t, Draws page s w ∧ Moves page slot p w t ∧ s.teletype page c = (.ok (), t) ∧
      p.EndsAt s.screen.columns.toNat s.screen.rows.toNat (s.tapeEnd slot [c]) ∧
      ∀ j < s.screen.columns.toNat * s.screen.rows.toNat,
        w.machine.hardware.pageCell (s.screen.pageStart page) j =
          s.tapeOf page slot [c] (j + s.screen.columns.toNat *
            rowsGone s.screen.columns.toNat s.screen.rows.toNat (s.tapeEnd slot [c])) := by
  obtain ⟨w, x, y, hdraw, hw, heq⟩ := h.exists_teletype paged hslot c
  obtain ⟨t, ht, hmove⟩ := hw.exists_setCursorPosition hslot x y
  obtain ⟨u, hu, htyped⟩ := (Typed.nil h.screen page slot).teletype h.screen h.ready.plain hslot
    (paged.pageFits (hslot ▸ slot.isLt)) c
  obtain rfl : u = t := congrArg Prod.snd (hu.symm.trans (heq.trans ht))
  obtain ⟨q, hscreen, hends⟩ := htyped.screen
  have hq : u.cursorOf page = .ok q := by
    rw [u.cursorOf_eq page slot hslot, hscreen, Screen.cursor_setCursor, if_pos rfl]
  obtain rfl := Except.ok.inj (hq.symm.trans (hmove.cursorOf hslot))
  refine ⟨w, _, u, hdraw, hmove, hu, hends, fun j hj => ?_⟩
  rw [← Board.pageCell_congr hmove.byteAt]
  exact htyped.shows.cells j hj

theorem AlikeOn.cursor_slot (h : AlikeOn page s s') (hslot : slot.val = page.toNat) :
    s'.screen.cursor slot = s.screen.cursor slot := by
  have hcursor := h.cursor
  rw [s.cursorOf_eq page slot hslot, s'.cursorOf_eq page slot hslot] at hcursor
  exact Except.ok.inj hcursor

theorem AlikeOn.tapeEnd (h : AlikeOn page s s') (hslot : slot.val = page.toNat)
    (written : List Cell) : s'.tapeEnd slot written = s.tapeEnd slot written := by
  rw [Service.tapeEnd, h.cursor_slot hslot, h.layout.cellIndex, Service.tapeEnd]

theorem AlikeOn.tapeOf (h : AlikeOn page s s') (hslot : slot.val = page.toNat)
    (written : List Cell) : s'.tapeOf page slot written = s.tapeOf page slot written := by
  rw [Service.tapeOf, h.cursor_slot hslot, h.layout.cellIndex, h.layout.columns, h.layout.rows,
    h.layout.pageStart, tape_congr h.cells, Service.tapeOf]

theorem AlikeOn.teletype (h : AlikeOn page s s') (hs : s.Usable window spec)
    (hs' : s'.Usable window spec) (paged : s.screen.Paged) (hslot : slot.val = page.toNat)
    (c : Cell) :
    (s'.teletype page c).1 = (s.teletype page c).1 ∧
      AlikeOn page (s.teletype page c).2 (s'.teletype page c).2 := by
  obtain ⟨w, p, t, hdraw, hmove, ht, hends, hcells⟩ := hs.teletype_eq paged hslot c
  obtain ⟨w', p', t', hdraw', hmove', ht', hends', hcells'⟩ :=
    hs'.teletype_eq (h.layout.paged paged) hslot c
  simp only [h.layout.columns, h.layout.rows, h.layout.pageStart, h.tapeEnd hslot,
    h.tapeOf hslot] at hends' hcells'
  obtain rfl := hends.unique hends'
  have halike : AlikeOn page w w' :=
    hdraw.alikeOn hdraw' h fun j hj => (hcells' j hj).trans (hcells j hj).symm
  rw [ht, ht']
  exact ⟨rfl, hmove.alikeOn hmove' hslot halike⟩

theorem AlikeOn.setCursorPosition (h : AlikeOn page s s') (hs : s.Usable window spec)
    (hs' : s'.Usable window spec) (hslot : slot.val = page.toNat) (x y : UInt8) :
    (s'.setCursorPosition page x y).1 = (s.setCursorPosition page x y).1 ∧
      AlikeOn page (s.setCursorPosition page x y).2 (s'.setCursorPosition page x y).2 := by
  obtain ⟨t, ht, hmove⟩ := hs.exists_setCursorPosition hslot x y
  obtain ⟨t', ht', hmove'⟩ := hs'.exists_setCursorPosition hslot x y
  rw [h.layout.clamp] at hmove'
  rw [ht, ht']
  exact ⟨rfl, hmove.alikeOn hmove' hslot h⟩

/-- Reading a cell shows the cell of the page under its cursor. -/
theorem Usable.readCell_eq (h : s.Usable window spec) (paged : s.screen.Paged)
    (hslot : slot.val = page.toNat) :
    ∃ t, s.readCell page = (.ok (s.machine.hardware.pageCell (s.screen.pageStart page)
      (s.screen.cellIndex (s.screen.cursor slot)).toNat), t) ∧ Draws page s t ∧
        t.machine.hardware.byteAt = s.machine.hardware.byteAt := by
  have hp := s.cursorOf_eq page slot hslot
  have hfirst := fst_readCell h.ready.plain hp
  have hbytes := (s.sameMemory_readCell page).byteAt
  rw [(paged.pageFits (hslot ▸ slot.isLt)).viewedCell_eq
    (Screen.cellIndex_lt (h.screen.cursor_x slot) (h.screen.cursor_y slot))] at hfirst
  refine ⟨(s.readCell page).2, Prod.ext hfirst rfl, ?_, hbytes⟩
  rw [s.readCell_eq hp] at hbytes ⊢
  have hhardware : (s.lookCell page (s.screen.cursor slot)).2.machine.hardware =
      s.machine.hardware.within .cells (s.screen.pageStart page) fun b =>
        (Backend.loadWord b (s.screen.cellIndex (s.screen.cursor slot) * 2)).2 := by
    rw [lookCell, machine_query, Machine.hardware_inspect_query]
  refine .of_within rfl rfl hhardware
    (fun _ => Board.besideViews_of_accesses (.loadWord .refl _)) fun l _ => ?_
  rw [← hhardware, hbytes]

theorem AlikeOn.readCell (h : AlikeOn page s s') (hs : s.Usable window spec)
    (hs' : s'.Usable window spec) (paged : s.screen.Paged) (hslot : slot.val = page.toNat) :
    (s'.readCell page).1 = (s.readCell page).1 ∧
      AlikeOn page (s.readCell page).2 (s'.readCell page).2 := by
  obtain ⟨t, ht, hdraw, hbytes⟩ := hs.readCell_eq paged hslot
  obtain ⟨t', ht', hdraw', hbytes'⟩ := hs'.readCell_eq (h.layout.paged paged) hslot
  have hindex := Screen.cellIndex_lt (hs.screen.cursor_x slot) (hs.screen.cursor_y slot)
  rw [h.layout.pageStart, h.layout.cellIndex, h.cursor_slot hslot, h.cells _ hindex] at ht'
  rw [ht, ht']
  refine ⟨rfl, hdraw.alikeOn hdraw' h fun j hj => ?_⟩
  rw [Board.pageCell_congr hbytes, Board.pageCell_congr hbytes']
  exact h.cells j hj

end Service

end VgaFirmware
