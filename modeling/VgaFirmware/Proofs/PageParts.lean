import VgaFirmware.Proofs.Controls
import VgaFirmware.Proofs.PageCells
import VgaFirmware.Proofs.Usable

/-!
# What belongs to a page

In a text mode the eight pages lie one after the other within the aperture, and no two of them
overlap (`Screen.Paged`). To a page belong its stored cursor, its cells and, while it shows, the
registers of the timing controller. `AlikeOn` says that two states agree in what belongs to a
page, `Touches` that from one state to the next nothing else has changed.
-/

namespace VgaFirmware

/-! ## Pages that do not overlap -/

theorem ModeSpec.isText_of_le {mode : UInt8} {spec : ModeSpec}
    (h : ModeSpec.lookup mode = .ok spec) (hmode : mode.toNat ≤ 3) : spec.isText = true := by
  have hall : ∀ spec ∈ ModeSpec.table, spec.mode.toNat ≤ 3 → spec.isText = true := by decide
  obtain ⟨hmem, rfl⟩ := ModeSpec.lookup_eq_ok h
  exact hall spec hmem hmode

namespace Screen

/-- The places of the cells of a page. -/
def OnPage (d : Screen) (page : UInt8) : Place → Prop :=
  Board.OnPage (d.pageStart page) (d.columns.toNat * d.rows.toNat)

/-- Eight pages lie one after the other within the aperture of the cells view. -/
structure Paged (d : Screen) : Prop where
  size_le : 2 * (d.columns.toNat * d.rows.toNat) ≤ d.pageSize.toNat
  end_le : 8 * d.pageSize.toNat ≤ 0x8000
  mod : d.pageSize.toNat % 32 = 0

variable {d : Screen} {spec : ModeSpec} {p q : UInt8}

theorem InMode.paged (h : d.InMode spec) (htext : spec.isText = true) : d.Paged := by
  have hall : ∀ spec ∈ ModeSpec.table, spec.isText = true →
      2 * (spec.columns.toNat * spec.rows.toNat) ≤ spec.pageSize.toNat ∧
        8 * spec.pageSize.toNat ≤ 0x8000 ∧ spec.pageSize.toNat % 32 = 0 := by decide
  obtain ⟨hsize, hend, hmod⟩ := hall spec (ModeSpec.lookup_eq_ok h.lookup).1 htext
  rw [← h.columns, ← h.rows, ← h.pageSize] at hsize
  rw [← h.pageSize] at hend hmod
  exact ⟨hsize, hend, hmod⟩

namespace Paged

theorem toNat_pageStart (h : d.Paged) (hp : p.toNat < 8) :
    (d.pageStart p).toNat = d.pageSize.toNat * p.toNat := by
  have hmul : d.pageSize.toNat * p.toNat ≤ d.pageSize.toNat * 8 :=
    Nat.mul_le_mul_left _ (Nat.le_of_lt hp)
  have hend := h.end_le
  simp only [pageStart, UInt16.toNat_mul, UInt8.toNat_toUInt16]
  exact Nat.mod_eq_of_lt (by omega)

/-- A page ends before the next one starts. -/
theorem pageStart_add_le (h : d.Paged) (hp : p.toNat < 8) {n : Nat} (hn : p.toNat < n) :
    (d.pageStart p).toNat + d.pageSize.toNat ≤ d.pageSize.toNat * n := by
  rw [h.toNat_pageStart hp, ← Nat.mul_succ]
  exact Nat.mul_le_mul_left _ hn

theorem pageFits (h : d.Paged) (hp : p.toNat < 8) :
    Board.PageFits (d.pageStart p) (d.columns.toNat * d.rows.toNat) where
  start_mod := by rw [h.toNat_pageStart hp, Nat.mul_mod, h.mod, Nat.zero_mul, Nat.zero_mod]
  end_le := by
    have hnext := h.pageStart_add_le hp hp
    have hsize := h.size_le
    have hend := h.end_le
    omega

theorem disjoint (h : d.Paged) (hp : p.toNat < 8) (hq : q.toNat < 8) (hne : p ≠ q) {l : Place}
    (hl : d.OnPage p l) : ¬ d.OnPage q l := by
  cases l with
  | memory a => exact id
  | plane x off =>
    obtain ⟨-, hfirst, hlast⟩ := hl
    rintro ⟨-, hfirst', hlast'⟩
    have hpq : p.toNat ≠ q.toNat := fun e => hne (UInt8.toNat_inj.mp e)
    have hsize := h.size_le
    have hstart := h.toNat_pageStart hp
    have hstart' := h.toNat_pageStart hq
    rcases Nat.lt_or_gt_of_ne hpq with hlt | hgt
    · have hnext := h.pageStart_add_le hp hlt
      omega
    · have hnext := h.pageStart_add_le hq hgt
      omega

end Paged

/-- Screens that differ in their cursors at most. -/
structure SameLayout (d e : Screen) : Prop where
  mode : e.mode = d.mode
  columns : e.columns = d.columns
  rows : e.rows = d.rows
  activePage : e.activePage = d.activePage
  pageSize : e.pageSize = d.pageSize

namespace SameLayout

variable {e f : Screen}

theorem refl (d : Screen) : SameLayout d d := ⟨rfl, rfl, rfl, rfl, rfl⟩

theorem symm (h : SameLayout d e) : SameLayout e d :=
  ⟨h.mode.symm, h.columns.symm, h.rows.symm, h.activePage.symm, h.pageSize.symm⟩

theorem trans (h : SameLayout d e) (g : SameLayout e f) : SameLayout d f :=
  ⟨g.mode.trans h.mode, g.columns.trans h.columns, g.rows.trans h.rows,
    g.activePage.trans h.activePage, g.pageSize.trans h.pageSize⟩

theorem setCursor (d : Screen) (page : Page) (p : Position) : SameLayout d (d.setCursor page p) :=
  ⟨rfl, rfl, rfl, rfl, rfl⟩

theorem pageStart (h : SameLayout d e) (p : UInt8) : e.pageStart p = d.pageStart p := by
  rw [Screen.pageStart, h.pageSize, Screen.pageStart]

theorem cellIndex (h : SameLayout d e) (p : Position) : e.cellIndex p = d.cellIndex p := by
  rw [Screen.cellIndex, h.columns, Screen.cellIndex]

theorem clamp (h : SameLayout d e) (p : Position) : e.clamp p = d.clamp p := by
  rw [Screen.clamp, h.columns, h.rows, Screen.clamp]

theorem onPage (h : SameLayout d e) (p : UInt8) : e.OnPage p = d.OnPage p := by
  rw [OnPage, h.pageStart, h.columns, h.rows, OnPage]

theorem paged (h : SameLayout d e) (hd : d.Paged) : e.Paged where
  size_le := by
    rw [h.columns, h.rows, h.pageSize]
    exact hd.size_le
  end_le := h.pageSize ▸ hd.end_le
  mod := h.pageSize ▸ hd.mod

/-- With the same cursors the screens are the same. -/
theorem eq_of_cursor (h : SameLayout d e) (hcursor : ∀ page, e.cursor page = d.cursor page) :
    e = d := by
  have hcursors : e.cursors = d.cursors := Vector.ext fun i hi => hcursor ⟨i, hi⟩
  obtain ⟨mode, columns, rows, activePage, pageSize, cursors⟩ := d
  obtain ⟨rfl, rfl, rfl, rfl, rfl⟩ := h
  exact congrArg (Screen.mk _ _ _ _ _) hcursors

end SameLayout

end Screen

/-! ## Cells and bytes of a page -/

namespace Board

variable {bus : BusWidth} {b c d : Board bus} {start : UInt16} {size : Nat}

theorem PageFits.onPage_cell (fits : PageFits start size) {j : Nat} (hj : j < size) {p : Plane}
    (hp : p.val < 2) : OnPage start size (.plane p (UInt16.ofNat (start.toNat / 2 + j))) := by
  have hval : (UInt16.ofNat (start.toNat / 2 + j)).toNat = start.toNat / 2 + j := by
    have := fits.end_le
    rw [UInt16.toNat_ofNat']
    omega
  refine ⟨hp, ?_, ?_⟩
  · rw [hval]
    exact Nat.le_add_right _ _
  · rw [hval]
    exact Nat.add_lt_add_left hj _

/-- Boards with the same bytes on a page have the same cells there. -/
theorem PageFits.pageCell_of_byteAt (fits : PageFits start size)
    (h : ∀ l, OnPage start size l → c.byteAt l = b.byteAt l) {j : Nat} (hj : j < size) :
    c.pageCell start j = b.pageCell start j :=
  congrArg₂ Cell.mk (h (.plane .characters _) (fits.onPage_cell hj (by decide)))
    (h (.plane .attributes _) (fits.onPage_cell hj (by decide)))

/-- Boards with the same cells on a page have the same bytes there. -/
theorem byteAt_of_pageCell (h : ∀ j < size, c.pageCell start j = b.pageCell start j) {l : Place}
    (hl : OnPage start size l) : c.byteAt l = b.byteAt l := by
  cases l with
  | memory a => exact hl.elim
  | plane p off =>
    obtain ⟨hp, hfirst, hlast⟩ := hl
    have hcell := h (off.toNat - start.toNat / 2) (by omega)
    have hoff : UInt16.ofNat (start.toNat / 2 + (off.toNat - start.toNat / 2)) = off := by
      rw [Nat.add_sub_cancel' hfirst, UInt16.ofNat_toNat]
    simp only [pageCell, hoff] at hcell
    have hplanes : ∀ p : Plane, p.val < 2 → p = .characters ∨ p = .attributes := by decide
    rcases hplanes p hp with rfl | rfl
    · exact congrArg Cell.chr hcell
    · exact congrArg Cell.attr hcell

/-! ## Devices -/

/-- Same window, and the same adapter but for latches, planes and timing controller. Where views
were opened, two banks have their indices where closing a view leaves them. -/
structure SameDevices (views : Bool) (b c : Board bus) : Prop where
  window : c.window = b.window
  miscOutput : c.adapter.miscOutput = b.adapter.miscOutput
  sequencer :
    c.adapter.sequencer = if views then b.adapter.sequencer.select 4 else b.adapter.sequencer
  graphics :
    c.adapter.graphics = if views then b.adapter.graphics.select 6 else b.adapter.graphics
  attributes : c.adapter.attributes = b.adapter.attributes
  dac : c.adapter.dac = b.adapter.dac

namespace SameDevices

theorem refl (b : Board bus) : SameDevices false b b := ⟨rfl, rfl, rfl, rfl, rfl, rfl⟩

theorem trans {views views' : Bool} (h : SameDevices views b c) (g : SameDevices views' c d) :
    SameDevices (views || views') b d where
  window := g.window.trans h.window
  miscOutput := g.miscOutput.trans h.miscOutput
  sequencer := by
    rw [g.sequencer, h.sequencer]
    cases views <;> cases views' <;> rfl
  graphics := by
    rw [g.graphics, h.graphics]
    cases views <;> cases views' <;> rfl
  attributes := g.attributes.trans h.attributes
  dac := g.dac.trans h.dac

theorem of_controls (h : SameControls (b.updateAdapter .afterView) c) : SameDevices true b c :=
  ⟨h.window, h.miscOutput, h.sequencer, h.graphics, h.attributes, h.dac⟩

/-- What a board becomes is settled by its devices, the timing controller, and the planes. -/
theorem adapter_eq {views : Bool} (h : SameDevices views b c) (g : SameDevices views b d)
    (hcrtc : d.adapter.crtc = c.adapter.crtc) (hplanes : d.adapter.planes = c.adapter.planes) :
    d.adapter = { c.adapter with latches := d.adapter.latches } := by
  have hcontrols : SameControls c d :=
    ⟨g.window.trans h.window.symm, g.miscOutput.trans h.miscOutput.symm,
      g.sequencer.trans h.sequencer.symm, g.graphics.trans h.graphics.symm, hcrtc,
      g.attributes.trans h.attributes.symm, g.dac.trans h.dac.symm⟩
  exact hcontrols.adapter_eq_of_planes hplanes

end SameDevices

end Board

/-! ## Parts of a state -/

namespace Service

variable {bus : BusWidth} {window : UInt16} {spec : ModeSpec} {s t u : Service (Board bus)}
  {page : UInt8} {pages pages' : UInt8 → Prop} {views views' : Bool}

/-- The states agree in what belongs to a page. -/
structure AlikeOn (page : UInt8) (s t : Service (Board bus)) : Prop where
  settings : t.settings = s.settings
  layout : s.screen.SameLayout t.screen
  cursor : t.cursorOf page = s.cursorOf page
  cells : ∀ j < s.screen.columns.toNat * s.screen.rows.toNat,
    t.machine.hardware.pageCell (s.screen.pageStart page) j =
      s.machine.hardware.pageCell (s.screen.pageStart page) j
  crtc : page = s.screen.activePage →
    t.machine.hardware.adapter.crtc = s.machine.hardware.adapter.crtc

/-- Nothing has changed but what belongs to some of the pages, and the latches. -/
structure Touches (pages : UInt8 → Prop) (views : Bool) (s t : Service (Board bus)) : Prop where
  settings : t.settings = s.settings
  layout : s.screen.SameLayout t.screen
  cursor : ∀ page, ¬ pages page → t.cursorOf page = s.cursorOf page
  frame : ∀ l, (∀ page, pages page → ¬ s.screen.OnPage page l) →
    t.machine.hardware.byteAt l = s.machine.hardware.byteAt l
  crtc : ¬ pages s.screen.activePage →
    t.machine.hardware.adapter.crtc = s.machine.hardware.adapter.crtc
  devices : s.machine.hardware.SameDevices views t.machine.hardware

namespace AlikeOn

theorem refl (page : UInt8) (s : Service (Board bus)) : AlikeOn page s s :=
  ⟨rfl, .refl _, rfl, fun _ _ => rfl, fun _ => rfl⟩

theorem trans (h : AlikeOn page s t) (g : AlikeOn page t u) : AlikeOn page s u where
  settings := g.settings.trans h.settings
  layout := h.layout.trans g.layout
  cursor := g.cursor.trans h.cursor
  cells j hj := by
    have hcell := g.cells j (by rwa [h.layout.columns, h.layout.rows])
    rw [h.layout.pageStart] at hcell
    exact hcell.trans (h.cells j hj)
  crtc hp := (g.crtc (hp.trans h.layout.activePage.symm)).trans (h.crtc hp)

theorem symm (h : AlikeOn page s t) : AlikeOn page t s where
  settings := h.settings.symm
  layout := h.layout.symm
  cursor := h.cursor.symm
  cells j hj := by
    rw [h.layout.columns, h.layout.rows] at hj
    rw [h.layout.pageStart]
    exact (h.cells j hj).symm
  crtc hp := (h.crtc (hp.trans h.layout.activePage)).symm

end AlikeOn

namespace Touches

theorem refl (pages : UInt8 → Prop) (s : Service (Board bus)) : Touches pages false s s :=
  ⟨rfl, .refl _, fun _ _ => rfl, fun _ _ => rfl, fun _ => rfl, .refl _⟩

theorem trans (h : Touches pages views s t) (g : Touches pages views' t u) :
    Touches pages (views || views') s u where
  settings := g.settings.trans h.settings
  layout := h.layout.trans g.layout
  cursor page hpage := (g.cursor page hpage).trans (h.cursor page hpage)
  frame l hl := by
    refine (g.frame l fun page hpage => ?_).trans (h.frame l hl)
    rw [h.layout.onPage]
    exact hl page hpage
  crtc hactive := (g.crtc (h.layout.activePage ▸ hactive)).trans (h.crtc hactive)
  devices := h.devices.trans g.devices

theorem mono (h : Touches pages views s t) (hsub : ∀ page, pages page → pages' page) :
    Touches pages' views s t where
  settings := h.settings
  layout := h.layout
  cursor page hpage := h.cursor page fun hp => hpage (hsub page hp)
  frame l hl := h.frame l fun page hp => hl page (hsub page hp)
  crtc hactive := h.crtc fun hp => hactive (hsub _ hp)
  devices := h.devices

/-- What belongs to another page stays. -/
theorem alikeOn (h : Touches pages views s t) (hs : s.screen.Paged)
    (hpages : ∀ p, pages p → p.toNat < 8) (hpage : page.toNat < 8) (hnot : ¬ pages page) :
    AlikeOn page s t where
  settings := h.settings
  layout := h.layout
  cursor := h.cursor page hnot
  cells _ hj := (hs.pageFits hpage).pageCell_of_byteAt
    (fun l hl => h.frame l fun p hp => hs.disjoint hpage (hpages p hp)
      (fun e => hnot (e ▸ hp)) hl) hj
  crtc hactive := h.crtc (hactive ▸ hnot)

end Touches

end Service

end VgaFirmware
