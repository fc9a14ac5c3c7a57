import VgaFirmware.Proofs.InMode
import VgaFirmware.Proofs.Upkeep
import VgaFirmware.Service.PowerOn

/-!
# Screen and registers in step

The screen is what the service believes, the registers are what the adapter shows. `Aligned` says
that they agree: the registers of the mode and the geometry, the start address of the page on
display and, in text modes, the place of its cursor. Every call keeps them in step.
-/

namespace VgaFirmware

variable {bus : BusWidth}

namespace Service

/-- Screen and registers agree on the mode and on the page that shows. -/
structure InMode (window : UInt16) (spec : ModeSpec) (s : Service (Board bus)) : Prop where
  screen : s.screen.InMode spec
  ready : s.machine.hardware.Ready window
  registers : s.machine.hardware.InMode spec
  startAddress :
    s.machine.hardware.adapter.startAddress = s.screen.pageStart s.screen.activePage

/-- Screen and registers agree, in text modes also on the place of the cursor. -/
structure Aligned (window : UInt16) (spec : ModeSpec) (s : Service (Board bus)) : Prop
    extends s.InMode window spec where
  cursorLocation : spec.isText = true → ∀ page : Page, page.val = s.screen.activePage.toNat →
    s.machine.hardware.adapter.cursorLocation = s.screen.cellIndex (s.screen.cursor page)

variable {window : UInt16} {spec : ModeSpec} {s t : Service (Board bus)}

theorem InMode.quiet (h : s.InMode window spec) (q : s.Quiet t) : t.InMode window spec where
  screen := q.screen ▸ h.screen
  ready := q.registers.ready h.ready (by decide)
  registers := q.registers.inMode h.registers (by decide) (by decide)
  startAddress := by
    rw [q.registers.startAddress (by decide) (by decide), q.screen]
    exact h.startAddress

theorem Aligned.quiet (h : s.Aligned window spec) (q : s.Quiet t) : t.Aligned window spec where
  toInMode := h.toInMode.quiet q
  cursorLocation := by
    rw [q.registers.cursorLocation (by decide) (by decide), q.screen]
    exact h.cursorLocation

/-- Moving the hardware cursor to that of the page on display aligns the service. -/
theorem InMode.applyCursor (h : s.InMode window spec) {p : Position}
    (hp : ∀ page : Page, page.val = s.screen.activePage.toNat → s.screen.cursor page = p) :
    (s.applyCursor p).Aligned window spec := by
  have hregs := s.machine.sameRegisters_writeRegPair s.settings.crtc 0x0E (s.screen.cellIndex p)
  refine ⟨⟨h.screen, hregs.ready h.ready (by decide), hregs.inMode h.registers (by decide)
    (by decide), ?_⟩, ?_⟩
  · exact (hregs.startAddress (by decide) (by decide)).trans h.startAddress
  · intro _ page hpage
    refine (s.machine.cursorLocation_setCursorLocation _ h.ready.unprotected _).trans ?_
    rw [← hp page hpage]
    rfl

theorem InMode.setScreen (h : s.InMode window spec) {d : Screen} (hd : d.InMode spec)
    (hpage : d.activePage = s.screen.activePage) : (s.setScreen d).InMode window spec where
  screen := hd
  ready := h.ready
  registers := h.registers
  startAddress := by
    have hstart := h.startAddress
    simp only [Screen.pageStart, h.screen.pageSize] at hstart
    simp only [machine_setScreen, screen_setScreen, Screen.pageStart, hd.pageSize, hpage, hstart]

theorem Aligned.setCursorPosition (h : s.Aligned window spec) (page x y : UInt8) :
    (s.setCursorPosition page x y).2.Aligned window spec := by
  unfold Service.setCursorPosition
  split
  · exact h
  · next slot hslot =>
    have hval := Page.ofByte_eq_ok.mp hslot
    have hmode := h.toInMode.setScreen (h.screen.setCursor slot ⟨x, y⟩) rfl
    simp only
    split
    · next hactive =>
      refine hmode.applyCursor fun q hq => ?_
      have hslot : q = slot := Fin.ext (hq.trans (hactive ▸ hval.symm))
      rw [hslot]
      exact (Screen.cursor_setCursor _ _ _ _).trans (if_pos rfl)
    · next hactive =>
      refine ⟨hmode, fun htext q hq => (h.cursorLocation htext q hq).trans ?_⟩
      have hne : q ≠ slot := by
        rintro rfl
        exact hactive (UInt8.toNat_inj.mp (hval.symm.trans hq))
      simp only [screen_setScreen, Screen.cursor_setCursor, if_neg hne]
      rfl

theorem Aligned.setActivePage (h : s.Aligned window spec) (page : UInt8) :
    (s.setActivePage page).2.Aligned window spec := by
  unfold Service.setActivePage
  split
  · exact h
  · next slot hslot =>
    have hval := Page.ofByte_eq_ok.mp hslot
    have hpage : page.toNat < 8 := hval ▸ slot.isLt
    have hregs := s.machine.sameRegisters_writeRegPair s.settings.crtc 0x0C
      (s.screen.pageStart page)
    have hmode : ((s.update (·.setStartAddress s.settings.crtc
        (s.screen.pageStart page))).setScreen
          { s.screen with activePage := page }).InMode window spec :=
      ⟨h.screen.showPage hpage, hregs.ready h.ready (by decide),
        hregs.inMode h.registers (by decide) (by decide),
        s.machine.startAddress_setStartAddress _ h.ready.unprotected _⟩
    refine (hmode.applyCursor fun q hq => ?_).quiet (quiet_emit _ _)
    have hslot : q = slot := Fin.ext (hq.trans hval.symm)
    rw [hslot]
    rfl

theorem Quiet.cursorOf (q : s.Quiet t) (page : UInt8) : t.cursorOf page = s.cursorOf page := by
  rw [Service.cursorOf, q.screen, Service.cursorOf]

theorem cursorOf_eq (s : Service (Board bus)) (page : UInt8) (slot : Page)
    (h : slot.val = page.toNat) : s.cursorOf page = .ok (s.screen.cursor slot) := by
  rw [cursorOf, Page.ofByte_eq_ok.mpr h]
  rfl

theorem eq_cursor_of_cursorOf {page : UInt8} {p : Position} (hp : s.cursorOf page = .ok p)
    (slot : Page) (h : slot.val = page.toNat) : p = s.screen.cursor slot := by
  rw [s.cursorOf_eq page slot h] at hp
  exact (Except.ok.inj hp).symm

/-- Every page has a stored cursor, and it is at one of the cells of the screen. -/
theorem exists_cursor (h : s.screen.InMode spec) {page : UInt8} (hpage : page.toNat < 8) :
    ∃ p, s.cursorOf page = .ok p ∧
      (s.screen.cellIndex p).toNat < s.screen.columns.toNat * s.screen.rows.toNat :=
  ⟨_, s.cursorOf_eq page ⟨page.toNat, hpage⟩ rfl, Screen.cellIndex_lt (h.cursor_x _) (h.cursor_y _)⟩

theorem fst_setMode (s : Service (Board bus)) {mode : UInt8}
    (hspec : ModeSpec.lookup mode = .ok spec) : (s.setMode mode).1 = .ok () := by
  simp only [setMode, hspec]

theorem screen_setMode (s : Service (Board bus)) {mode : UInt8}
    (hspec : ModeSpec.lookup mode = .ok spec) :
    (s.setMode mode).2.screen = s.screen.enter spec := by
  simp only [setMode, hspec]
  split <;> rfl

/-- Setting a mode aligns the service, whatever it was in before. -/
theorem aligned_setMode (h : s.machine.hardware.Ready window) {mode : UInt8}
    (hspec : ModeSpec.lookup mode = .ok spec) : (s.setMode mode).2.Aligned window spec := by
  obtain ⟨-, rfl⟩ := ModeSpec.lookup_eq_ok hspec
  have hprogram := s.machine.hardware_programMode h.unprotected s.settings.crtc spec
  have hready := h.setMode spec
  have hinMode := s.machine.hardware.inMode_setMode spec
  have hstart := s.machine.hardware.adapter.startAddress_setMode spec
  have hregs := s.machine.sameRegisters_activate s.settings spec
  rw [hprogram] at hregs
  have hmode : ((s.update (·.activate s.settings spec)).setScreen
      (s.screen.enter spec)).InMode window spec := by
    refine ⟨s.screen.inMode_enter hspec, hregs.ready hready (by decide),
      hregs.inMode hinMode (by decide) (by decide), ?_⟩
    exact (hregs.startAddress (by decide) (by decide)).trans
      (hstart.trans (Screen.pageStart_zero _).symm)
  simp only [setMode, hspec]
  refine Aligned.quiet ?_ (quiet_emit _ _)
  split
  · refine hmode.applyCursor fun q hq => ?_
    have hfirst : q = .first := Fin.ext hq
    rw [hfirst]
    rfl
  · next hgraphics =>
    exact ⟨hmode, fun htext => absurd htext hgraphics⟩

theorem kept_aligned (window : UInt16) (spec : ModeSpec) :
    Kept fun s : Service (Board bus) => s.Aligned window spec where
  quiet := .quiet
  setCursorPosition page x y h := h.setCursorPosition page x y
  setActivePage page h := h.setActivePage page

/-- Screen and registers agree, whatever the mode. -/
def InStep (window : UInt16) (s : Service (Board bus)) : Prop :=
  ∃ spec, s.Aligned window spec

theorem Aligned.inStep (h : s.Aligned window spec) : s.InStep window := ⟨spec, h⟩

theorem InStep.setMode (h : s.InStep window) (mode : UInt8) :
    (s.setMode mode).2.InStep window := by
  obtain ⟨spec, haligned⟩ := h
  cases hspec : ModeSpec.lookup mode with
  | error e =>
    simp only [Service.setMode, hspec]
    exact haligned.inStep
  | ok spec' => exact (aligned_setMode haligned.ready hspec).inStep

/-- Every call keeps screen and registers in step. -/
theorem InStep.interrupt (h : s.InStep window) (r : RegisterImage) :
    (s.interrupt r).2.InStep window :=
  (Kept.exists_of_forall (kept_aligned window)).interrupt (fun mode h => InStep.setMode h mode) h r

end Service

end VgaFirmware
