import VgaFirmware.Proofs.Reachable

/-!
# Usable states

Text operations need less than agreement of screen and registers: a screen that is in some mode,
and a board whose write path is a plain one (`Usable`). Every call keeps that up, also after a
power-on that was refused (`Started.usable`).
-/

namespace VgaFirmware

/-- Before any operation the screen counts as a text screen of 40 columns. -/
theorem Screen.inMode_initial : Screen.initial.InMode (.text 0x01 .narrow 0x0800) where
  lookup := rfl
  columns := rfl
  rows := rfl
  pageSize := rfl
  activePage := by decide
  cursor_x := by decide
  cursor_y := by decide

namespace Service

variable {bus : BusWidth} {window : UInt16} {spec : ModeSpec} {s t : Service (Board bus)}

/-- The screen is in a mode, and the registers that no mode sets are as power-on left them. -/
structure Usable (window : UInt16) (spec : ModeSpec) (s : Service (Board bus)) : Prop where
  screen : s.screen.InMode spec
  ready : s.machine.hardware.Ready window

theorem Aligned.usable (h : s.Aligned window spec) : s.Usable window spec := ⟨h.screen, h.ready⟩

namespace Usable

theorem quiet (h : s.Usable window spec) (q : s.Quiet t) : t.Usable window spec where
  screen := q.screen ▸ h.screen
  ready := q.registers.ready h.ready (by decide)

theorem applyCursor (h : s.Usable window spec) (p : Position) :
    (s.applyCursor p).Usable window spec where
  screen := h.screen
  ready := (s.machine.sameRegisters_writeRegPair s.settings.crtc 0x0E _).ready h.ready (by decide)

theorem setCursorPosition (h : s.Usable window spec) (page x y : UInt8) :
    (s.setCursorPosition page x y).2.Usable window spec := by
  unfold Service.setCursorPosition
  split
  · exact h
  · next slot _ =>
    have hset : (s.setScreen (s.screen.setCursor slot (s.screen.clamp ⟨x, y⟩))).Usable window
      spec := ⟨h.screen.setCursor slot ⟨x, y⟩, h.ready⟩
    simp only
    split
    · exact hset.applyCursor _
    · exact hset

theorem setActivePage (h : s.Usable window spec) (page : UInt8) :
    (s.setActivePage page).2.Usable window spec := by
  unfold Service.setActivePage
  split
  · exact h
  · next slot hslot =>
    have hpage : page.toNat < 8 := Page.ofByte_eq_ok.mp hslot ▸ slot.isLt
    have hstart := (s.machine.sameRegisters_writeRegPair s.settings.crtc 0x0C
      (s.screen.pageStart page)).ready h.ready (by decide)
    have hshow : ((s.update (·.setStartAddress s.settings.crtc
        (s.screen.pageStart page))).setScreen { s.screen with activePage := page }).Usable window
          spec := ⟨h.screen.showPage hpage, hstart⟩
    exact (hshow.applyCursor _).quiet (quiet_emit _ _)

/-- Pages begin at even paragraphs. -/
theorem pageStart_mod (h : s.Usable window spec) (page : UInt8) :
    (s.screen.pageStart page).toNat % 32 = 0 := by
  have := h.screen.pageStart_mod page
  omega

/-- Only setting a mode leads to another one. -/
theorem setMode (h : s.Usable window spec) (mode : UInt8) :
    ∃ spec', (s.setMode mode).2.Usable window spec' := by
  cases hspec : ModeSpec.lookup mode with
  | error e =>
    simp only [Service.setMode, hspec]
    exact ⟨spec, h⟩
  | ok spec' => exact ⟨spec', (aligned_setMode h.ready hspec).usable⟩

end Usable

theorem kept_usable (window : UInt16) (spec : ModeSpec) :
    Kept fun s : Service (Board bus) => s.Usable window spec where
  quiet := .quiet
  setCursorPosition page x y h := h.setCursorPosition page x y
  setActivePage page h := h.setActivePage page

/-- Every call keeps a service usable. -/
theorem Usable.interrupt (h : s.Usable window spec) (r : RegisterImage) :
    ∃ spec', (s.interrupt r).2.Usable window spec' :=
  (Kept.exists_of_forall (kept_usable window)).interrupt (fun mode ⟨_, h⟩ => h.setMode mode)
    ⟨spec, h⟩ r

/-- The states of a service over a fresh adapter, after a power-on that may have been refused. -/
inductive Started (window : UInt16) : Service (Board bus) → Prop where
  | powerOn (settings : Settings) (ram : Ram) :
      Started window (Service.start settings ⟨window, ram, .powerOn⟩).powerOn.2
  | interrupt {s : Service (Board bus)} (h : Started window s) (r : RegisterImage) :
      Started window (s.interrupt r).2

theorem Reachable.started (h : Reachable window s) : s.Started window := by
  induction h with
  | powerOn settings ram _ => exact .powerOn settings ram
  | interrupt _ r ih => exact ih.interrupt r

theorem usable_start (settings : Settings) (ram : Ram) :
    (Service.start settings (⟨window, ram, .powerOn⟩ : Board bus)).Usable window
      (.text 0x01 .narrow 0x0800) where
  screen := Screen.inMode_initial
  ready := ⟨rfl, ⟨rfl, rfl, rfl, rfl⟩, rfl, rfl⟩

theorem powerOn_refused (s : Service (Board bus)) {e : Rejection}
    (h : ModeSpec.lookup s.settings.initialMode = .error e) : s.powerOn = (.error e, s) := by
  simp only [powerOn, h]

theorem Started.usable (h : s.Started window) : ∃ spec, s.Usable window spec := by
  induction h with
  | powerOn settings ram =>
    cases hspec : ModeSpec.lookup settings.initialMode with
    | error e =>
      rw [powerOn_refused _ hspec]
      exact ⟨_, usable_start settings ram⟩
    | ok spec =>
      exact ⟨spec, (aligned_powerOn settings ram hspec).usable⟩
  | interrupt _ r ih =>
    obtain ⟨spec, hs⟩ := ih
    exact hs.interrupt r

end Service

end VgaFirmware
