import VgaFirmware.Proofs.Aligned
import VgaFirmware.Proofs.BringUp

/-!
# Reachable states

The states that a service goes through: power-on of a fresh adapter, with any memory and any
window, and then any number of calls with any arguments. In each of them screen and registers
agree.
-/

namespace VgaFirmware

variable {bus : BusWidth}

namespace Service

/-- The states of a service that was powered on over a fresh adapter. -/
inductive Reachable (window : UInt16) : Service (Board bus) → Prop where
  | powerOn (settings : Settings) (ram : Ram) {spec : ModeSpec}
      (h : ModeSpec.lookup settings.initialMode = .ok spec) :
      Reachable window (Service.start settings ⟨window, ram, .powerOn⟩).powerOn.2
  | interrupt {s : Service (Board bus)} (h : Reachable window s) (r : RegisterImage) :
      Reachable window (s.interrupt r).2

variable {window : UInt16} {s : Service (Board bus)}

theorem powerOn_eq (s : Service (Board bus)) {spec : ModeSpec}
    (h : ModeSpec.lookup s.settings.initialMode = .ok spec) :
    s.powerOn = (.ok (), ((s.update (·.bringUp s.settings)).setMode
      s.settings.initialMode).2.emit (.initialised s.settings.initialMode)) := by
  have hok := (s.update (·.bringUp s.settings)).fst_setMode h
  simp only [powerOn, h]
  generalize (s.update (·.bringUp s.settings)).setMode s.settings.initialMode = q at hok
  obtain ⟨result, t⟩ := q
  obtain rfl : result = .ok () := hok
  rfl

theorem screen_powerOn (s : Service (Board bus)) {spec : ModeSpec}
    (h : ModeSpec.lookup s.settings.initialMode = .ok spec) :
    s.powerOn.2.screen = s.screen.enter spec := by
  have hscreen := (s.update (·.bringUp s.settings)).screen_setMode h
  rw [screen_update] at hscreen
  rw [s.powerOn_eq h, (quiet_emit _ _).screen, hscreen]

theorem aligned_powerOn (settings : Settings) (ram : Ram) {spec : ModeSpec}
    (h : ModeSpec.lookup settings.initialMode = .ok spec) :
    (Service.start settings (⟨window, ram, .powerOn⟩ : Board bus)).powerOn.2.Aligned window
      spec := by
  let s : Service (Board bus) := Service.start settings ⟨window, ram, .powerOn⟩
  have hready : (s.update (·.bringUp settings)).machine.hardware.Ready window := by
    refine s.machine.ready_bringUp settings rfl ?_ ?_
    · exact (RegisterBank.read_write_of_ne _ _ (by decide)).trans (RegisterBank.read_blank _)
    · exact RegisterBank.read_blank _
  rw [s.powerOn_eq h]
  exact (aligned_setMode hready h).quiet (quiet_emit _ _)

/-- In every reachable state screen and registers are in step. -/
theorem Reachable.inStep (h : Reachable window s) : s.InStep window := by
  induction h with
  | powerOn settings ram h => exact (aligned_powerOn settings ram h).inStep
  | interrupt _ r ih => exact ih.interrupt r

/-- Registers and screen never drift apart: in every reachable state the registers are those of
the mode, the display starts at the page that the screen names, in a text mode the cursor shows
at the stored cursor of that page, and the window is where the caller had put it. -/
theorem Reachable.registers_follow_screen (h : Reachable window s) :
    ∃ spec, ModeSpec.lookup s.screen.mode = .ok spec ∧
      let a := s.machine.hardware.adapter
      a.sequencer.read 2 = spec.mapMask.toByte ∧
      a.sequencer.read 4 = spec.memoryMode.bits ∧
      a.graphics.read 5 = spec.graphicsMode.bits ∧
      a.graphics.read 6 = spec.graphicsMisc.bits ∧
      (∀ i ∈ [0, 1, 3, 4], a.graphics.read i = 0) ∧
      a.graphics.read 8 = 0xFF ∧
      a.crtc.read 0x01 = s.screen.columns ∧
      a.crtc.read 0x12 = s.screen.rows ∧
      a.startAddress = s.screen.pageStart s.screen.activePage ∧
      (spec.isText = true → ∃ p, s.cursorOf s.screen.activePage = .ok p ∧
        a.cursorLocation.toNat = s.screen.columns.toNat * p.y.toNat + p.x.toNat) ∧
      s.machine.hardware.window = window := by
  obtain ⟨spec, haligned⟩ := h.inStep
  have hready := haligned.ready
  have hregs := haligned.registers
  refine ⟨spec, haligned.screen.lookup, hregs.mapMask, hregs.memoryMode, hregs.graphicsMode,
    hregs.graphicsMisc, ?_, hready.plain.bitMask, ?_, ?_, haligned.startAddress, ?_,
    hready.window⟩
  · intro i hi
    simp only [List.mem_cons, List.not_mem_nil, or_false] at hi
    rcases hi with rfl | rfl | rfl | rfl
    · exact hready.plain.setReset
    · exact hready.plain.enableSetReset
    · exact hready.plain.rotate
    · exact hready.readMap
  · exact hregs.columns.trans haligned.screen.columns.symm
  · exact hregs.rows.trans haligned.screen.rows.symm
  · intro htext
    let page : Page := ⟨s.screen.activePage.toNat, haligned.screen.activePage⟩
    refine ⟨s.screen.cursor page, s.cursorOf_eq _ page rfl, ?_⟩
    rw [haligned.cursorLocation htext page rfl, Screen.toNat_cellIndex]

/-- The service in a mode: powered on over a fresh board. -/
def poweredOn (mode : UInt8) : Service (Board .word) :=
  (Service.start { Settings.standard with initialMode := mode } (Board.powerOn .word)).powerOn.2

theorem reachable_poweredOn (mode : UInt8) {spec : ModeSpec}
    (h : ModeSpec.lookup mode = .ok spec) : Reachable 0 (poweredOn mode) :=
  .powerOn { Settings.standard with initialMode := mode } .blank h

theorem screen_poweredOn (mode : UInt8) {spec : ModeSpec}
    (h : ModeSpec.lookup mode = .ok spec) :
    (poweredOn mode).screen = Screen.initial.enter spec :=
  screen_powerOn _ h

/-- A change of the mode, a page switch and a character that is typed on the page on display. -/
theorem Reachable.registers_follow_screen_text :
    let changeMode : RegisterImage := ⟨0x0002, 0, 0, 0, 0, 0⟩
    let showPage : RegisterImage := ⟨0x0501, 0, 0, 0, 0, 0⟩
    let teletype : RegisterImage := ⟨0x0E41, 0x0107, 0, 0, 0, 0⟩
    let s := (poweredOn 0x13).serve [changeMode, showPage, teletype]
    let a := s.machine.hardware.adapter
    Reachable 0 s ∧ s.screen.mode = 0x02 ∧ a.sequencer.read 2 = 0x03 ∧
      a.sequencer.read 4 = 0x02 ∧ a.graphics.read 5 = 0x10 ∧ a.graphics.read 6 = 0x0E ∧
      a.graphics.read 3 = 0 ∧ a.graphics.read 8 = 0xFF ∧ a.crtc.read 0x01 = 80 ∧
      a.crtc.read 0x12 = 25 ∧ a.startAddress = 0x1000 ∧ a.cursorLocation = 1 ∧
      s.machine.hardware.window = 0 := by
  intro changeMode showPage teletype s a
  have h : Reachable 0 s :=
    (((reachable_poweredOn 0x13 rfl).interrupt changeMode).interrupt showPage).interrupt teletype
  have hmode : s.screen.mode = 0x02 := by decide +kernel
  obtain ⟨spec, hspec, hmask, hmemory, hgraphics, hmisc, hzero, hbits, hcolumns, hrows, hstart,
    hcursor, hwindow⟩ := h.registers_follow_screen
  rw [hmode] at hspec
  obtain rfl := Except.ok.inj hspec
  obtain ⟨p, hp, hlocation⟩ := hcursor rfl
  have hpage : (1 : Nat) = s.screen.activePage.toNat := by decide +kernel
  obtain rfl := eq_cursor_of_cursorOf hp ⟨1, by decide⟩ hpage
  refine ⟨h, hmode, hmask, hmemory, hgraphics, hmisc, hzero 3 (by decide), hbits,
    hcolumns.trans ?_, hrows.trans ?_, hstart.trans ?_, UInt16.toNat_inj.mp (hlocation.trans ?_),
    hwindow⟩
  all_goals decide +kernel

end Service

end VgaFirmware
