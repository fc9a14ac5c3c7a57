import VgaFirmware.Proofs.Colours
import VgaFirmware.Proofs.Controls
import VgaFirmware.Proofs.Reachable

/-!
# Programs of register writes

A bank that is programmed twice by the same writes is as after the first time: a register either
takes a value that does not depend on the bank, or is left alone (`RegisterBank.read_program`).
Setting a mode and bringing up the adapter are such programs of the three banks, beside streams of
colours that end where they ended before, so doing either again changes nothing
(`Adapter.enterMode_again`, `Adapter.powerUp_enterMode_again`). The service does exactly this to the
controls (`Service.sameControls_setMode`, `Service.sameControls_powerOn`).
-/

namespace VgaFirmware

/-! ## One bank -/

namespace RegisterBank

variable {n : Nat}

/-- Writes registers one after the other, and leaves the index at one of them. -/
def program (b : RegisterBank n) (writes : List (UInt8 × UInt8)) (last : UInt8) :
    RegisterBank n :=
  (writes.foldl (fun b w => b.write w.1 w.2) b).select last

/-- Where the index stands does not matter to a program. -/
theorem program_select (b : RegisterBank n) (i : UInt8) (writes : List (UInt8 × UInt8))
    (last : UInt8) : (b.select i).program writes last = b.program writes last := by
  induction writes generalizing b with
  | nil => rfl
  | cons w rest ih => exact ih (b.write w.1 w.2)

theorem program_program (b : RegisterBank n) (writes more : List (UInt8 × UInt8))
    (last last' : UInt8) :
    (b.program writes last).program more last' = b.program (writes ++ more) last' := by
  have hselect : (b.program writes last).program more last' =
      (writes.foldl (fun b w => b.write w.1 w.2) b).program more last' := program_select _ _ _ _
  rw [hselect, program, program, List.foldl_append]

/-- A program sets a register to the same value in every bank, or leaves it alone in every bank. -/
theorem read_program (writes : List (UInt8 × UInt8)) (last j : UInt8) :
    (∃ v, ∀ b : RegisterBank n, (b.program writes last).read j = v) ∨
      ∀ b : RegisterBank n, (b.program writes last).read j = b.read j := by
  induction writes with
  | nil => exact .inr fun _ => rfl
  | cons w rest ih =>
    obtain ⟨i, x⟩ := w
    rcases ih with ⟨v, hset⟩ | hkept
    · exact .inl ⟨v, fun b => hset (b.write i x)⟩
    · have hwrite (b : RegisterBank n) : (b.program ((i, x) :: rest) last).read j =
          if j = i ∧ i.toNat < n then x else b.read j :=
        (hkept (b.write i x)).trans (b.read_write i j x)
      by_cases hj : j = i ∧ i.toNat < n
      · exact .inl ⟨x, fun b => (hwrite b).trans (if_pos hj)⟩
      · exact .inr fun b => (hwrite b).trans (if_neg hj)

theorem program_again (hn : n ≤ 256) (b : RegisterBank n) (writes : List (UInt8 × UInt8))
    (last : UInt8) : (b.program writes last).program writes last = b.program writes last := by
  refine ext_read hn rfl fun j => ?_
  rcases read_program (n := n) writes last j with ⟨v, hset⟩ | hkept
  · rw [hset, hset]
  · exact hkept (b.program writes last)

/-- The same of a program in two parts. -/
theorem program_program_again (hn : n ≤ 256) (b : RegisterBank n)
    (writes more : List (UInt8 × UInt8)) (last last' : UInt8) :
    (((b.program writes last).program more last').program writes last).program more last' =
      (b.program writes last).program more last' := by
  rw [b.program_program, program_program, program_again hn]

end RegisterBank

/-! ## What is written -/

namespace ModeSpec

variable (spec : ModeSpec)

def sequencerWrites : List (UInt8 × UInt8) :=
  (2, spec.mapMask.toByte) :: (spec.characterMap.toList.map (Prod.mk 3) ++
    [(4, spec.memoryMode.bits)])

def graphicsWrites : List (UInt8 × UInt8) :=
  [(5, spec.graphicsMode.bits), (6, spec.graphicsMisc.bits)]

/-- The size of the screen and the start of the display; in a text mode the cursor, too. -/
def timingWrites (cursor : UInt16) : List (UInt8 × UInt8) :=
  [(0x01, spec.columns), (0x12, spec.rows), (0x0C, 0), (0x0D, 0)] ++
    if spec.isText then [(0x0E, Word.high cursor), (0x0F, Word.low cursor)] else []

end ModeSpec

/-- The height of characters and the shape of the cursor. -/
def Settings.shapeWrites (settings : Settings) : List (UInt8 × UInt8) :=
  [(0x09, 0x07), (0x0A, settings.cursorShape.first),
    (0x0B, settings.cursorShape.last &&& 0x1F)]

/-! ## The adapter -/

namespace Adapter

variable (a : Adapter)

/-- The registers of a mode, with the cursor at a cell if the mode is a text mode. -/
def enterMode (spec : ModeSpec) (cursor : UInt16) : Adapter :=
  { a with
    sequencer := a.sequencer.program spec.sequencerWrites 4
    graphics := a.graphics.program spec.graphicsWrites 6
    crtc := a.crtc.program (spec.timingWrites cursor) (if spec.isText then 0x0F else 0x0D) }

/-- What comes before the initial mode, with the indices where loading the font leaves them. -/
def powerUp (settings : Settings) : Adapter :=
  { a with
    miscOutput := settings.crtc.miscOutput
    sequencer := a.sequencer.program [] 4
    graphics := a.graphics.program [(8, 0xFF), (0, 0x00), (1, 0x00), (3, 0x00)] 6
    crtc := a.crtc.program settings.shapeWrites 0x0B
    attributes := a.attributes.passThrough
    dac := a.dac.loadPalette }

theorem enterMode_eq_showCursor {spec : ModeSpec} (h : spec.isText = true) (cursor : UInt16) :
    a.enterMode spec cursor = (a.setMode spec).showCursor cursor := by
  cases hmap : spec.characterMap
  all_goals
    simp only [enterMode, setMode, ModeSpec.sequencerWrites, ModeSpec.timingWrites, hmap, h]
    rfl

theorem enterMode_eq_setMode {spec : ModeSpec} (h : ¬ spec.isText = true) (cursor : UInt16) :
    a.enterMode spec cursor = a.setMode spec := by
  cases hmap : spec.characterMap
  all_goals
    simp only [enterMode, setMode, ModeSpec.sequencerWrites, ModeSpec.timingWrites, hmap, h]
    rfl

theorem enterMode_again (spec : ModeSpec) (cursor : UInt16) :
    (a.enterMode spec cursor).enterMode spec cursor = a.enterMode spec cursor := by
  simp only [enterMode, RegisterBank.program_again (show 5 ≤ 256 by decide),
    RegisterBank.program_again (show 9 ≤ 256 by decide),
    RegisterBank.program_again (show 25 ≤ 256 by decide)]

theorem powerUp_enterMode_again (settings : Settings) (spec : ModeSpec) (cursor : UInt16) :
    (((a.powerUp settings).enterMode spec cursor).powerUp settings).enterMode spec cursor =
      (a.powerUp settings).enterMode spec cursor := by
  simp only [powerUp, enterMode, RegisterBank.program_program_again (show 5 ≤ 256 by decide),
    RegisterBank.program_program_again (show 9 ≤ 256 by decide),
    RegisterBank.program_program_again (show 25 ≤ 256 by decide),
    AttributeController.passThrough_passThrough, Dac.loadPalette_loadPalette]

end Adapter

/-! ## The machine -/

variable {bus : BusWidth}

namespace Machine

variable (m : Machine (Board bus))

/-- Accesses inside a view leave of the adapter what closing the view does. -/
theorem sameControls_edit (v : View) (start : UInt16) {f : Board bus → Board bus}
    (h : ∀ b, Backend.Accesses b (f b)) :
    (m.hardware.updateAdapter .afterView).SameControls (m.edit v start (·.update f)).hardware := by
  rw [hardware_edit_update]
  exact Board.sameControls_within (Board.besideViews_of_accesses (h _))

theorem sameControls_loadFont :
    (m.hardware.updateAdapter .afterView).SameControls m.loadFont.hardware :=
  m.sameControls_edit _ _ Font.accesses_store

theorem sameControls_clearPlanes :
    (m.hardware.updateAdapter .afterView).SameControls m.clearPlanes.hardware := by
  -- of any count, so that the fill is not unfolded
  have hfill (count : Nat) := m.sameControls_edit (.planes .all 0) 0
    (f := (Backend.fill · 0 0 count)) fun _ => .fill .refl 0 0 count
  exact hfill 0x10000

theorem unprotected_activate (h : m.hardware.adapter.Unprotected) (settings : Settings)
    (spec : ModeSpec) : (m.activate settings spec).hardware.adapter.Unprotected := by
  refine (m.sameRegisters_activate settings spec).unprotected (by decide) ?_
  rw [m.hardware_programMode h, Adapter.Unprotected, Board.adapter_updateAdapter,
    Adapter.crtc_setMode_read _ _ (by decide)]
  exact h

/-- Setting the registers of a mode leaves the indices where closing a view does, so blanking the
planes and loading the font have no effect on the controls. -/
theorem sameControls_activate (h : m.hardware.adapter.Unprotected) (settings : Settings)
    (spec : ModeSpec) :
    (m.hardware.updateAdapter (·.setMode spec)).SameControls
      (m.activate settings spec).hardware := by
  let n := m.programMode settings.crtc spec
  let blanked := if settings.clearPlanes then n.clearPlanes else n
  have hn : n.hardware = m.hardware.updateAdapter (·.setMode spec) :=
    m.hardware_programMode h settings.crtc spec
  have hrest : n.hardware.updateAdapter .afterView = n.hardware := by
    rw [hn]
    rfl
  have hblanked : n.hardware.SameControls blanked.hardware := by
    simp only [blanked]
    split
    · have hclear := n.sameControls_clearPlanes
      rw [hrest] at hclear
      exact hclear
    · exact .refl _
  have hfont : n.hardware.SameControls blanked.loadFont.hardware := by
    have hview := hblanked.update (f := .afterView) fun _ _ _ => rfl
    rw [hrest] at hview
    exact hview.trans blanked.sameControls_loadFont
  rw [← hn]
  unfold activate
  simp only
  split
  · exact hfont
  · exact hblanked

theorem hardware_resetShape (h : m.hardware.adapter.Unprotected) (settings : Settings) :
    (m.resetShape settings).hardware =
      m.hardware.updateAdapter fun a =>
        { a with crtc := a.crtc.program settings.shapeWrites 0x0B } := by
  have h₁ := h.write (i := 0x09) (by decide) 0x07
  have h₂ := h₁.write (i := 0x0A) (by decide) settings.cursorShape.first
  simp only [resetShape, setCursorShape, hardware_writeReg, hardware_writeRegSplit,
    Board.updateAdapter, h.writeIndexed_crtc, h₁.writeIndexed_crtc, h₂.writeIndexed_crtc]
  rfl

theorem sameControls_bringUp (h : m.hardware.adapter.Unprotected) (settings : Settings) :
    (m.hardware.updateAdapter (·.powerUp settings)).SameControls
      (m.bringUp settings).hardware := by
  have hfree : (m.resetPath settings.crtc).loadFont.hardware.adapter.Unprotected :=
    (sameRegisters_loadFont _).unprotected List.not_mem_nil (m.unprotected_resetPath h _)
  have hfont := (m.resetPath settings.crtc).sameControls_loadFont
  rw [m.hardware_resetPath] at hfont
  have hshaped := hfont.update
    (f := fun a => { a with crtc := a.crtc.program settings.shapeWrites 0x0B }) fun _ _ _ => rfl
  rw [← hardware_resetShape _ hfree settings] at hshaped
  rw [bringUp_eq]
  generalize (m.resetPath settings.crtc).loadFont.resetShape settings = shaped at hshaped ⊢
  have hcolours := shaped.recoloured_resetColours settings.crtc
  refine ⟨?_, ?_, ?_, ?_, ?_, ?_, ?_⟩
  · rw [hcolours.window, hshaped.window]
    rfl
  · rw [hcolours.miscOutput, hshaped.miscOutput]
    rfl
  · rw [hcolours.sequencer, hshaped.sequencer]
    rfl
  · rw [hcolours.graphics, hshaped.graphics]
    rfl
  · rw [hcolours.crtc, hshaped.crtc]
    rfl
  · rw [attributes_resetColours, hshaped.attributes]
    rfl
  · simp only [dac_resetColours, hshaped.dac, Board.adapter_updateAdapter, Adapter.afterView,
      Adapter.powerUp]

theorem unprotected_bringUp (h : m.hardware.adapter.Unprotected) (settings : Settings) :
    (m.bringUp settings).hardware.adapter.Unprotected :=
  (m.sameRegisters_bringUp settings).unprotected (by decide) (m.unprotected_resetPath h _)

end Machine

/-! ## The service -/

/-- Where the cursor shows once a mode is set. -/
def Screen.homeCursor (d : Screen) (spec : ModeSpec) : UInt16 :=
  (d.enter spec).cellIndex ((d.enter spec).cursor .first)

namespace Service

variable (s : Service (Board bus)) {mode : UInt8} {spec : ModeSpec}

/-- All that setting a mode does to the controls. -/
theorem sameControls_setMode (h : s.machine.hardware.adapter.Unprotected)
    (hspec : ModeSpec.lookup mode = .ok spec) :
    (s.machine.hardware.updateAdapter (·.enterMode spec (s.screen.homeCursor spec))).SameControls
      (s.setMode mode).2.machine.hardware := by
  let n := s.machine.activate s.settings spec
  have hactivate := s.machine.sameControls_activate h s.settings spec
  by_cases htext : spec.isText = true
  · have hcursor := n.hardware_setCursorLocation (s.machine.unprotected_activate h s.settings spec)
      s.settings.crtc (s.screen.homeCursor spec)
    have hshown := hactivate.update (f := (·.showCursor (s.screen.homeCursor spec)))
      fun _ _ _ => rfl
    rw [← hcursor] at hshown
    simp only [setMode, hspec, if_pos htext, Adapter.enterMode_eq_showCursor _ htext]
    exact hshown
  · simp only [setMode, hspec, if_neg htext, Adapter.enterMode_eq_setMode _ htext]
    exact hactivate

/-- All that power-on does to them. -/
theorem sameControls_powerOn (h : s.machine.hardware.adapter.Unprotected)
    (hspec : ModeSpec.lookup s.settings.initialMode = .ok spec) :
    (s.machine.hardware.updateAdapter fun a =>
      (a.powerUp s.settings).enterMode spec (s.screen.homeCursor spec)).SameControls
        s.powerOn.2.machine.hardware := by
  have hbrought := (s.machine.sameControls_bringUp h s.settings).update
    (f := (·.enterMode spec (s.screen.homeCursor spec))) fun _ _ _ => rfl
  have hfree : (s.update (·.bringUp s.settings)).machine.hardware.adapter.Unprotected := by
    rw [machine_update]
    exact s.machine.unprotected_bringUp h s.settings
  have hset := (s.update (·.bringUp s.settings)).sameControls_setMode hfree hspec
  rw [machine_update, screen_update] at hset
  rw [s.powerOn_eq hspec]
  exact hbrought.trans hset

end Service

end VgaFirmware
