import VgaFirmware.Proofs.InMode
import VgaFirmware.Service.PowerOn

/-!
# Bringing up the board

Before the initial mode is set, power-on resets the write path, loads the font, and resets
character height, cursor shape and colours (`bringUp_eq`). The first makes the write path a plain
one, whatever it was (`plain_resetPath`); the colours are apart from everything else on the board
(`Recoloured`).
-/

namespace VgaFirmware

variable {bus : BusWidth}

/-! ## Colours -/

namespace Board

/-- The same board but for the attribute controller, the colour table and the latches. -/
structure Recoloured (b c : Board bus) : Prop where
  window : c.window = b.window
  ram : c.ram = b.ram
  miscOutput : c.adapter.miscOutput = b.adapter.miscOutput
  sequencer : c.adapter.sequencer = b.adapter.sequencer
  graphics : c.adapter.graphics = b.adapter.graphics
  crtc : c.adapter.crtc = b.adapter.crtc
  planes : c.adapter.planes = b.adapter.planes

namespace Recoloured

variable {b c d : Board bus}

theorem refl (b : Board bus) : Recoloured b b := ⟨rfl, rfl, rfl, rfl, rfl, rfl, rfl⟩

theorem trans (h : Recoloured b c) (g : Recoloured c d) : Recoloured b d where
  window := g.window.trans h.window
  ram := g.ram.trans h.ram
  miscOutput := g.miscOutput.trans h.miscOutput
  sequencer := g.sequencer.trans h.sequencer
  graphics := g.graphics.trans h.graphics
  crtc := g.crtc.trans h.crtc
  planes := g.planes.trans h.planes

theorem sameRegisters (h : Recoloured b c) : SameRegisters [] b c :=
  ⟨h.window, fun i => by rw [h.sequencer], fun i => by rw [h.graphics],
    fun i _ => by rw [h.crtc]⟩

theorem sameMemory (h : Recoloured b c) : SameMemory b c := ⟨h.ram, h.planes⟩

end Recoloured

end Board

namespace Machine

variable (m : Machine (Board bus)) {window : UInt16}

theorem recoloured_writePort (port : UInt16) (v : UInt8) (h : port ∈ [0x3C0, 0x3C8, 0x3C9]) :
    m.hardware.Recoloured (m.writePort port v).hardware := by
  simp only [List.mem_cons, List.not_mem_nil, or_false] at h
  rcases h with rfl | rfl | rfl
  all_goals exact ⟨rfl, rfl, rfl, rfl, rfl, rfl, rfl⟩

theorem recoloured_foldl {α : Type} {f : Machine (Board bus) → α → Machine (Board bus)}
    (hf : ∀ (m : Machine (Board bus)) x, m.hardware.Recoloured (f m x).hardware) (xs : List α) :
    m.hardware.Recoloured (xs.foldl f m).hardware := by
  induction xs generalizing m with
  | nil => exact .refl _
  | cons x xs ih => exact (hf m x).trans (ih (f m x))

theorem recoloured_writeAttribute (i v : UInt8) :
    m.hardware.Recoloured (m.writeAttribute i v).hardware :=
  (m.recoloured_writePort 0x3C0 i (by decide)).trans
    (recoloured_writePort _ 0x3C0 v (by decide))

theorem recoloured_resetAttributes (base : CrtcBase) :
    m.hardware.Recoloured (m.resetAttributes base).hardware := by
  have hread : m.hardware.Recoloured (m.readPort base.statusPort).2.hardware := by
    cases base <;> exact ⟨rfl, rfl, rfl, rfl, rfl, rfl, rfl⟩
  have hpalette := recoloured_foldl (m.readPort base.statusPort).2
    (fun m i => m.recoloured_writeAttribute (UInt8.ofNat i) (UInt8.ofNat i)) (List.range 16)
  exact (hread.trans hpalette).trans ((recoloured_writeAttribute _ 0x10 0x08).trans
    (recoloured_writePort _ 0x3C0 0x20 (by decide)))

theorem recoloured_pushColour (c : Colour) : m.hardware.Recoloured (m.pushColour c).hardware :=
  ((m.recoloured_writePort 0x3C9 c.red (by decide)).trans
    (recoloured_writePort _ 0x3C9 c.green (by decide))).trans
      (recoloured_writePort _ 0x3C9 c.blue (by decide))

theorem recoloured_writeColours (first : UInt8) (colours : List Colour) :
    m.hardware.Recoloured (m.writeColours first colours).hardware :=
  (m.recoloured_writePort 0x3C8 first (by decide)).trans
    (recoloured_foldl _ recoloured_pushColour colours)

/-! ## The parts of power-on -/

/-- The miscellaneous output, and a write path that lets every byte through. -/
def resetPath (m : Machine (Board bus)) (base : CrtcBase) : Machine (Board bus) :=
  ((((m.writePort 0x3C2 base.miscOutput).writeReg .graphics 8 0xFF).writeReg .graphics 0
    0x00).writeReg .graphics 1 0x00).writeReg .graphics 3 0x00

/-- The height of characters and the shape of the cursor. -/
def resetShape (m : Machine (Board bus)) (settings : Settings) : Machine (Board bus) :=
  (m.writeReg (.crtc settings.crtc) 0x09 0x07).setCursorShape settings.crtc settings.cursorShape

/-- The attribute controller and the colour table. -/
def resetColours (m : Machine (Board bus)) (base : CrtcBase) : Machine (Board bus) :=
  (m.resetAttributes base).writeColours 0 Palette.initial

theorem bringUp_eq (settings : Settings) :
    m.bringUp settings =
      (((m.resetPath settings.crtc).loadFont).resetShape settings).resetColours settings.crtc :=
  rfl

theorem hardware_resetPath (base : CrtcBase) :
    (m.resetPath base).hardware = m.hardware.updateAdapter fun a =>
      { a with
        miscOutput := base.miscOutput
        graphics :=
          ((((a.graphics.write 8 0xFF).write 0 0x00).write 1 0x00).write 3 0x00).select 3 } := by
  simp only [resetPath, hardware_writeReg, Adapter.writeIndexed_graphics]
  rfl

/-- The write path is a plain one, whatever it was before. -/
theorem plain_resetPath (base : CrtcBase) : (m.resetPath base).hardware.Plain := by
  rw [hardware_resetPath]
  refine ⟨?_, ?_, ?_, ?_⟩
  all_goals simp [RegisterBank.read_write]

theorem sameMemory_resetPath (base : CrtcBase) :
    m.hardware.SameMemory (m.resetPath base).hardware := by
  rw [hardware_resetPath]
  exact ⟨rfl, rfl⟩

theorem unprotected_resetPath (h : m.hardware.adapter.Unprotected) (base : CrtcBase) :
    (m.resetPath base).hardware.adapter.Unprotected := by
  rw [hardware_resetPath]
  exact h

theorem sameRegisters_resetShape (settings : Settings) :
    m.hardware.SameRegisters [0x09, 0x0A, 0x0B] (m.resetShape settings).hardware := by
  have hlines := m.sameRegisters_writeReg settings.crtc 0x09 0x07
  have hshape := (m.writeReg (.crtc settings.crtc) 0x09 0x07).sameRegisters_setCursorShape
    settings.crtc settings.cursorShape
  exact (hlines.mono (by simp)).trans (hshape.mono (by simp))

theorem sameMemory_resetShape (settings : Settings) :
    m.hardware.SameMemory (m.resetShape settings).hardware := by
  have hlines : m.hardware.SameMemory (m.writeReg (.crtc settings.crtc) 0x09 0x07).hardware := by
    rw [hardware_writeReg]
    exact .writeIndexed _ _ _ _
  exact hlines.trans (sameMemory_setCursorShape _ _ _)

theorem recoloured_resetColours (base : CrtcBase) :
    m.hardware.Recoloured (m.resetColours base).hardware :=
  (m.recoloured_resetAttributes base).trans (recoloured_writeColours _ 0 Palette.initial)

/-- After the reset of the write path only three registers change. -/
theorem sameRegisters_bringUp (settings : Settings) :
    (m.resetPath settings.crtc).hardware.SameRegisters [0x09, 0x0A, 0x0B]
      (m.bringUp settings).hardware := by
  have hfont := (m.resetPath settings.crtc).sameRegisters_loadFont
  have hshape := (m.resetPath settings.crtc).loadFont.sameRegisters_resetShape settings
  have hcolours := (((m.resetPath settings.crtc).loadFont).resetShape
    settings).recoloured_resetColours settings.crtc
  exact ((hfont.mono (List.nil_subset _)).trans hshape).trans
    (hcolours.sameRegisters.mono (List.nil_subset _))

/-- Bringing the board up leaves in memory what loading the font does. -/
theorem sameMemory_bringUp (settings : Settings) :
    (m.resetPath settings.crtc).loadFont.hardware.SameMemory (m.bringUp settings).hardware :=
  (sameMemory_resetShape _ settings).trans (recoloured_resetColours _ settings.crtc).sameMemory

theorem plain_bringUp (settings : Settings) : (m.bringUp settings).hardware.Plain :=
  (m.sameRegisters_bringUp settings).plain (m.plain_resetPath _)

/-- On a fresh adapter the registers that no mode sets are ready. -/
theorem ready_bringUp (settings : Settings) (hwindow : m.hardware.window = window)
    (hmap : m.hardware.adapter.graphics.read 4 = 0)
    (hprotect : m.hardware.adapter.crtc.read 0x11 = 0) :
    (m.bringUp settings).hardware.Ready window := by
  refine (m.sameRegisters_bringUp settings).ready ⟨?_, m.plain_resetPath _, ?_, ?_⟩ (by decide)
  all_goals rw [hardware_resetPath]
  · exact hwindow
  · simp [RegisterBank.read_write, hmap]
  · exact hprotect

end Machine

end VgaFirmware
