import VgaFirmware.Machine.Bracket
import VgaFirmware.Proofs.Registers

/-!
# Brackets

What is done inside a view leaves no trace in the registers: closing the view puts back the
window and the five view registers (`sameRegisters_within`), and nothing inside a view touches
any other. The memory is what the work inside has made of it (`sameMemory_within`).
-/

namespace VgaFirmware

namespace Adapter

/-! ## View registers -/

/-- The registers that a view depends on. -/
def viewRegisters (a : Adapter) : ViewRegisters where
  mapMask := a.sequencer.read 2
  memoryMode := a.sequencer.read 4
  readMap := a.graphics.read 4
  graphicsMode := a.graphics.read 5
  graphicsMisc := a.graphics.read 6

/-- Writes the view registers. -/
def setView (a : Adapter) (r : ViewRegisters) : Adapter :=
  { a with
    sequencer := ((a.sequencer.write 2 r.mapMask).write 4 r.memoryMode).select 4
    graphics :=
      (((a.graphics.write 4 r.readMap).write 5 r.graphicsMode).write 6 r.graphicsMisc).select 6 }

variable (a : Adapter) (r : ViewRegisters)

theorem sequencer_setView_read (i : UInt8) :
    (a.setView r).sequencer.read i =
      if i = 4 then r.memoryMode else if i = 2 then r.mapMask else a.sequencer.read i := by
  simp [setView, RegisterBank.read_write]

theorem graphics_setView_read (i : UInt8) :
    (a.setView r).graphics.read i =
      if i = 6 then r.graphicsMisc
      else if i = 5 then r.graphicsMode
      else if i = 4 then r.readMap
      else a.graphics.read i := by
  simp [setView, RegisterBank.read_write]

@[simp] theorem viewRegisters_setView : (a.setView r).viewRegisters = r := by
  simp [viewRegisters, sequencer_setView_read, graphics_setView_read]

@[simp] theorem crtc_setView : (a.setView r).crtc = a.crtc := rfl

@[simp] theorem planes_setView : (a.setView r).planes = a.planes := rfl

end Adapter

namespace Board

/-! ## Opening and closing -/

variable {bus : BusWidth}

/-- The board with a view open. -/
def openView (b : Board bus) (v : View) (start : UInt16) : Board bus :=
  ⟨v.segment start, b.ram,
    b.adapter.setView (v.registers ⟨b.adapter.viewRegisters.graphicsMisc⟩)⟩

/-- The board with a view closed. -/
def closeView (b : Board bus) (s : Saved) : Board bus :=
  ⟨s.window, b.ram, b.adapter.setView s.registers⟩

/-- What closing a view has to put back. -/
def saved (b : Board bus) : Saved := ⟨b.adapter.viewRegisters, b.window⟩

/-- The board after work inside a view. -/
def within (b : Board bus) (v : View) (start : UInt16) (work : Board bus → Board bus) :
    Board bus :=
  (work (b.openView v start)).closeView b.saved

/-- Turns an open view of planes to one plane. -/
def selectPlane (b : Board bus) (p : Plane) : Board bus :=
  b.updateAdapter fun a =>
    (a.writeIndexed 2 (PlaneSet.single p).toByte .sequencer).writeIndexed 4
      (UInt8.ofNat p.val) .graphics

/-- Same registers, but for those that views set. -/
structure Inside (b c : Board bus) : Prop where
  sequencer : ∀ i, i ≠ 2 → i ≠ 4 → c.adapter.sequencer.read i = b.adapter.sequencer.read i
  graphics : ∀ i, i ≠ 4 → i ≠ 5 → i ≠ 6 → c.adapter.graphics.read i = b.adapter.graphics.read i
  crtc : ∀ i, c.adapter.crtc.read i = b.adapter.crtc.read i

variable {b c d : Board bus} {v : View} {start : UInt16}

theorem Inside.trans (h : Inside b c) (g : Inside c d) : Inside b d where
  sequencer i h₂ h₄ := (g.sequencer i h₂ h₄).trans (h.sequencer i h₂ h₄)
  graphics i h₄ h₅ h₆ := (g.graphics i h₄ h₅ h₆).trans (h.graphics i h₄ h₅ h₆)
  crtc i := (g.crtc i).trans (h.crtc i)

theorem SameRegisters.inside (h : SameRegisters [] b c) : Inside b c :=
  ⟨fun i _ _ => h.sequencer i, fun i _ _ _ => h.graphics i,
    fun i => h.crtc i List.not_mem_nil⟩

theorem inside_of_accesses (h : Backend.Accesses b c) : Inside b c :=
  (sameRegisters_of_accesses h).inside

theorem inside_openView (b : Board bus) (v : View) (start : UInt16) :
    Inside b (b.openView v start) where
  sequencer i h₂ h₄ := by
    simp [openView, Adapter.sequencer_setView_read, h₂, h₄]
  graphics i h₄ h₅ h₆ := by
    simp [openView, Adapter.graphics_setView_read, h₄, h₅, h₆]
  crtc _ := rfl

theorem inside_selectPlane (b : Board bus) (p : Plane) : Inside b (b.selectPlane p) where
  sequencer _ h₂ _ := b.adapter.sequencer.read_write_of_ne _ h₂
  graphics _ h₄ _ _ := b.adapter.graphics.read_write_of_ne _ h₄
  crtc _ := rfl

/-- Closing a view undoes what happened to the view registers since it was opened. -/
theorem Inside.sameRegisters_closeView (h : Inside b c) :
    SameRegisters [] b (c.closeView b.saved) where
  window := rfl
  sequencer i := by
    simp only [closeView, Adapter.sequencer_setView_read]
    split
    · next h₄ => rw [h₄]; rfl
    · split
      · next h₂ => rw [h₂]; rfl
      · next h₄ h₂ => exact h.sequencer i h₂ h₄
  graphics i := by
    simp only [closeView, Adapter.graphics_setView_read]
    split
    · next h₆ => rw [h₆]; rfl
    · split
      · next h₅ => rw [h₅]; rfl
      · split
        · next h₄ => rw [h₄]; rfl
        · next h₆ h₅ h₄ => exact h.graphics i h₄ h₅ h₆
  crtc i _ := h.crtc i

/-- A bracket leaves every register as it was. -/
theorem sameRegisters_within {work : Board bus → Board bus}
    (h : Inside (b.openView v start) (work (b.openView v start))) :
    SameRegisters [] b (b.within v start work) :=
  ((b.inside_openView v start).trans h).sameRegisters_closeView

/-- Closing a view changes no memory. -/
theorem sameMemory_within (b : Board bus) (v : View) (start : UInt16)
    (work : Board bus → Board bus) :
    SameMemory (work (b.openView v start)) (b.within v start work) := ⟨rfl, rfl⟩

theorem sameMemory_openView (b : Board bus) (v : View) (start : UInt16) :
    SameMemory b (b.openView v start) := ⟨rfl, rfl⟩

end Board

/-! ## Brackets of a machine -/

namespace Machine

variable {bus : BusWidth} (m : Machine (Board bus)) (v : View) (start : UInt16)

theorem fst_capture : m.capture.1 = m.hardware.adapter.viewRegisters := rfl

theorem hardware_capture :
    m.capture.2.hardware = m.hardware.updateAdapter fun a =>
      { a with sequencer := a.sequencer.select 4, graphics := a.graphics.select 6 } := rfl

theorem hardware_program (r : ViewRegisters) :
    (m.program r).hardware = m.hardware.updateAdapter (·.setView r) := by
  simp only [program, hardware_writeReg]
  rfl

theorem hardware_restore (r : ViewRegisters) :
    (m.restore r).hardware = m.hardware.updateAdapter (·.setView r) := by
  simp only [restore, hardware_writeRegSplit]
  rfl

theorem fst_openView : (m.openView v start).1 = m.hardware.saved := rfl

theorem hardware_openView : (m.openView v start).2.hardware = m.hardware.openView v start := by
  simp only [openView, hardware_emit, hardware_setWindow, hardware_program, hardware_capture,
    fst_capture]
  rfl

theorem hardware_closeView (s : Saved) :
    (m.closeView s).hardware = m.hardware.closeView s := by
  simp only [closeView, hardware_emit, hardware_restore, hardware_setWindow]
  rfl

theorem hardware_selectPlane (p : Plane) :
    (m.selectPlane p).hardware = m.hardware.selectPlane p := by
  simp only [selectPlane, hardware_writeReg]
  rfl

/-- A bracket does to the hardware what its work does to it inside the view. -/
theorem hardware_edit {body : Machine (Board bus) → Machine (Board bus)}
    (work : Board bus → Board bus) (h : ∀ m, (body m).hardware = work m.hardware) :
    (m.edit v start body).hardware = m.hardware.within v start work := by
  simp only [edit, hardware_closeView, h, hardware_openView, fst_openView]
  rfl

theorem hardware_edit_update (f : Board bus → Board bus) :
    (m.edit v start (·.update f)).hardware = m.hardware.within v start f :=
  m.hardware_edit v start f fun _ => rfl

/-- Editing inside a view leaves every register as it was. -/
theorem sameRegisters_edit {body : Machine (Board bus) → Machine (Board bus)}
    (work : Board bus → Board bus) (h : ∀ m, (body m).hardware = work m.hardware)
    (hwork : ∀ b, Board.Inside b (work b)) :
    m.hardware.SameRegisters [] (m.edit v start body).hardware := by
  rw [m.hardware_edit v start work h]
  exact Board.sameRegisters_within (hwork _)

theorem fst_inspect_query {α : Type} (look : Board bus → α × Board bus) :
    (m.inspect v start (·.query look)).1 = (look (m.hardware.openView v start)).1 := by
  simp only [inspect, fst_query, hardware_openView]

theorem hardware_inspect_query {α : Type} (look : Board bus → α × Board bus) :
    (m.inspect v start (·.query look)).2.hardware =
      m.hardware.within v start fun b => (look b).2 := by
  simp only [inspect, hardware_closeView, hardware_query, hardware_openView, fst_openView]
  rfl

end Machine

end VgaFirmware
