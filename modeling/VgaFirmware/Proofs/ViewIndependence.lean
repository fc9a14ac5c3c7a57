import VgaFirmware.Proofs.Controls
import VgaFirmware.Proofs.LikeServices
import VgaFirmware.Proofs.RecordedCalls
import VgaFirmware.Proofs.Upkeep

/-!
# Transfers and the caller's view

A caller may have left the view registers in any state: planes masked off, chained or odd/even
addressing, any read and write mode, any aperture. A view sets all of them, so that boards which
differ in nothing else do the same while it is open (`SameInView`), and closing it puts back what
each caller had. So no request that leaves the mode as it is depends on the caller's view
(`perform_sameButView`).
-/

namespace VgaFirmware

variable {bus : BusWidth}

/-! ## Host accesses -/

namespace Adapter

/-- Host addresses are decoded in the same way, and bytes go through the same datapath. -/
structure SameDecoding (a a' : Adapter) : Prop where
  mapMask : a'.mapMask = a.mapMask
  memoryMode : a'.memoryMode = a.memoryMode
  graphics : ∀ i, i ≠ 6 → a'.graphics.read i = a.graphics.read i
  aperture : a'.graphicsMisc.aperture = a.graphicsMisc.aperture

namespace SameDecoding

variable {a a' : Adapter}

theorem graphicsMode (h : SameDecoding a a') : a'.graphicsMode = a.graphicsMode :=
  congrArg GraphicsMode.mk (h.graphics 5 (by decide))

theorem target (h : SameDecoding a a') (address : Nat) : a'.target address = a.target address := by
  rw [Adapter.target, Adapter.addressing, h.memoryMode, h.graphicsMode, h.aperture]
  rfl

theorem writeControl (h : SameDecoding a a') : a'.writeControl = a.writeControl := by
  have h₀ := h.graphics 0 (by decide)
  have h₁ := h.graphics 1 (by decide)
  have h₃ := h.graphics 3 (by decide)
  have h₈ := h.graphics 8 (by decide)
  simp only [Adapter.writeControl, h.graphicsMode, h₀, h₁, h₃, h₈]

/-- From the same planes the host reads the same. -/
theorem fst_hostRead (h : SameDecoding a a') (hplanes : a'.planes = a.planes) (address : Nat) :
    (a'.hostRead address).1 = (a.hostRead address).1 := by
  have h₂ := h.graphics 2 (by decide)
  have h₄ := h.graphics 4 (by decide)
  have h₇ := h.graphics 7 (by decide)
  simp only [hostRead, h.target]
  split
  · rw [hplanes]
  · simp only [readColumn, h.graphicsMode, hplanes, h₂, h₄, h₇]
  · rfl

/-- Unless a write mode brings the latches in, a host write has the same effect on the planes. -/
theorem planes_hostWrite (h : SameDecoding a a') (hplanes : a'.planes = a.planes)
    (hmode : a.writeControl.mode ≠ .latched) (address : Nat) (x : UInt8) :
    (a'.hostWrite address x).planes = (a.hostWrite address x).planes := by
  simp only [hostWrite, h.target]
  split
  · rw [h.mapMask]
    split <;> simp only [hplanes]
  · simp only [writeColumn, h.writeControl, h.mapMask, if_neg hmode, hplanes]
  · exact hplanes

end SameDecoding

end Adapter

/-- Inside a view the registers that the view depends on are those of the view, but for settings
of the graphics controller that no access depends on. -/
theorem View.registers_congr (v : View) (misc misc' : GraphicsMisc) :
    (v.registers misc').mapMask = (v.registers misc).mapMask ∧
      (v.registers misc').memoryMode = (v.registers misc).memoryMode ∧
      (v.registers misc').readMap = (v.registers misc).readMap ∧
      (v.registers misc').graphicsMode = (v.registers misc).graphicsMode ∧
      GraphicsMisc.aperture ⟨(v.registers misc').graphicsMisc⟩ =
        GraphicsMisc.aperture ⟨(v.registers misc).graphicsMisc⟩ := by
  cases v with
  | cells =>
    exact ⟨rfl, rfl, rfl, rfl, (GraphicsMisc.aperture_withAperture _ _).trans
      (GraphicsMisc.aperture_withAperture _ _).symm⟩
  | planes write read =>
    exact ⟨rfl, rfl, rfl, rfl, (GraphicsMisc.aperture_withAperture _ _).trans
      (GraphicsMisc.aperture_withAperture _ _).symm⟩

namespace Board

variable {b c b' c' : Board bus} {v : View} {start : UInt16}

/-- A view sends host bytes to the planes. -/
theorem Viewing.mode_ne_latched (h : b.Viewing v start) :
    b.adapter.writeControl.mode ≠ .latched := by
  obtain ⟨misc, hmisc⟩ := h.registers
  have hmode : b.adapter.graphics.read 5 = (v.registers misc).graphicsMode :=
    congrArg ViewRegisters.graphicsMode hmisc
  simp only [Adapter.writeControl, Adapter.graphicsMode, hmode]
  cases v <;> simp only [View.registers] <;> decide

/-- Where the same view is open, the same addresses reach the same bytes. -/
theorem Viewing.sameDecoding (hb : b.Viewing v start) (hc : c.Viewing v start)
    (h : BesideViews b c) : Adapter.SameDecoding b.adapter c.adapter := by
  obtain ⟨misc, hb⟩ := hb.registers
  obtain ⟨misc', hc⟩ := hc.registers
  obtain ⟨hmask, hmode, hmap, hgraphics, haperture⟩ := v.registers_congr misc misc'
  simp only [← hb, ← hc, Adapter.viewRegisters] at hmask hmode hmap hgraphics haperture
  refine ⟨congrArg PlaneSet.ofByte hmask, congrArg MemoryMode.mk hmode, fun i h₆ => ?_, haperture⟩
  by_cases h₄ : i = 4
  · rw [h₄]
    exact hmap
  · by_cases h₅ : i = 5
    · rw [h₅]
      exact hgraphics
    · exact h.inside.graphics i h₄ h₅ h₆

/-! ## Boards -/

/-- Boards that differ at most in the view registers, in the indices of their banks, and in the
latches. -/
structure SameButView (b c : Board bus) : Prop where
  window : c.window = b.window
  beside : BesideViews b c
  memory : SameMemory b c

/-- Such boards while the same view is open on both. -/
structure SameInView (v : View) (start : UInt16) (b c : Board bus) : Prop where
  first : b.Viewing v start
  second : c.Viewing v start
  beside : BesideViews b c
  memory : SameMemory b c

theorem BesideViews.selectIndexed (h : BesideViews b c) (i : UInt8) (k : Controller) :
    BesideViews (b.updateAdapter (·.selectIndexed i k))
      (c.updateAdapter (·.selectIndexed i k)) := by
  have hinside : Inside (b.updateAdapter (·.selectIndexed i k))
      (c.updateAdapter (·.selectIndexed i k)) := by
    cases k <;> exact ⟨h.inside.sequencer, h.inside.graphics, h.inside.crtc⟩
  cases k with
  | sequencer | graphics => exact ⟨hinside, h.miscOutput, h.crtc, h.attributes, h.dac⟩
  | crtc base =>
    exact ⟨hinside, h.miscOutput, congrArg (·.select i) h.crtc, h.attributes, h.dac⟩

theorem BesideViews.writeIndexed (h : BesideViews b c) (i x : UInt8) (k : Controller) :
    BesideViews (b.updateAdapter (·.writeIndexed i x k))
      (c.updateAdapter (·.writeIndexed i x k)) := by
  cases k with
  | sequencer =>
    refine ⟨⟨fun j h₂ h₄ => ?_, h.inside.graphics, h.inside.crtc⟩, h.miscOutput, h.crtc,
      h.attributes, h.dac⟩
    simp only [adapter_updateAdapter, Adapter.writeIndexed_sequencer, RegisterBank.read_select,
      RegisterBank.read_write, h.inside.sequencer j h₂ h₄]
  | graphics =>
    refine ⟨⟨h.inside.sequencer, fun j h₄ h₅ h₆ => ?_, h.inside.crtc⟩, h.miscOutput, h.crtc,
      h.attributes, h.dac⟩
    simp only [adapter_updateAdapter, Adapter.writeIndexed_graphics, RegisterBank.read_select,
      RegisterBank.read_write, h.inside.graphics j h₄ h₅ h₆]
  | crtc base =>
    have hcrtc := Adapter.crtc_writeIndexed_congr h.crtc i x (.crtc base)
    simp only [updateAdapter]
    rw [b.adapter.writeIndexed_crtc_eq, c.adapter.writeIndexed_crtc_eq, hcrtc]
    exact ⟨⟨h.inside.sequencer, h.inside.graphics, fun _ => rfl⟩, h.miscOutput, rfl, h.attributes,
      h.dac⟩

namespace SameInView

/-- Work on memory inside the view, that leaves the same behind on both. -/
theorem congr (h : SameInView v start b c) (hb : SameControls b b') (hc : SameControls c c')
    (hmemory : SameMemory b' c') : SameInView v start b' c' where
  first := hb.sameRegisters.viewing h.first
  second := hc.sameRegisters.viewing h.second
  beside := (hb.besideViews.symm.trans h.beside).trans hc.besideViews
  memory := hmemory

theorem sameDecoding (h : SameInView v start b c) :
    Adapter.SameDecoding b.adapter c.adapter :=
  h.first.sameDecoding h.second h.beside

theorem window (h : SameInView v start b c) : c.window = b.window :=
  h.second.window.trans h.first.window.symm

theorem read (h : SameInView v start b c) (a : Address) :
    (c.read a).1 = (b.read a).1 ∧ SameInView v start (b.read a).2 (c.read a).2 := by
  have hmemory := ((b.sameMemory_read a).symm.trans h.memory).trans (c.sameMemory_read a)
  refine ⟨?_, h.congr (b.sameControls_read a) (c.sameControls_read a) hmemory⟩
  unfold Board.read
  split
  · exact h.sameDecoding.fst_hostRead h.memory.planes a.val
  · exact congrArg (Ram.get · a) h.memory.ram

theorem write (h : SameInView v start b c) (a : Address) (x : UInt8) :
    SameInView v start (b.write a x) (c.write a x) := by
  refine h.congr (b.sameControls_write a x) (c.sameControls_write a x) ?_
  unfold Board.write
  split
  · exact ⟨h.memory.ram,
      h.sameDecoding.planes_hostWrite h.memory.planes h.first.mode_ne_latched a.val x⟩
  · exact ⟨congrArg (Ram.set · a x) h.memory.ram, h.memory.planes⟩

end SameInView

/-- What boards have in common whatever the caller's view. -/
def viewLikeness (bus : BusWidth) : Likeness bus where
  outside := SameButView
  inside := SameInView
  visible a := a.isDisplay = false
  crtc h i := h.beside.inside.crtc i
  selectIndexed {b c} h i k :=
    ⟨h.window, h.beside.selectIndexed i k, ((SameMemory.selectIndexed b i k).symm.trans
      h.memory).trans (.selectIndexed c i k)⟩
  writeIndexed {b c} h i x k :=
    ⟨h.window, h.beside.writeIndexed i x k, ((SameMemory.writeIndexed b i x k).symm.trans
      h.memory).trans (.writeIndexed c i x k)⟩
  recolour h f g :=
    ⟨h.window, ⟨⟨h.beside.inside.sequencer, h.beside.inside.graphics, h.beside.inside.crtc⟩,
      h.beside.miscOutput, h.beside.crtc, congrArg f h.beside.attributes,
      congrArg g h.beside.dac⟩, ⟨h.memory.ram, h.memory.planes⟩⟩
  openView {b c} h v start :=
    ⟨b.viewing_openView v start, c.viewing_openView v start,
      ((b.besideViews_openView v start).symm.trans h.beside).trans (c.besideViews_openView v start),
      ⟨h.memory.ram, h.memory.planes⟩⟩
  closeView {b c b' c' v start} h g :=
    ⟨h.window, ((b'.besideViews_closeView _).symm.trans g.beside).trans
      (c'.besideViews_closeView _), ⟨g.memory.ram, g.memory.planes⟩⟩
  selectPlane {b c p start} h q :=
    ⟨h.first.selectPlane q, h.second.selectPlane q,
      ((b.besideViews_selectPlane q).symm.trans h.beside).trans (c.besideViews_selectPlane q),
      ⟨h.memory.ram, h.memory.planes⟩⟩
  load {b c v start} h off := by
    have hread := h.read (.ofSegment b.window off)
    change (c.read (.ofSegment c.window off)).1 = _ ∧
      SameInView v start _ (c.read (.ofSegment c.window off)).2
    rw [h.window]
    exact hread
  store {b c v start} h off x := by
    have hwrite := h.write (.ofSegment b.window off) x
    change SameInView v start _ (c.write (.ofSegment c.window off) x)
    rw [h.window]
    exact hwrite
  fetch {b c} h a ha := by
    change (c.read (.ofLinear a)).1 = (b.read (.ofLinear a)).1 ∧
      SameButView (b.read (.ofLinear a)).2 (c.read (.ofLinear a)).2
    rw [b.read_memory ha, c.read_memory ha]
    exact ⟨congrArg (Ram.get · _) h.memory.ram, h⟩
  fetchInside h a _ := h.read (.ofLinear a)

end Board

namespace Service

/-- What the view registers hold is kept. -/
theorem kept_viewRegisters (r : ViewRegisters) :
    Kept fun s : Service (Board bus) => s.machine.hardware.adapter.viewRegisters = r where
  quiet h q := q.registers.viewRegisters.trans h
  setCursorPosition {s} page x y h := by
    unfold setCursorPosition
    split
    · exact h
    · simp only
      split
      · exact (s.machine.sameRegisters_writeRegPair _ 0x0E _).viewRegisters.trans h
      · exact h
  setActivePage {s} page h := by
    unfold setActivePage
    split
    · exact h
    · next slot _ =>
      have hstart := s.machine.sameRegisters_writeRegPair s.settings.crtc 0x0C
        (s.screen.pageStart page)
      have hcursor := (s.machine.setStartAddress s.settings.crtc
        (s.screen.pageStart page)).sameRegisters_writeRegPair s.settings.crtc 0x0E
      exact (hcursor _).viewRegisters.trans (hstart.viewRegisters.trans h)

/-- Transfers do not depend on the caller's plane selection. Take two services that differ at most
in the view registers of their boards, in the index registers beside these, and in the latches. A
request that leaves the mode as it is, with any string read from outside the adapter's addresses,
has the same answer on both and leaves the same screen, memory and timing registers, and on each
the view registers are left as they were there. -/
theorem perform_sameButView {s t : Service (Board bus)} (hsettings : t.settings = s.settings)
    (hscreen : t.screen = s.screen)
    (hboard : s.machine.hardware.SameButView t.machine.hardware) {q : Request}
    (hq : q.keepsMode = true) (hscan : ∀ a ∈ s.scannedBy q, a.isDisplay = false) :
    let b := s.machine.hardware
    let c := t.machine.hardware
    let b' := (s.perform q).2.machine.hardware
    let c' := (t.perform q).2.machine.hardware
    (t.perform q).1 = (s.perform q).1 ∧ (t.perform q).2.screen = (s.perform q).2.screen ∧
      c'.adapter.planes = b'.adapter.planes ∧ c'.ram = b'.ram ∧
      c'.adapter.crtc = b'.adapter.crtc ∧
      b'.adapter.viewRegisters = b.adapter.viewRegisters ∧
      c'.adapter.viewRegisters = c.adapter.viewRegisters := by
  intro b c b' c'
  have hlike : s.Like (Board.viewLikeness bus) t := ⟨by rw [hsettings], hscreen, hboard⟩
  obtain ⟨hanswer, hdone⟩ := hlike.perform hq hscan
  have hsame : b'.SameButView c' := hdone.machine
  exact ⟨hanswer, hdone.screen, hsame.memory.planes, hsame.memory.ram, hsame.beside.crtc,
    (kept_viewRegisters _).perform rfl hq, (kept_viewRegisters _).perform rfl hq⟩

/-- A string with its attributes, beside a caller that has chained the planes, masked two of them
and would write the latches. -/
theorem perform_sameButView_chained :
    let a : Adapter :=
      { Adapter.powerOn with
        sequencer := (((RegisterBank.blank 5).write 2 0x05).write 4 0x0E).select 1
        graphics :=
          (((((RegisterBank.blank 9).write 8 0xFF).write 4 0x03).write 5 0x49).write 6
            0x04).select 7
        latches := Vector.replicate 4 0x55 }
    let s : Service (Board .word) := start .standard (Board.powerOn .word)
    let t : Service (Board .word) := start .standard ⟨0, .blank, a⟩
    let q : Request := .writeString ⟨true, true⟩ 0 0x07 3 4
    t.settings = s.settings ∧ t.screen = s.screen ∧
      s.machine.hardware.SameButView t.machine.hardware ∧ q.keepsMode = true ∧
      (∀ a ∈ s.scannedBy q, a.isDisplay = false) ∧
      (t.perform q).1 = (s.perform q).1 ∧
      (t.perform q).2.machine.hardware.adapter.planes =
        (s.perform q).2.machine.hardware.adapter.planes ∧
      (t.perform q).2.machine.hardware.adapter.viewRegisters = ⟨0x05, 0x0E, 0x03, 0x49, 0x04⟩ := by
  intro a s t q
  have hsequencer (i : UInt8) (h₂ : i ≠ 2) (h₄ : i ≠ 4) :
      a.sequencer.read i = Adapter.powerOn.sequencer.read i := by
    simp [a, Adapter.powerOn, RegisterBank.read_write, h₂, h₄]
  have hgraphics (i : UInt8) (h₄ : i ≠ 4) (h₅ : i ≠ 5) (h₆ : i ≠ 6) :
      a.graphics.read i = Adapter.powerOn.graphics.read i := by
    simp [a, Adapter.powerOn, RegisterBank.read_write, h₄, h₅, h₆]
  have hboard : s.machine.hardware.SameButView t.machine.hardware :=
    ⟨rfl, ⟨⟨hsequencer, hgraphics, fun _ => rfl⟩, rfl, rfl, rfl, rfl⟩, ⟨rfl, rfl⟩⟩
  have hscan (x : Address) (hx : x ∈ s.scannedBy q) : x.isDisplay = false :=
    Backend.isDisplay_of_scanned_low (by decide) hx
  obtain ⟨hanswer, -, hplanes, -, -, -, hview⟩ :=
    perform_sameButView (s := s) (t := t) rfl rfl hboard (q := q) rfl hscan
  exact ⟨rfl, rfl, hboard, rfl, hscan, hanswer, hplanes, hview.trans (by decide)⟩

end Service

end VgaFirmware
