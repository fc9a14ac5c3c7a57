import VgaFirmware.Proofs.FontPlane
import VgaFirmware.Proofs.RegisterProgram

/-!
# The adapter after power-on

Power-on settles what the adapter shows, whatever its registers, streams and planes held before:
bringing it up settles the write path, the shape of the cursor and the colours
(`broughtUp_bringUp`), and setting the initial mode all the rest (`canonical_setMode`). So two
adapters agree after the same power-on (`powerOn_sameDisplay`).
-/

namespace VgaFirmware

theorem Word.ofBytes_inj {l h l' h' : UInt8} : ofBytes l h = ofBytes l' h' ↔ l = l' ∧ h = h' := by
  constructor
  · intro e
    have hlow := congrArg low e
    have hhigh := congrArg high e
    rw [low_ofBytes, low_ofBytes] at hlow
    rw [high_ofBytes, high_ofBytes] at hhigh
    exact ⟨hlow, hhigh⟩
  · rintro ⟨rfl, rfl⟩
    rfl

variable {bus : BusWidth}

/-! ## Settled boards -/

namespace Board

/-- What bringing a board up settles. -/
structure BroughtUp (settings : Settings) (b : Board bus) : Prop where
  plain : b.Plain
  unprotected : b.adapter.Unprotected
  miscOutput : b.adapter.miscOutput = settings.crtc.miscOutput
  lineHeight : b.adapter.crtc.read 0x09 = 0x07
  cursorFirst : b.adapter.crtc.read 0x0A = settings.cursorShape.first
  cursorLast : b.adapter.crtc.read 0x0B = settings.cursorShape.last &&& 0x1F
  attributes : ∀ i : UInt8, i.toNat ≤ 0x10 →
    b.adapter.attributes.read i = if i = 0x10 then 0x08 else i
  colours : ∀ i : UInt8, i.toNat < 16 →
    Palette.initial[i.toNat]? = some (b.adapter.dac.entry i)

/-- What setting a mode settles on a board that was brought up, if it blanks the planes. -/
structure Canonical (settings : Settings) (spec : ModeSpec) (d : Screen) (b : Board bus) : Prop
    extends b.BroughtUp settings where
  registers : b.InMode spec
  startAddress : b.adapter.startAddress = 0
  cursorLocation : spec.isText = true → b.adapter.cursorLocation = d.cellIndex (d.cursor .first)
  planes : ∀ p o, b.adapter.planes.get p o =
    if p = .glyphs ∧ settings.reloadFont = true ∧ spec.isText = true then Font.image o else 0

variable {settings : Settings} {b c : Board bus}

theorem BroughtUp.of_same {moved : List UInt8} (h : b.BroughtUp settings)
    (hregs : SameRegisters moved b c) (hmoved : ∀ i ∈ [0x09, 0x0A, 0x0B, 0x11], i ∉ moved)
    (hmisc : c.adapter.miscOutput = b.adapter.miscOutput)
    (hattributes : c.adapter.attributes = b.adapter.attributes)
    (hdac : c.adapter.dac = b.adapter.dac) : c.BroughtUp settings where
  plain := hregs.plain h.plain
  unprotected := hregs.unprotected (hmoved _ (by decide)) h.unprotected
  miscOutput := hmisc.trans h.miscOutput
  lineHeight := (hregs.crtc _ (hmoved _ (by decide))).trans h.lineHeight
  cursorFirst := (hregs.crtc _ (hmoved _ (by decide))).trans h.cursorFirst
  cursorLast := (hregs.crtc _ (hmoved _ (by decide))).trans h.cursorLast
  attributes := hattributes ▸ h.attributes
  colours := hdac ▸ h.colours

theorem BroughtUp.setMode (h : b.BroughtUp settings) (spec : ModeSpec) :
    (b.updateAdapter (·.setMode spec)).BroughtUp settings where
  plain := h.plain.setMode spec
  unprotected := by
    rw [Adapter.Unprotected, adapter_updateAdapter,
      b.adapter.crtc_setMode_read spec (by decide)]
    exact h.unprotected
  miscOutput := h.miscOutput
  lineHeight := (b.adapter.crtc_setMode_read spec (by decide)).trans h.lineHeight
  cursorFirst := (b.adapter.crtc_setMode_read spec (by decide)).trans h.cursorFirst
  cursorLast := (b.adapter.crtc_setMode_read spec (by decide)).trans h.cursorLast
  attributes := h.attributes
  colours := h.colours

end Board

/-- Bringing a board up settles all of this, whatever the board held before. -/
theorem Machine.broughtUp_bringUp (m : Machine (Board bus)) (h : m.hardware.adapter.Unprotected)
    (settings : Settings) : (m.bringUp settings).hardware.BroughtUp settings := by
  have hcontrols := m.sameControls_bringUp h settings
  refine ⟨m.plain_bringUp settings, m.unprotected_bringUp h settings, hcontrols.miscOutput, ?_, ?_,
    ?_, fun i hi => ?_, fun i hi => ?_⟩
  · rw [hcontrols.crtc]
    simp [Adapter.powerUp, Settings.shapeWrites, RegisterBank.program, RegisterBank.read_write]
  · rw [hcontrols.crtc]
    simp [Adapter.powerUp, Settings.shapeWrites, RegisterBank.program, RegisterBank.read_write]
  · rw [hcontrols.crtc]
    simp [Adapter.powerUp, Settings.shapeWrites, RegisterBank.program]
  · rw [hcontrols.attributes]
    exact AttributeController.read_passThrough _ hi
  · simp only [hcontrols.dac, Board.adapter_updateAdapter, Adapter.powerUp]
    exact Dac.palette_loadPalette _ hi

namespace Service

variable {s : Service (Board bus)} {mode : UInt8} {spec : ModeSpec}

theorem cursorLocation_setMode (h : s.machine.hardware.adapter.Unprotected)
    (hspec : ModeSpec.lookup mode = .ok spec) (htext : spec.isText = true) :
    (s.setMode mode).2.machine.hardware.adapter.cursorLocation =
      (s.screen.enter spec).cellIndex ((s.screen.enter spec).cursor .first) := by
  have hfree := s.machine.unprotected_activate h s.settings spec
  simp only [setMode, hspec, if_pos htext]
  exact (s.machine.activate s.settings spec).cursorLocation_setCursorLocation _ hfree _

/-- On a board that was brought up, setting a mode settles the rest. -/
theorem canonical_setMode (h : s.machine.hardware.BroughtUp s.settings)
    (hspec : ModeSpec.lookup mode = .ok spec) (hclear : s.settings.clearPlanes = true) :
    (s.setMode mode).2.machine.hardware.Canonical s.settings spec (s.screen.enter spec) := by
  let b := s.machine.hardware.updateAdapter (·.setMode spec)
  obtain ⟨hcursor, hmemory⟩ := s.hardware_setMode hspec
  have hactivate := s.machine.sameRegisters_activate s.settings spec
  rw [s.machine.hardware_programMode h.unprotected] at hactivate
  have hregs : b.SameRegisters [0x0E, 0x0F] (s.setMode mode).2.machine.hardware :=
    (hactivate.mono (List.nil_subset _)).trans hcursor
  have hcontrols := s.sameControls_setMode h.unprotected hspec
  refine ⟨(h.setMode spec).of_same hregs (by simp) hcontrols.miscOutput hcontrols.attributes
    hcontrols.dac, ?_, ?_, cursorLocation_setMode h.unprotected hspec, fun p o => ?_⟩
  · exact hregs.inMode (s.machine.hardware.inMode_setMode spec) (by decide) (by decide)
  · exact (hregs.startAddress (by decide) (by decide)).trans
      (s.machine.hardware.adapter.startAddress_setMode spec)
  · rw [hmemory.planes, Machine.get_activate_of_clear hclear h.plain.passes]

/-- After power-on the board is settled, whatever it held before. -/
theorem canonical_powerOn (s : Service (Board bus)) (h : s.machine.hardware.adapter.Unprotected)
    (hspec : ModeSpec.lookup s.settings.initialMode = .ok spec)
    (hclear : s.settings.clearPlanes = true) :
    s.powerOn.2.machine.hardware.Canonical s.settings spec (s.screen.enter spec) := by
  have hbrought : (s.update (·.bringUp s.settings)).machine.hardware.BroughtUp
      (s.update (·.bringUp s.settings)).settings := by
    rw [machine_update, settings_update]
    exact s.machine.broughtUp_bringUp h s.settings
  have hset := canonical_setMode (s := s.update (·.bringUp s.settings)) hbrought hspec hclear
  rw [settings_update, screen_update] at hset
  rw [s.powerOn_eq hspec]
  exact hset

end Service

/-! ## Agreement -/

/-- The adapters agree on what power-on settles. -/
structure Adapter.SameDisplay (spec : ModeSpec) (a b : Adapter) : Prop where
  miscOutput : b.miscOutput = a.miscOutput
  sequencer : ∀ i ∈ [2, 4], b.sequencer.read i = a.sequencer.read i
  graphics : ∀ i ∈ [0, 1, 3, 5, 6, 8], b.graphics.read i = a.graphics.read i
  crtc : ∀ i ∈ [0x01, 0x09, 0x0A, 0x0B, 0x0C, 0x0D, 0x12], b.crtc.read i = a.crtc.read i
  cursor : spec.isText = true → ∀ i ∈ [0x0E, 0x0F], b.crtc.read i = a.crtc.read i
  attributes : ∀ i : UInt8, i.toNat ≤ 0x10 → b.attributes.read i = a.attributes.read i
  dac : ∀ i : UInt8, i.toNat < 16 → b.dac.entry i = a.dac.entry i
  planes : b.planes = a.planes

/-- Boards that are settled in the same way agree. -/
theorem Board.Canonical.sameDisplay {settings : Settings} {spec : ModeSpec} {d : Screen}
    {b c : Board bus} (h : b.Canonical settings spec d) (g : c.Canonical settings spec d) :
    Adapter.SameDisplay spec b.adapter c.adapter where
  miscOutput := g.miscOutput.trans h.miscOutput.symm
  sequencer i hi := by
    simp only [List.mem_cons, List.not_mem_nil, or_false] at hi
    rcases hi with rfl | rfl
    · exact g.registers.mapMask.trans h.registers.mapMask.symm
    · exact g.registers.memoryMode.trans h.registers.memoryMode.symm
  graphics i hi := by
    simp only [List.mem_cons, List.not_mem_nil, or_false] at hi
    rcases hi with rfl | rfl | rfl | rfl | rfl | rfl
    · exact g.plain.setReset.trans h.plain.setReset.symm
    · exact g.plain.enableSetReset.trans h.plain.enableSetReset.symm
    · exact g.plain.rotate.trans h.plain.rotate.symm
    · exact g.registers.graphicsMode.trans h.registers.graphicsMode.symm
    · exact g.registers.graphicsMisc.trans h.registers.graphicsMisc.symm
    · exact g.plain.bitMask.trans h.plain.bitMask.symm
  crtc i hi := by
    have hstart := Word.ofBytes_inj.mp (g.startAddress.trans h.startAddress.symm)
    simp only [List.mem_cons, List.not_mem_nil, or_false] at hi
    rcases hi with rfl | rfl | rfl | rfl | rfl | rfl | rfl
    · exact g.registers.columns.trans h.registers.columns.symm
    · exact g.lineHeight.trans h.lineHeight.symm
    · exact g.cursorFirst.trans h.cursorFirst.symm
    · exact g.cursorLast.trans h.cursorLast.symm
    · exact hstart.2
    · exact hstart.1
    · exact g.registers.rows.trans h.registers.rows.symm
  cursor htext i hi := by
    have hcursor :=
      Word.ofBytes_inj.mp ((g.cursorLocation htext).trans (h.cursorLocation htext).symm)
    simp only [List.mem_cons, List.not_mem_nil, or_false] at hi
    rcases hi with rfl | rfl
    · exact hcursor.2
    · exact hcursor.1
  attributes i hi := (g.attributes i hi).trans (h.attributes i hi).symm
  dac i hi := Option.some.inj ((g.colours i hi).symm.trans (h.colours i hi))
  planes := PlaneMemory.ext fun p o => (g.planes p o).trans (h.planes p o).symm

namespace Service

/-- Power-on makes all adapters alike. Where it blanks the planes, and unless the first timing
registers are protected, it succeeds on any two boards with the same screen, and the adapters agree
on all that shows; colours pass the attribute controller unchanged and are those of the palette. -/
theorem powerOn_sameDisplay {settings : Settings} {spec : ModeSpec}
    (hspec : ModeSpec.lookup settings.initialMode = .ok spec)
    (hclear : settings.clearPlanes = true) {b c : Board bus} (hb : b.adapter.Unprotected)
    (hc : c.adapter.Unprotected) :
    let s := (start settings b).powerOn
    let t := (start settings c).powerOn
    let a := s.2.machine.hardware.adapter
    s.1 = .ok () ∧ t.1 = .ok () ∧ t.2.screen = s.2.screen ∧
      a.SameDisplay spec t.2.machine.hardware.adapter ∧
      (∀ i : UInt8, i.toNat < 16 → a.attributes.read i = i) ∧ a.attributes.read 0x10 = 0x08 ∧
      ∀ i : UInt8, i.toNat < 16 → Palette.initial[i.toNat]? = some (a.dac.entry i) := by
  intro s t a
  have hs := (start settings b).canonical_powerOn hb hspec hclear
  have ht := (start settings c).canonical_powerOn hc hspec hclear
  have hok (b : Board bus) : (start settings b).powerOn.1 = .ok () := by
    rw [(start settings b).powerOn_eq hspec]
  have hscreen (b : Board bus) : (start settings b).powerOn.2.screen = Screen.initial.enter spec :=
    (start settings b).screen_powerOn hspec
  refine ⟨hok b, hok c, (hscreen c).trans (hscreen b).symm, hs.sameDisplay ht, fun i hi => ?_,
    (hs.attributes 0x10 (by decide)).trans (if_pos rfl), hs.colours⟩
  refine (hs.attributes i (by omega)).trans (if_neg ?_)
  rintro rfl
  exact absurd hi (by decide)

/-- A fresh adapter, and one left in the middle of an attribute and of a colour, writing its
latches through a narrow mask. -/
theorem powerOn_sameDisplay_interrupted :
    let a : Adapter :=
      { Adapter.powerOn with
        graphics := ((RegisterBank.blank 9).write 5 0x01).write 8 0x0F
        attributes := ⟨0x05, true, Vector.replicate 21 0x3F⟩
        dac := { Dac.blank with writeIndex := 0x07, writePhase := .blue, pending := ⟨1, 2, 3⟩ }
        planes := PlaneMemory.blank.set .glyphs 7 0x55 }
    let s := (start .standard (Board.powerOn .word)).powerOn
    let t := (start .standard (⟨0, .blank, a⟩ : Board .word)).powerOn
    ModeSpec.lookup Settings.standard.initialMode = .ok (.text 0x01 .narrow 0x0800) ∧
      Settings.standard.clearPlanes = true ∧ Adapter.powerOn.Unprotected ∧ a.Unprotected ∧
      t.1 = .ok () ∧ t.2.screen = s.2.screen ∧
      t.2.machine.hardware.adapter.planes = s.2.machine.hardware.adapter.planes := by
  intro a
  have hspec : ModeSpec.lookup Settings.standard.initialMode =
      .ok (.text 0x01 .narrow 0x0800) := rfl
  have hfresh : Adapter.powerOn.Unprotected := by decide
  have ha : a.Unprotected := hfresh
  obtain ⟨-, hok, hscreen, hdisplay, -⟩ :=
    powerOn_sameDisplay hspec rfl (b := Board.powerOn .word) (c := ⟨0, .blank, a⟩) hfresh ha
  exact ⟨hspec, rfl, hfresh, ha, hok, hscreen, hdisplay.planes⟩

end Service

end VgaFirmware
