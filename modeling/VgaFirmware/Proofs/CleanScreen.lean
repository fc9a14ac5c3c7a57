import VgaFirmware.Proofs.PlaneFill
import VgaFirmware.Proofs.Reachable

/-!
# A clean screen

What setting a mode leaves in display memory and in the timing registers, from any state of the
adapter. Planes are blanked and glyphs are loaded through the write path as it was left
(`get_clearPlanes`, `get_loadFont`), and the width reaches its register unless that is protected
(`read_columns_programMode`). `setMode_clean_iff` says which left-over registers give a clean
screen whatever the planes held.
-/

namespace VgaFirmware

variable {bus : BusWidth}

namespace Adapter

theorem writePath_writeIndexed (a : Adapter) {i : UInt8} (v : UInt8) {c : Controller}
    (h : c = .graphics → i ∉ [0, 1, 3, 8]) : (a.writeIndexed i v c).writePath = a.writePath := by
  cases c with
  | sequencer => rfl
  | graphics =>
    have hi := h rfl
    simp only [List.mem_cons, List.not_mem_nil, or_false, not_or] at hi
    obtain ⟨h₀, h₁, h₃, h₈⟩ := hi
    have hread {j : UInt8} (hj : j ≠ i) : (a.writeIndexed i v .graphics).graphics.read j =
      a.graphics.read j := a.graphics.read_write_of_ne v hj
    simp only [writePath, writeControl, hread (Ne.symm h₀), hread (Ne.symm h₁),
      hread (Ne.symm h₃), hread (Ne.symm h₈)]
  | crtc base => rw [writeIndexed, writeCrtc_eq]; rfl

instance (a : Adapter) : Decidable a.Unprotected := inferInstanceAs (Decidable (_ = _))

/-- A timing register takes a value unless it is one of those that are protected. -/
theorem read_writeCrtc_index (a : Adapter) (v : UInt8) (hindex : a.crtc.index.toNat < 25) :
    (a.writeCrtc v).crtc.read a.crtc.index =
      if a.crtc.index.toNat ≤ 7 ∧ ¬ a.Unprotected then a.crtc.read a.crtc.index else v := by
  unfold writeCrtc Unprotected
  split
  · rfl
  · rw [RegisterBank.read_write_self, if_pos hindex]

theorem read_writeIndexed_crtc (a : Adapter) (base : CrtcBase) {i : UInt8} (hi : i.toNat < 25)
    (v : UInt8) :
    (a.writeIndexed i v (.crtc base)).crtc.read i =
      if i.toNat ≤ 7 ∧ ¬ a.Unprotected then a.crtc.read i else v :=
  read_writeCrtc_index { a with crtc := a.crtc.select i } v hi

theorem read_writeIndexed_crtc_of_ne (a : Adapter) (base : CrtcBase) {i j : UInt8} (v : UInt8)
    (h : j ≠ i) : (a.writeIndexed i v (.crtc base)).crtc.read j = a.crtc.read j :=
  read_writeCrtc_of_ne { a with crtc := a.crtc.select i } v h

end Adapter

namespace Machine

variable (m : Machine (Board bus))

/-! ## Registers of the mode -/

theorem planes_programMode (base : CrtcBase) (spec : ModeSpec) :
    (m.programMode base spec).hardware.adapter.planes = m.hardware.adapter.planes := by
  cases hmap : spec.characterMap <;> simp [programMode, hmap, hardware_writeReg]

theorem writePath_programMode (base : CrtcBase) (spec : ModeSpec) :
    (m.programMode base spec).hardware.adapter.writePath = m.hardware.adapter.writePath := by
  cases hmap : spec.characterMap <;>
    simp [programMode, hmap, hardware_writeReg, Adapter.writePath_writeIndexed]

theorem crtc_programMode (base : CrtcBase) (spec : ModeSpec) :
    ∃ a : Adapter, a.crtc = m.hardware.adapter.crtc ∧
      (m.programMode base spec).hardware.adapter =
        (((a.writeIndexed 0x01 spec.columns (.crtc base)).writeIndexed 0x12 spec.rows
          (.crtc base)).writeIndexed 0x0C 0 (.crtc base)).writeIndexed 0x0D 0 (.crtc base) := by
  cases hmap : spec.characterMap with
  | none =>
    simp only [programMode, hmap, hardware_writeReg, Board.adapter_updateAdapter]
    refine ⟨_, ?_, rfl⟩
    rfl
  | some map =>
    simp only [programMode, hmap, hardware_writeReg, Board.adapter_updateAdapter]
    refine ⟨_, ?_, rfl⟩
    rfl

theorem read_rows_programMode (base : CrtcBase) (spec : ModeSpec) :
    (m.programMode base spec).hardware.adapter.crtc.read 0x12 = spec.rows := by
  obtain ⟨a, -, ha⟩ := m.crtc_programMode base spec
  rw [ha, Adapter.read_writeIndexed_crtc_of_ne _ _ _ (by decide),
    Adapter.read_writeIndexed_crtc_of_ne _ _ _ (by decide),
    Adapter.read_writeIndexed_crtc _ _ (by decide), if_neg (fun h => absurd h.1 (by decide))]

/-- The width is one of the registers that can be protected. -/
theorem read_columns_programMode (base : CrtcBase) (spec : ModeSpec) :
    (m.programMode base spec).hardware.adapter.crtc.read 0x01 =
      if m.hardware.adapter.Unprotected then spec.columns
      else m.hardware.adapter.crtc.read 0x01 := by
  obtain ⟨a, hcrtc, ha⟩ := m.crtc_programMode base spec
  have hprotect : a.Unprotected ↔ m.hardware.adapter.Unprotected := by
    rw [Adapter.Unprotected, hcrtc, Adapter.Unprotected]
  rw [ha, Adapter.read_writeIndexed_crtc_of_ne _ _ _ (by decide),
    Adapter.read_writeIndexed_crtc_of_ne _ _ _ (by decide),
    Adapter.read_writeIndexed_crtc_of_ne _ _ _ (by decide),
    Adapter.read_writeIndexed_crtc _ _ (by decide), ← hcrtc]
  by_cases h : a.Unprotected
  · rw [if_neg fun g => g.2 h, if_pos (hprotect.mp h)]
  · rw [if_pos ⟨by decide, h⟩, if_neg fun g => h (hprotect.mpr g)]

/-! ## Planes -/

/-- The planes after work in a view are those that the work leaves there. -/
theorem planes_edit_update (v : View) (start : UInt16) (f : Board bus → Board bus) :
    (m.edit v start (·.update f)).hardware.adapter.planes =
      (f (m.hardware.openView v start)).adapter.planes := by
  rw [hardware_edit_update]
  exact (Board.sameMemory_within _ _ _ f).planes

theorem get_clearPlanes (p : Plane) (o : UInt16) :
    m.clearPlanes.hardware.adapter.planes.get p o =
      m.hardware.adapter.writePath.result 0 p (m.hardware.adapter.planes.get p o) := by
  have hfill {count : Nat} (hcount : count ≤ 65536) (ho : o.toNat < count) :
      (m.edit (.planes .all 0) 0
        (·.update (Backend.fill · 0 0 count))).hardware.adapter.planes.get p o =
        m.hardware.adapter.writePath.result 0 p (m.hardware.adapter.planes.get p o) := by
    have hview := m.hardware.viewing_openView (.planes .all 0) 0
    have hreached : (o - (Board.planeBase 0 + 0)).toNat < count ∧ MapMask.all.has p = true := by
      refine ⟨?_, MapMask.has_all p⟩
      have hbase : o - (Board.planeBase 0 + 0) = o := by simp [Board.planeBase]
      rw [hbase]
      exact ho
    rw [planes_edit_update, hview.get_fill 0 0 hcount p o, if_pos hreached,
      (m.hardware.inside_openView _ _).writePath, (m.hardware.sameMemory_openView _ _).planes]
  exact hfill (Nat.le_refl 65536) o.toNat_lt

theorem get_loadFont (p : Plane) (o : UInt16) :
    m.loadFont.hardware.adapter.planes.get p o =
      if p = .glyphs ∧ o.toNat / Font.stride < Font.count ∧ o.toNat % Font.stride < Font.height then
        m.hardware.adapter.writePath.result
          (Font.line (o.toNat / Font.stride) (o.toNat % Font.stride)) p
            (m.hardware.adapter.planes.get p o)
      else m.hardware.adapter.planes.get p o := by
  have hview := m.hardware.viewing_openView (.plane .glyphs) 0
  have hreached : (o.toNat / Font.stride < Font.count ∧ o.toNat % Font.stride < Font.height ∧
      (MapMask.single .glyphs).has p = true) ↔
        p = .glyphs ∧ o.toNat / Font.stride < Font.count ∧ o.toNat % Font.stride < Font.height := by
    rw [MapMask.has_single, decide_eq_true_iff]
    constructor
    · rintro ⟨hglyph, hrow, hp⟩
      exact ⟨hp, hglyph, hrow⟩
    · rintro ⟨hp, hglyph, hrow⟩
      exact ⟨hglyph, hrow, hp⟩
  rw [loadFont, planes_edit_update, Board.fontStore_eq, hview.get_storeGlyphs (Nat.le_refl _),
    (m.hardware.inside_openView _ _).writePath, (m.hardware.sameMemory_openView _ _).planes]
  simp only [hreached]

/-- Setting a mode sends a zero to every byte, and the lines of the glyphs after it. -/
theorem get_activate {settings : Settings} (hclear : settings.clearPlanes = true)
    (hfont : settings.reloadFont = true) (spec : ModeSpec) (p : Plane) (o : UInt16) :
    let path := m.hardware.adapter.writePath
    let blanked := path.result 0 p (m.hardware.adapter.planes.get p o)
    (m.activate settings spec).hardware.adapter.planes.get p o =
      if spec.isText = true ∧ p = .glyphs ∧ o.toNat / Font.stride < Font.count ∧
          o.toNat % Font.stride < Font.height then
        path.result (Font.line (o.toNat / Font.stride) (o.toNat % Font.stride)) p blanked
      else blanked := by
  have hpath := m.writePath_programMode settings.crtc spec
  have hplanes := m.planes_programMode settings.crtc spec
  have hblanked := (m.programMode settings.crtc spec).get_clearPlanes p o
  have hkept := (sameRegisters_clearPlanes (m.programMode settings.crtc spec)).inside.writePath
  rw [hpath, hplanes] at hblanked
  simp only [activate, hclear, hfont, if_true, Bool.and_true]
  by_cases htext : spec.isText = true
  · rw [if_pos htext, get_loadFont, hkept, hpath, hblanked]
    simp only [htext, true_and]
  · rw [if_neg htext, hblanked, if_neg fun h => htext h.1]

/-- The machine with other bytes in the planes. -/
def withPlanes (planes : PlaneMemory) : Machine (Board bus) :=
  m.update (·.updateAdapter ({ · with planes := planes }))

end Machine

/-! ## Clean planes -/

/-- A plane as a mode wants it: the glyphs in the font plane of a text mode, zero in all others. -/
def Board.CleanPlane (spec : ModeSpec) (p : Plane) (b : Board bus) : Prop :=
  ∀ o, b.adapter.planes.get p o = if spec.isText = true ∧ p = .glyphs then Font.image o else 0

/-- The write path lets through what a mode needs in a plane: glyphs in the font plane of a text
mode, zeros in all others. -/
def WriteControl.Prepares (c : WriteControl) (spec : ModeSpec) (p : Plane) : Prop :=
  if spec.isText = true ∧ p = .glyphs then c.Passes p else c.Clears p

instance (c : WriteControl) (spec : ModeSpec) (p : Plane) : Decidable (c.Prepares spec p) :=
  inferInstanceAs (Decidable (ite _ _ _))

theorem WriteControl.Passes.prepares {c : WriteControl} {p : Plane} (h : c.Passes p)
    (spec : ModeSpec) : c.Prepares spec p := by
  unfold Prepares
  split
  · exact h
  · exact h.clears

namespace Machine

variable {m : Machine (Board bus)} {settings : Settings} {spec : ModeSpec} {p : Plane}

/-- Nothing is left of a plane if the write path prepares it. -/
theorem cleanPlane_activate (hclear : settings.clearPlanes = true)
    (hfont : settings.reloadFont = true) (h : m.hardware.adapter.writePath.Prepares spec p) :
    (m.activate settings spec).hardware.CleanPlane spec p := by
  have hmode := m.hardware.adapter.mode_writePath
  intro o
  rw [m.get_activate hclear hfont]
  unfold WriteControl.Prepares at h
  split at h
  · next hglyphs =>
    obtain ⟨htext, rfl⟩ := hglyphs
    simp only [h.result hmode, htext, true_and, if_true, Font.image_eq]
  · next hother =>
    rw [if_neg fun g => hother ⟨g.1, g.2.1⟩, if_neg hother]
    exact (WriteControl.clears_iff hmode).mp h _

/-- If a plane gets clean whatever it holds, the write path prepares it. -/
theorem prepares_of_cleanPlane (hclear : settings.clearPlanes = true)
    (hfont : settings.reloadFont = true)
    (h : ∀ planes, ((m.withPlanes planes).activate settings spec).hardware.CleanPlane spec p) :
    m.hardware.adapter.writePath.Prepares spec p := by
  have hmode := m.hardware.adapter.mode_writePath
  have hbyte (planes : PlaneMemory) (o : UInt16) :=
    ((m.withPlanes planes).get_activate hclear hfont spec p o).symm.trans (h planes o)
  -- the ninth line of the first glyph is blank in the font plane, too
  have hclears : m.hardware.adapter.writePath.Clears p := by
    refine (WriteControl.clears_iff hmode).mpr fun latch => ?_
    have hblank := hbyte (PlaneMemory.blank.set p 8 latch) 8
    rw [if_neg fun g => absurd g.2.2.2 (by decide), show Font.image 8 = 0 by decide, ite_self]
      at hblank
    refine Eq.trans ?_ hblank
    exact congrArg _ ((PlaneMemory.get_set _ _ _ _ _ _).trans (if_pos ⟨rfl, rfl⟩)).symm
  unfold WriteControl.Prepares
  split
  · next hglyphs =>
    have hline := hbyte .blank 0x820
    rw [if_pos ⟨hglyphs.1, hglyphs.2, by decide, by decide⟩, if_pos hglyphs, Font.image_eq,
      if_pos ⟨by decide, by decide⟩] at hline
    refine hclears.passes hmode m.hardware.adapter.rotate_writePath_lt
      (show Font.line 65 0 ≠ 0 by decide) (by decide) ?_
    refine Eq.trans ?_ hline
    exact congrArg _ ((WriteControl.clears_iff hmode).mp hclears _).symm
  · exact hclears

end Machine

namespace Service

variable (s : Service (Board bus)) {mode : UInt8} {spec : ModeSpec}

/-- The service with other bytes in the planes. -/
def withPlanes (planes : PlaneMemory) : Service (Board bus) := s.update (·.withPlanes planes)

/-- Once a mode is active only the hardware cursor moves. -/
theorem hardware_setMode (hspec : ModeSpec.lookup mode = .ok spec) :
    let b := (s.machine.activate s.settings spec).hardware
    let c := (s.setMode mode).2.machine.hardware
    b.SameRegisters [0x0E, 0x0F] c ∧ b.SameMemory c := by
  simp only [setMode, hspec]
  split
  · exact ⟨(s.machine.activate s.settings spec).sameRegisters_writeRegPair _ 0x0E _,
      (s.machine.activate s.settings spec).sameMemory_writeRegPair _ 0x0E _⟩
  · exact ⟨.refl _ _, .refl _⟩

theorem crtc_setMode (hspec : ModeSpec.lookup mode = .ok spec) {i : UInt8}
    (hi : i ∉ [0x0E, 0x0F]) :
    (s.setMode mode).2.machine.hardware.adapter.crtc.read i =
      (s.machine.programMode s.settings.crtc spec).hardware.adapter.crtc.read i :=
  ((s.hardware_setMode hspec).1.crtc i hi).trans
    ((s.machine.sameRegisters_activate s.settings spec).crtc i (List.not_mem_nil))

theorem cleanPlane_setMode (hspec : ModeSpec.lookup mode = .ok spec) (p : Plane) :
    (s.setMode mode).2.machine.hardware.CleanPlane spec p ↔
      (s.machine.activate s.settings spec).hardware.CleanPlane spec p := by
  rw [Board.CleanPlane, (s.hardware_setMode hspec).2.planes, Board.CleanPlane]

/-- Power-on leaves no plane as it was, as it lets every byte pass before it sets the mode. -/
theorem cleanPlane_powerOn (hclear : s.settings.clearPlanes = true)
    (hfont : s.settings.reloadFont = true)
    (hspec : ModeSpec.lookup s.settings.initialMode = .ok spec) (p : Plane) :
    s.powerOn.2.machine.hardware.CleanPlane spec p := by
  have hpasses := (s.machine.plain_bringUp s.settings).passes p
  have hset := (s.update (·.bringUp s.settings)).cleanPlane_setMode hspec p
  rw [machine_update, settings_update] at hset
  rw [s.powerOn_eq hspec]
  exact hset.mpr (Machine.cleanPlane_activate hclear hfont (hpasses.prepares spec))

theorem get_poweredOn (hspec : ModeSpec.lookup mode = .ok spec) {p : Plane} (hp : p ≠ .glyphs)
    (o : UInt16) : (poweredOn mode).machine.hardware.adapter.planes.get p o = 0 := by
  have hclean := cleanPlane_powerOn
    (start { Settings.standard with initialMode := mode } (Board.powerOn .word)) rfl rfl hspec p
  exact (hclean o).trans (if_neg fun g => hp g.2)

/-- Setting a mode succeeds from any state of the adapter, the rows reach their register, and the
columns do unless that is protected and holds others. A plane gets clean whatever it held exactly
if the write path, as it was left, prepares it. -/
theorem setMode_clean_iff (hclear : s.settings.clearPlanes = true)
    (hfont : s.settings.reloadFont = true) (hspec : ModeSpec.lookup mode = .ok spec) :
    let a := s.machine.hardware.adapter
    let t := s.setMode mode
    let crtc := t.2.machine.hardware.adapter.crtc
    t.1 = .ok () ∧ t.2.screen = s.screen.enter spec ∧ crtc.read 0x12 = t.2.screen.rows ∧
      (crtc.read 0x01 = t.2.screen.columns ↔
        a.Unprotected ∨ a.crtc.read 0x01 = t.2.screen.columns) ∧
      ∀ p, (∀ planes, ((s.withPlanes planes).setMode mode).2.machine.hardware.CleanPlane spec p) ↔
        a.writePath.Prepares spec p := by
  intro a t crtc
  have hscreen : t.2.screen = s.screen.enter spec := s.screen_setMode hspec
  have hrows : t.2.screen.rows = spec.rows := congrArg Screen.rows hscreen
  have hcolumns : t.2.screen.columns = spec.columns := congrArg Screen.columns hscreen
  refine ⟨s.fst_setMode hspec, hscreen, ?_, ?_, fun p => ⟨fun h => ?_, fun h planes => ?_⟩⟩
  · rw [hrows]
    exact (s.crtc_setMode hspec (by decide)).trans (s.machine.read_rows_programMode _ spec)
  · rw [hcolumns, show crtc.read 0x01 = _ from (s.crtc_setMode hspec (by decide)).trans
      (s.machine.read_columns_programMode _ spec)]
    by_cases hfree : a.Unprotected
    · simp [a, hfree]
    · simp [a, hfree]
  · refine Machine.prepares_of_cleanPlane hclear hfont fun planes => ?_
    exact ((s.withPlanes planes).cleanPlane_setMode hspec p).mp (h planes)
  · exact ((s.withPlanes planes).cleanPlane_setMode hspec p).mpr
      (Machine.cleanPlane_activate hclear hfont h)

/-- A rotation and an AND with the old byte do not matter in a graphics mode, nor do the columns
that are protected already. -/
theorem setMode_clean_protected :
    let a : Adapter :=
      { Adapter.powerOn with
        graphics := Adapter.powerOn.graphics.write 3 0x0D
        crtc := ((RegisterBank.blank 25).write 0x01 80).write 0x11 0x80
        planes := PlaneMemory.blank.set .glyphs 7 0x55 }
    let s : Service (Board .word) := start .standard ⟨0, .blank, a⟩
    let spec := ModeSpec.sixteenColour 0x12 .tallest 0
    let t := s.setMode 0x12
    s.settings.clearPlanes = true ∧ s.settings.reloadFont = true ∧
      ModeSpec.lookup 0x12 = .ok spec ∧ t.1 = .ok () ∧
      t.2.machine.hardware.adapter.crtc.read 0x01 = t.2.screen.columns ∧
      ∀ p, t.2.machine.hardware.CleanPlane spec p := by
  intro a s spec t
  obtain ⟨hok, hscreen, -, hcolumns, hplanes⟩ :=
    s.setMode_clean_iff rfl rfl (show ModeSpec.lookup 0x12 = .ok spec from rfl)
  refine ⟨rfl, rfl, rfl, hok, hcolumns.mpr (.inr ?_), fun p => ?_⟩
  · rw [hscreen]
    decide +kernel
  · have hpath : a.writePath.Prepares spec p := by
      revert p
      decide +kernel
    exact (hplanes p).mpr hpath a.planes

/-- A bit mask of zero keeps what the planes held, and a protected register what it held. -/
theorem setMode_leaves_traces :
    let a : Adapter :=
      { Adapter.powerOn with
        graphics := RegisterBank.blank 9
        crtc := (RegisterBank.blank 25).write 0x11 0x80
        planes := PlaneMemory.blank.set .characters 0 0x55 }
    let s : Service (Board .word) := start .standard ⟨0, .blank, a⟩
    let t := s.setMode 0x03
    s.settings.clearPlanes = true ∧ s.settings.reloadFont = true ∧ t.1 = .ok () ∧
      t.2.screen.columns = 80 ∧ t.2.machine.hardware.adapter.crtc.read 0x01 = 0 ∧
      t.2.machine.hardware.adapter.planes.get .characters 0 = 0x55 := by
  intro a s t
  have hspec : ModeSpec.lookup 0x03 = .ok (.text 0x03 .wide 0x1000) := rfl
  have hscreen := s.screen_setMode hspec
  refine ⟨rfl, rfl, s.fst_setMode hspec, congrArg Screen.columns hscreen, ?_, ?_⟩
  · refine (s.crtc_setMode hspec (by decide)).trans
      ((s.machine.read_columns_programMode _ _).trans ?_)
    decide +kernel
  · rw [show t = s.setMode 0x03 from rfl, (s.hardware_setMode hspec).2.planes,
      s.machine.get_activate rfl rfl, if_neg (by decide)]
    have hold : s.machine.hardware.adapter.planes.get .characters 0 = 0x55 :=
      (PlaneMemory.get_set _ _ _ _ _ _).trans (if_pos ⟨rfl, rfl⟩)
    rw [hold]
    decide +kernel

end Service

end VgaFirmware
