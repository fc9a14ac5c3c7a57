import VgaFirmware.Proofs.CleanScreen
import VgaFirmware.Proofs.ClosedPlanes
import VgaFirmware.Proofs.ScreenMoves

/-!
# The font plane

What the planes above the text hold is settled when a mode is set, by the settings and by whether
the mode is a text mode (`Settings.backdrop`), and no call disturbs it until another mode is set
(`powerOn_serve_font`).
-/

namespace VgaFirmware

/-- What a plane above the text holds in a mode: the font in the font plane, unless setting the
mode blanked it and did not load it again, and zero in the other. -/
def Settings.backdrop (settings : Settings) (spec : ModeSpec) (p : Plane) (o : UInt16) : UInt8 :=
  if p = .glyphs ∧
      (settings.clearPlanes = false ∨ settings.reloadFont = true ∧ spec.isText = true) then
    Font.image o
  else 0

theorem Settings.backdrop_of_keep {settings : Settings} (h : settings.clearPlanes = false)
    (spec : ModeSpec) (p : Plane) (o : UInt16) :
    settings.backdrop spec p o = if p = .glyphs then Font.image o else 0 := by
  simp only [backdrop, h, true_or, and_true]

/-- What loading the font makes of a byte. The bytes between the glyphs are not stored. -/
def Font.overlay (p : Plane) (o : UInt16) (x : UInt8) : UInt8 :=
  if p = .glyphs ∧ o.toNat / stride < count ∧ o.toNat % stride < height then image o else x

/-- The bytes between the glyphs have to be blank before for the font image to be complete. -/
theorem Font.overlay_eq {p : Plane} {o : UInt16} {x : UInt8}
    (h : p = .glyphs → x = 0 ∨ x = Font.image o) :
    Font.overlay p o x = if p = .glyphs then Font.image o else x := by
  unfold overlay
  by_cases hp : p = .glyphs
  · simp only [hp, true_and, if_true]
    split
    · rfl
    · next hstored =>
      have hblank : image o = 0 := by rw [image_eq, if_neg hstored]
      rcases h hp with hx | hx
      · exact hx.trans hblank.symm
      · exact hx
  · rw [if_neg fun g => hp g.1, if_neg hp]

/-- What setting a mode makes of a byte of the planes. -/
def Settings.redraw (settings : Settings) (spec : ModeSpec) (p : Plane) (o : UInt16) (x : UInt8) :
    UInt8 :=
  let x := if settings.clearPlanes then 0 else x
  if spec.isText && settings.reloadFont then Font.overlay p o x else x

variable {bus : BusWidth}

/-! ## Planes of a machine -/

namespace Machine

variable {m : Machine (Board bus)} {settings : Settings} {spec : ModeSpec} {p : Plane}

/-- Through a plain write path the glyphs are stored as they are. -/
theorem get_loadFont_plain (hpath : m.hardware.adapter.writePath.Passes .glyphs) (p : Plane)
    (o : UInt16) :
    m.loadFont.hardware.adapter.planes.get p o =
      Font.overlay p o (m.hardware.adapter.planes.get p o) := by
  rw [get_loadFont, Font.overlay, Font.image_eq]
  split
  · next h =>
    obtain ⟨rfl, hstored⟩ := h
    rw [if_pos hstored, hpath.result m.hardware.adapter.mode_writePath]
  · rfl

theorem get_activate_plain (hpath : ∀ p, m.hardware.adapter.writePath.Passes p)
    (settings : Settings) (spec : ModeSpec) (p : Plane) (o : UInt16) :
    (m.activate settings spec).hardware.adapter.planes.get p o =
      settings.redraw spec p o (m.hardware.adapter.planes.get p o) := by
  let blanked := if settings.clearPlanes then (m.programMode settings.crtc spec).clearPlanes
    else m.programMode settings.crtc spec
  have hplanes := m.planes_programMode settings.crtc spec
  have hpaths := m.writePath_programMode settings.crtc spec
  have hblanked : blanked.hardware.adapter.planes.get p o =
      if settings.clearPlanes then 0 else m.hardware.adapter.planes.get p o := by
    simp only [blanked]
    split
    · rw [get_clearPlanes, hpaths]
      exact (hpath p).result m.hardware.adapter.mode_writePath 0 _
    · rw [hplanes]
  have hglyphs : blanked.hardware.adapter.writePath.Passes .glyphs := by
    simp only [blanked]
    split
    · rw [(sameRegisters_clearPlanes _).inside.writePath, hpaths]
      exact hpath .glyphs
    · rw [hpaths]
      exact hpath .glyphs
  rw [Settings.redraw, ← hblanked]
  unfold activate
  simp only
  split
  · exact get_loadFont_plain hglyphs p o
  · rfl

/-- Where planes are blanked, only the font is left. -/
theorem get_activate_of_clear (hclear : settings.clearPlanes = true)
    (hpath : ∀ p, m.hardware.adapter.writePath.Passes p) (spec : ModeSpec) (p : Plane)
    (o : UInt16) :
    (m.activate settings spec).hardware.adapter.planes.get p o =
      if p = .glyphs ∧ settings.reloadFont = true ∧ spec.isText = true then Font.image o
      else 0 := by
  rw [get_activate_plain hpath, Settings.redraw, hclear, if_pos rfl,
    Font.overlay_eq fun _ => .inl rfl]
  by_cases hload : spec.isText = true ∧ settings.reloadFont = true
  · simp only [hload, Bool.and_self, if_true, and_self, and_true]
  · rw [if_neg (Bool.and_eq_true_iff.not.mpr hload), if_neg fun h => hload ⟨h.2.2, h.2.1⟩]

/-- Where planes are kept, loading the font again changes nothing. -/
theorem get_activate_of_keep (hkeep : settings.clearPlanes = false)
    (hpath : ∀ p, m.hardware.adapter.writePath.Passes p) (spec : ModeSpec) {o : UInt16}
    (hfont : m.hardware.adapter.planes.get .glyphs o = Font.image o) (p : Plane) :
    (m.activate settings spec).hardware.adapter.planes.get p o =
      m.hardware.adapter.planes.get p o := by
  rw [get_activate_plain hpath, Settings.redraw, hkeep, if_neg Bool.false_ne_true]
  split
  · rw [Font.overlay_eq fun hp => .inr (hp ▸ hfont)]
    split
    · next hp => rw [hp, hfont]
    · rfl
  · rfl

theorem get_bringUp_plain (m : Machine (Board bus)) (settings : Settings) (p : Plane)
    (o : UInt16) :
    (m.bringUp settings).hardware.adapter.planes.get p o =
      Font.overlay p o (m.hardware.adapter.planes.get p o) := by
  rw [(m.sameMemory_bringUp settings).planes,
    get_loadFont_plain ((m.plain_resetPath _).passes _), (m.sameMemory_resetPath _).planes]

/-- Bringing up a board with blank planes leaves the font in them, and nothing else. -/
theorem get_bringUp (h : m.hardware.adapter.planes = .blank) (settings : Settings) (p : Plane)
    (o : UInt16) :
    (m.bringUp settings).hardware.adapter.planes.get p o =
      if p = .glyphs then Font.image o else 0 := by
  rw [get_bringUp_plain, h, PlaneMemory.get_blank, Font.overlay_eq fun _ => .inl rfl]

end Machine

/-! ## Runs -/

namespace Service

variable {window : UInt16} {settings : Settings} {spec : ModeSpec} {s : Service (Board bus)}

/-- A usable service whose planes above the text are as its mode wants them. -/
structure Backed (settings : Settings) (window : UInt16) (spec : ModeSpec)
    (s : Service (Board bus)) : Prop extends s.Usable window spec where
  planes : ∀ p : Plane, 2 ≤ p.val → s.plane p = settings.backdrop spec p
  settings : s.settings = settings

/-- Setting a mode makes the planes above the text what the mode wants. Where planes are kept,
they have to be so before. -/
theorem plane_setMode (hplain : s.machine.hardware.Plain) {mode : UInt8}
    (hspec : ModeSpec.lookup mode = .ok spec)
    (hkeep : s.settings.clearPlanes = false → ∀ p : Plane, 2 ≤ p.val → ∀ o,
      s.plane p o = if p = .glyphs then Font.image o else 0)
    {p : Plane} (hp : 2 ≤ p.val) : (s.setMode mode).2.plane p = s.settings.backdrop spec p := by
  funext o
  rw [plane, (s.hardware_setMode hspec).2.planes]
  cases hclear : s.settings.clearPlanes with
  | true =>
    rw [Machine.get_activate_of_clear hclear hplain.passes]
    simp only [Settings.backdrop, hclear, Bool.true_eq_false, false_or]
  | false =>
    have hfont : s.plane .glyphs o = Font.image o :=
      (hkeep hclear .glyphs (by decide) o).trans (if_pos rfl)
    rw [Machine.get_activate_of_keep hclear hplain.passes spec hfont,
      Settings.backdrop_of_keep hclear]
    exact hkeep hclear p hp o

namespace Backed

theorem emit (h : s.Backed settings window spec) (e : Event) :
    (s.emit e).Backed settings window spec :=
  ⟨h.toUsable.quiet (quiet_emit s e), h.planes, h.settings⟩

theorem perform (h : s.Backed settings window spec) {q : Request} (hq : q.keepsMode = true) :
    (s.perform q).2.Backed settings window spec where
  toUsable := (kept_usable window spec).perform h.toUsable hq
  settings := (s.steady_perform hq).settings.trans h.settings
  planes p hp := (s.plane_perform hp hq).trans (h.planes p hp)

theorem setMode (h : s.Backed settings window spec) (mode : UInt8) :
    ∃ spec', (s.setMode mode).2.Backed settings window spec' := by
  rcases s.setMode_cases mode with ⟨spec', hspec, -, hsettings, -⟩ | ⟨e, -, hrefused⟩
  · refine ⟨spec', (aligned_setMode h.ready hspec).usable, ?_, hsettings.trans h.settings⟩
    intro p hp
    rw [← h.settings]
    refine plane_setMode h.ready.plain hspec (fun hkeep q hq o => ?_) hp
    rw [h.settings] at hkeep
    rw [h.planes q hq, Settings.backdrop_of_keep hkeep]
  · rw [hrefused]
    exact ⟨spec, h⟩

/-- Every call keeps the planes above the text as the mode wants them. -/
theorem interrupt (h : s.Backed settings window spec) (r : RegisterImage) :
    ∃ spec', (s.interrupt r).2.Backed settings window spec' := by
  refine interrupt_keeps (P := fun s => ∃ spec, s.Backed settings window spec)
    (fun e ⟨spec, h⟩ => ⟨spec, h.emit e⟩) ?_ ⟨spec, h⟩
  rintro t function q - hrequest ⟨spec, ht⟩
  rcases Selector.request_cases hrequest with rfl | hq
  · exact ht.setMode _
  · exact ⟨spec, ht.perform hq⟩

end Backed

theorem backed_powerOn (settings : Settings) (ram : Ram)
    (h : ModeSpec.lookup settings.initialMode = .ok spec) :
    (start settings (⟨window, ram, .powerOn⟩ : Board bus)).powerOn.2.Backed settings window
      spec := by
  let s : Service (Board bus) := start settings ⟨window, ram, .powerOn⟩
  refine ⟨(aligned_powerOn settings ram h).usable, fun p hp => ?_, s.settings_powerOn⟩
  have hfont (q : Plane) (o : UInt16) : (s.update (·.bringUp settings)).plane q o =
      if q = .glyphs then Font.image o else 0 := by
    rw [plane, machine_update]
    exact Machine.get_bringUp rfl settings q o
  have hset := plane_setMode (s := s.update (·.bringUp settings))
    (s.machine.plain_bringUp settings) h (fun _ q _ o => hfont q o) hp
  rw [s.powerOn_eq h]
  exact hset

/-- Text output never disturbs the font plane and the plane above it. After power-on and any calls
plane 3 is blank. The font plane holds the font where planes are kept, and in text modes where the
font is loaded again; otherwise it is blank. -/
theorem powerOn_serve_font (settings : Settings) (window : UInt16) (ram : Ram) {first : ModeSpec}
    (h : ModeSpec.lookup settings.initialMode = .ok first) (calls : List RegisterImage) :
    let s := (start settings (⟨window, ram, .powerOn⟩ : Board bus)).powerOn.2.serve calls
    ∃ spec, ModeSpec.lookup s.screen.mode = .ok spec ∧
      (∀ o, s.machine.hardware.adapter.planes.get .glyphs o =
        if settings.clearPlanes = false ∨ settings.reloadFont = true ∧ spec.isText = true then
          Font.image o
        else 0) ∧
      ∀ p : Plane, p.val = 3 → ∀ o, s.machine.hardware.adapter.planes.get p o = 0 := by
  intro s
  have hbacked : ∃ spec, s.Backed settings window spec :=
    serve_keeps (P := fun s => ∃ spec, s.Backed settings window spec)
      (fun r ⟨_, h⟩ => h.interrupt r) ⟨first, backed_powerOn settings ram h⟩ calls
  obtain ⟨spec, hs⟩ := hbacked
  refine ⟨spec, hs.screen.lookup, fun o => ?_, fun p hp o => ?_⟩
  · refine (congrFun (hs.planes .glyphs (by decide)) o).trans ?_
    simp only [Settings.backdrop, true_and]
  · have hne : p ≠ .glyphs := by
      rintro rfl
      exact absurd hp (by decide)
    exact (congrFun (hs.planes p (by omega)) o).trans (if_neg fun g => hne g.1)

/-- Where planes are kept the font is there in a graphics mode, too, whatever is written: the first
lines of the letter A and the gap behind its last one. -/
theorem powerOn_serve_font_kept :
    let settings := { Settings.standard with clearPlanes := false, initialMode := 0x13 }
    let teletype : RegisterImage := ⟨0x0E41, 0x0007, 0, 0, 0, 0⟩
    let scroll : RegisterImage := ⟨0x0601, 0x0700, 0, 0x184F, 0, 0⟩
    let s := (start settings (Board.powerOn .word)).powerOn.2.serve [teletype, scroll]
    ModeSpec.lookup settings.initialMode = .ok .chained ∧
      (∀ o, s.machine.hardware.adapter.planes.get .glyphs o = Font.image o) ∧
      s.machine.hardware.adapter.planes.get .glyphs 0x820 = 0x30 ∧
      s.machine.hardware.adapter.planes.get .glyphs 0x821 = 0x78 ∧
      s.machine.hardware.adapter.planes.get .glyphs 0x828 = 0 := by
  intro settings teletype scroll s
  have hspec : ModeSpec.lookup settings.initialMode = .ok .chained := rfl
  obtain ⟨spec, -, hfont, -⟩ :=
    @powerOn_serve_font .word settings 0 .blank _ hspec [teletype, scroll]
  have hkept (o : UInt16) : s.machine.hardware.adapter.planes.get .glyphs o = Font.image o :=
    (hfont o).trans (if_pos (.inl rfl))
  refine ⟨hspec, hkept, (hkept 0x820).trans ?_, (hkept 0x821).trans ?_, (hkept 0x828).trans ?_⟩
  all_goals decide

end Service

end VgaFirmware
