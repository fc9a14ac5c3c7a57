import VgaFirmware.Proofs.FontPlane
import VgaFirmware.Proofs.RegisterProgram

/-!
# Setting a mode and powering on again

Setting a mode is a program of registers (`sameControls_setMode`) that redraws every byte of the
planes (`get_setMode`), and so is power-on (`sameControls_powerOn`, `get_powerOn`). Each of these
comes to rest after one time, and so does the screen (`Screen.enter_enter`). So a second time
changes nothing but the latches (`idempotent_setMode`, `idempotent_powerOn`).
-/

namespace VgaFirmware

variable {bus : BusWidth}

/-! ## The screen -/

namespace Screen

theorem clamp_clamp (d : Screen) (p : Position) (hcolumns : 0 < d.columns.toNat)
    (hrows : 0 < d.rows.toNat) : d.clamp (d.clamp p) = d.clamp p :=
  clamp_eq (d.clamp_x_lt p hcolumns) (d.clamp_y_lt p hrows)

/-- Every cursor is on the screen after one time. -/
theorem enter_enter (d : Screen) (spec : ModeSpec) :
    (d.enter spec).enter spec = d.enter spec := by
  have hcursors (page : Page) : ((d.enter spec).enter spec).cursor page =
      (d.enter spec).cursor page := by
    have hagain : ((d.enter spec).enter spec).cursor page =
        (d.enter spec).clamp ((d.enter spec).cursor page) := cursor_clampCursors _ page
    have hfirst : (d.enter spec).cursor page = (d.enter spec).clamp (d.cursor page) :=
      cursor_clampCursors _ page
    rw [hagain, hfirst, clamp_clamp _ _ spec.columns_pos spec.rows_pos]
  have hvector : ((d.enter spec).enter spec).cursors = (d.enter spec).cursors :=
    Vector.ext fun i hi => hcursors ⟨i, hi⟩
  exact congrArg (fun cursors => { d.enter spec with cursors }) hvector

end Screen

/-! ## Planes -/

/-- Loading the font again changes nothing. -/
theorem Font.overlay_overlay (p : Plane) (o : UInt16) (x : UInt8) :
    overlay p o (overlay p o x) = overlay p o x := by
  unfold overlay
  split <;> rfl

namespace Settings

variable (settings : Settings) (spec : ModeSpec) (p : Plane) (o : UInt16) (x : UInt8)

theorem redraw_redraw :
    settings.redraw spec p o (settings.redraw spec p o x) = settings.redraw spec p o x := by
  unfold redraw
  cases settings.clearPlanes with
  | true => rfl
  | false =>
    simp only [Bool.false_eq_true, if_false]
    split
    · exact Font.overlay_overlay p o x
    · rfl

theorem redraw_overlay_again :
    settings.redraw spec p o (Font.overlay p o (settings.redraw spec p o (Font.overlay p o x))) =
      settings.redraw spec p o (Font.overlay p o x) := by
  unfold redraw
  cases settings.clearPlanes with
  | true => rfl
  | false =>
    simp only [Bool.false_eq_true, if_false]
    split
    · rw [Font.overlay_overlay, Font.overlay_overlay, Font.overlay_overlay]
    · exact Font.overlay_overlay p o x

end Settings

/-! ## The service -/

namespace Service

/-- Same settings and screen, and the same board but for the latches. -/
structure SameButLatches (s t : Service (Board bus)) : Prop where
  settings : t.settings = s.settings
  screen : t.screen = s.screen
  window : t.machine.hardware.window = s.machine.hardware.window
  ram : t.machine.hardware.ram = s.machine.hardware.ram
  adapter : t.machine.hardware.adapter =
    { s.machine.hardware.adapter with latches := t.machine.hardware.adapter.latches }

/-- An operation succeeds twice in a row, and the second time changes nothing but the latches. -/
def Idempotent (s : Service (Board bus))
    (op : Service (Board bus) → Except Rejection Unit × Service (Board bus)) : Prop :=
  (op s).1 = .ok () ∧ (op (op s).2).1 = .ok () ∧ (op s).2.SameButLatches (op (op s).2).2

theorem sameButLatches_of_controls {s t : Service (Board bus)}
    (h : s.machine.hardware.SameControls t.machine.hardware) (hsettings : t.settings = s.settings)
    (hscreen : t.screen = s.screen) (hram : t.machine.hardware.ram = s.machine.hardware.ram)
    (hplanes : ∀ p o, t.machine.hardware.adapter.planes.get p o =
      s.machine.hardware.adapter.planes.get p o) : s.SameButLatches t :=
  ⟨hsettings, hscreen, h.window, hram, h.adapter_eq_of_planes (PlaneMemory.ext hplanes)⟩

variable (s : Service (Board bus)) {mode : UInt8} {spec : ModeSpec}

/-! ### Setting a mode -/

theorem unprotected_setMode (h : s.machine.hardware.adapter.Unprotected)
    (hspec : ModeSpec.lookup mode = .ok spec) :
    (s.setMode mode).2.machine.hardware.adapter.Unprotected :=
  (s.hardware_setMode hspec).1.unprotected (by decide)
    (s.machine.unprotected_activate h s.settings spec)

theorem plain_setMode (h : s.machine.hardware.adapter.Unprotected)
    (hplain : s.machine.hardware.Plain) (hspec : ModeSpec.lookup mode = .ok spec) :
    (s.setMode mode).2.machine.hardware.Plain := by
  refine (s.hardware_setMode hspec).1.plain ?_
  refine (s.machine.sameRegisters_activate s.settings spec).plain ?_
  rw [s.machine.hardware_programMode h]
  exact hplain.setMode spec

theorem get_setMode (hplain : s.machine.hardware.Plain) (hspec : ModeSpec.lookup mode = .ok spec)
    (p : Plane) (o : UInt16) :
    (s.setMode mode).2.machine.hardware.adapter.planes.get p o =
      s.settings.redraw spec p o (s.machine.hardware.adapter.planes.get p o) := by
  rw [(s.hardware_setMode hspec).2.planes, Machine.get_activate_plain hplain.passes]

/-- Setting a mode is idempotent where registers can be written and the write path is a plain
one. -/
theorem idempotent_setMode (h : s.machine.hardware.adapter.Unprotected)
    (hplain : s.machine.hardware.Plain) (hspec : ModeSpec.lookup mode = .ok spec) :
    s.Idempotent (·.setMode mode) := by
  refine ⟨s.fst_setMode hspec, fst_setMode _ hspec, ?_⟩
  have hscreen := s.screen_setMode hspec
  have hsettings := s.settings_setMode mode
  have hfirst := s.sameControls_setMode h hspec
  have hget := s.get_setMode hplain hspec
  have hfree := s.unprotected_setMode h hspec
  have hplain := s.plain_setMode h hplain hspec
  generalize (s.setMode mode).2 = t at hscreen hsettings hfirst hget hfree hplain ⊢
  have hhome : t.screen.homeCursor spec = s.screen.homeCursor spec := by
    rw [Screen.homeCursor, hscreen, Screen.enter_enter, Screen.homeCursor]
  have hsecond := t.sameControls_setMode hfree hspec
  rw [hhome] at hsecond
  refine sameButLatches_of_controls ?_ (t.settings_setMode mode) ?_ (t.ram_setMode mode) ?_
  · exact hfirst.again (fun _ _ _ => rfl) (fun a => a.enterMode_again spec _) hsecond
  · rw [t.screen_setMode hspec, hscreen, Screen.enter_enter]
  · intro p o
    rw [t.get_setMode hplain hspec, hsettings, hget, Settings.redraw_redraw]

/-! ### Power-on -/

theorem get_powerOn (hspec : ModeSpec.lookup s.settings.initialMode = .ok spec) (p : Plane)
    (o : UInt16) :
    s.powerOn.2.machine.hardware.adapter.planes.get p o =
      s.settings.redraw spec p o
        (Font.overlay p o (s.machine.hardware.adapter.planes.get p o)) := by
  have hplain : (s.update (·.bringUp s.settings)).machine.hardware.Plain := by
    rw [machine_update]
    exact s.machine.plain_bringUp s.settings
  have hset := (s.update (·.bringUp s.settings)).get_setMode hplain hspec p o
  rw [settings_update, machine_update, Machine.get_bringUp_plain] at hset
  rw [s.powerOn_eq hspec]
  exact hset

theorem unprotected_powerOn (h : s.machine.hardware.adapter.Unprotected)
    (hspec : ModeSpec.lookup s.settings.initialMode = .ok spec) :
    s.powerOn.2.machine.hardware.adapter.Unprotected := by
  have hfree : (s.update (·.bringUp s.settings)).machine.hardware.adapter.Unprotected := by
    rw [machine_update]
    exact s.machine.unprotected_bringUp h s.settings
  have hset := (s.update (·.bringUp s.settings)).unprotected_setMode hfree hspec
  rw [s.powerOn_eq hspec]
  exact hset

/-- Power-on is idempotent where registers can be written; it makes the write path a plain one
itself. -/
theorem idempotent_powerOn (h : s.machine.hardware.adapter.Unprotected)
    (hspec : ModeSpec.lookup s.settings.initialMode = .ok spec) :
    s.Idempotent (·.powerOn) := by
  have hok (t : Service (Board bus)) (ht : ModeSpec.lookup t.settings.initialMode = .ok spec) :
      t.powerOn.1 = .ok () := by rw [t.powerOn_eq ht]
  have hsettings := s.settings_powerOn
  refine ⟨hok s hspec, hok _ (hsettings ▸ hspec), ?_⟩
  have hscreen := s.screen_powerOn hspec
  have hfirst := s.sameControls_powerOn h hspec
  have hget := s.get_powerOn hspec
  have hfree := s.unprotected_powerOn h hspec
  generalize s.powerOn.2 = t at hscreen hsettings hfirst hget hfree ⊢
  have hspec : ModeSpec.lookup t.settings.initialMode = .ok spec := hsettings ▸ hspec
  have hhome : t.screen.homeCursor spec = s.screen.homeCursor spec := by
    rw [Screen.homeCursor, hscreen, Screen.enter_enter, Screen.homeCursor]
  have hsecond := t.sameControls_powerOn hfree hspec
  rw [hhome, hsettings] at hsecond
  refine sameButLatches_of_controls ?_ t.settings_powerOn ?_ (t.ram_powerOn hspec) ?_
  · refine hfirst.again (fun a latches planes => ?_)
      (fun a => a.powerUp_enterMode_again s.settings spec _) hsecond
    simp only [Adapter.powerUp, Adapter.enterMode]
  · rw [t.screen_powerOn hspec, hscreen, Screen.enter_enter]
  · intro p o
    rw [t.get_powerOn hspec, hsettings, hget, Settings.redraw_overlay_again]

/-- After power-on and any calls, and on a fresh adapter as well, setting a mode twice leaves what
setting it once does, and powering on twice leaves what powering on once does, but for the
latches. -/
theorem powerOn_serve_idempotent (settings : Settings) (window : UInt16) (ram : Ram)
    {first : ModeSpec} (hfirst : ModeSpec.lookup settings.initialMode = .ok first)
    (calls : List RegisterImage) (hspec : ModeSpec.lookup mode = .ok spec) :
    let fresh := start settings (⟨window, ram, .powerOn⟩ : Board bus)
    let s := fresh.powerOn.2.serve calls
    ∀ r, r = fresh ∨ r = s → r.Idempotent (·.setMode mode) ∧ r.Idempotent (·.powerOn) := by
  intro fresh s r hr
  have hready : r.machine.hardware.Ready window ∧ r.settings = settings := by
    rcases hr with rfl | rfl
    · exact ⟨(usable_start settings ram).ready, rfl⟩
    · obtain ⟨spec', hs⟩ : ∃ spec', s.Backed settings window spec' :=
        serve_keeps (P := fun s => ∃ spec, s.Backed settings window spec)
          (fun r ⟨_, h⟩ => h.interrupt r) ⟨first, backed_powerOn settings ram hfirst⟩ calls
      exact ⟨hs.ready, hs.settings⟩
  obtain ⟨hready, hsettings⟩ := hready
  have hinitial : ModeSpec.lookup r.settings.initialMode = .ok first := hsettings ▸ hfirst
  exact ⟨r.idempotent_setMode hready.unprotected hready.plain hspec,
    r.idempotent_powerOn hready.unprotected hinitial⟩

/-- A graphics mode set twice and a second power-on after teletype output, where planes are
kept. -/
theorem powerOn_serve_idempotent_kept :
    let settings := { Settings.standard with clearPlanes := false }
    let teletype : RegisterImage := ⟨0x0E41, 0x0007, 0, 0, 0, 0⟩
    let s := (start settings (Board.powerOn .word)).powerOn.2.serve [teletype]
    ModeSpec.lookup settings.initialMode = .ok (.text 0x01 .narrow 0x0800) ∧
      ModeSpec.lookup 0x13 = .ok .chained ∧
      s.Idempotent (·.setMode 0x13) ∧ s.Idempotent (·.powerOn) := by
  intro settings teletype s
  have hfirst : ModeSpec.lookup settings.initialMode = .ok (.text 0x01 .narrow 0x0800) := rfl
  have hspec : ModeSpec.lookup 0x13 = .ok .chained := rfl
  exact ⟨hfirst, hspec,
    @powerOn_serve_idempotent .word 0x13 _ settings 0 .blank _ hfirst [teletype] hspec s
      (.inr rfl)⟩

end Service

end VgaFirmware
