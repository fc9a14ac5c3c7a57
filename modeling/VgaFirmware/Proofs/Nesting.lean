import VgaFirmware.Machine.Script
import VgaFirmware.Proofs.Controls
import VgaFirmware.Proofs.Footprint

/-!
# Nested blocks

A block puts back the view registers and the window, whatever its script does
(`saved_run_block`). A script that works through views only changes no other register
(`bracketed_runAll`), and a block of such a script leaves no trace in what later accesses reach
(`sameRegisters_runAll`).
-/

namespace VgaFirmware

/-- What scripts do that work through views only: the same window, and the same adapter but for
latches and planes, the view registers, and the indices of their banks. -/
structure Board.Bracketed {bus : BusWidth} (b c : Board bus) : Prop
    extends Board.BesideViews b c where
  window : c.window = b.window

namespace Board.Bracketed

variable {bus : BusWidth} {b c d : Board bus}

theorem trans (h : Bracketed b c) (g : Bracketed c d) : Bracketed b d :=
  ⟨h.toBesideViews.trans g.toBesideViews, g.window.trans h.window⟩

theorem of_accesses (h : Backend.Accesses b c) : Bracketed b c :=
  ⟨besideViews_of_accesses h, (sameControls_of_accesses h).window⟩

theorem selectPlane (b : Board bus) (p : Plane) : Bracketed b (b.selectPlane p) :=
  ⟨b.besideViews_selectPlane p, rfl⟩

end Board.Bracketed

/-- The plane is a matter of two registers, whatever else there is. -/
theorem Board.SameRegisters.selectPlane {bus : BusWidth} {b c : Board bus}
    (h : Board.SameRegisters [] b c) (p : Plane) :
    Board.SameRegisters [] (b.selectPlane p) (c.selectPlane p) where
  window := h.window
  sequencer i := by
    change (c.adapter.sequencer.write 2 _).read i = (b.adapter.sequencer.write 2 _).read i
    rw [RegisterBank.read_write, RegisterBank.read_write, h.sequencer]
  graphics i := by
    change (c.adapter.graphics.write 4 _).read i = (b.adapter.graphics.write 4 _).read i
    rw [RegisterBank.read_write, RegisterBank.read_write, h.graphics]
  crtc := h.crtc

namespace Action

/-! ## Scripts that work through views -/

/-- Reads and writes memory, at most. -/
def inMemory : Action → Bool
  | window | saved | load _ | loadWord _ | store _ _ | storeWord _ _ | fetch _ | copy _ _ _
  | fill _ _ _ | fillWords _ _ _ | copyIn _ _ _ => true
  | _ => false

mutual

/-- Works through views only: blocks, the plane of an open view, and memory. -/
def confined : Action → Bool
  | selectPlane _ => true
  | block _ _ body => confinedAll body
  | a => a.inMemory

/-- Every step works through views only. -/
def confinedAll : List Action → Bool
  | [] => true
  | a :: rest => confined a && confinedAll rest

end

theorem confined_cases {a : Action} (h : a.confined = true) :
    a.inMemory = true ∨ (∃ p, a = .selectPlane p) ∨
      ∃ view start body, a = .block view start body ∧ confinedAll body = true := by
  cases a with
  | selectPlane p => exact .inr (.inl ⟨p, rfl⟩)
  | block view start body => exact .inr (.inr ⟨view, start, body, rfl, h⟩)
  | _ => exact .inl h

variable {bus : BusWidth} (enclosing : Option Saved) (m : Machine (Board bus))

theorem hardware_run_block (view : View) (start : UInt16) (body : List Action) :
    (run enclosing m (.block view start body)).2.hardware =
      (runAll (some m.hardware.saved) (m.openView view start).2 body).2.hardware.closeView
        m.hardware.saved := by
  rw [run]
  simp only [Machine.hardware_closeView, Machine.fst_openView]

theorem hardware_run_selectPlane (p : Plane) :
    (run enclosing m (.selectPlane p)).2.hardware = m.hardware.selectPlane p :=
  m.hardware_selectPlane p

/-- Whatever the script of a block does, closing puts back what opening has saved. -/
theorem saved_run_block (view : View) (start : UInt16) (body : List Action) :
    (run enclosing m (.block view start body)).2.hardware.saved = m.hardware.saved := by
  rw [hardware_run_block]
  exact congrArg (Saved.mk · m.hardware.window) (Adapter.viewRegisters_setView _ _)

theorem accesses_run {a : Action} (h : a.inMemory = true) :
    Backend.Accesses m.hardware (run enclosing m a).2.hardware := by
  cases a with
  | window => exact .refl
  | saved => cases enclosing <;> exact .refl
  | load off => exact .load .refl off
  | loadWord off => exact .loadWord .refl off
  | store off v => exact .store .refl off v
  | storeWord off w => exact .storeWord .refl off w
  | fetch a => exact .fetch .refl a
  | copy dst src count => exact .copy .refl dst src count
  | fill dst v count => exact .fill .refl dst v count
  | fillWords dst w count => exact .fillWords .refl dst w count
  | copyIn dst src count => exact .copyIn .refl dst src count
  | _ => cases h

/-- What is left to say of a block once its script is known to be confined. -/
theorem sameControls_run_block {view : View} {start : UInt16} {body : List Action}
    (h : Board.BesideViews (m.openView view start).2.hardware
      (runAll (some m.hardware.saved) (m.openView view start).2 body).2.hardware) :
    Board.SameControls (m.hardware.updateAdapter .afterView)
      (run enclosing m (.block view start body)).2.hardware := by
  rw [Machine.hardware_openView] at h
  rw [hardware_run_block]
  exact ((m.hardware.besideViews_openView view start).trans h).sameControls_closeView

mutual

theorem bracketed_run (enclosing : Option Saved) (m : Machine (Board bus)) (a : Action)
    (h : a.confined = true) : m.hardware.Bracketed (run enclosing m a).2.hardware :=
  match a with
  | .selectPlane p => by
    rw [hardware_run_selectPlane]
    exact .selectPlane _ p
  | .block view start body => by
    have hbody := bracketed_runAll (some m.hardware.saved) (m.openView view start).2 body h
    have hblock := sameControls_run_block enclosing m hbody.toBesideViews
    exact ⟨m.hardware.besideViews_afterView.trans hblock.besideViews, hblock.window⟩
  | .window | .saved | .load _ | .loadWord _ | .store _ _ | .storeWord _ _ | .fetch _
  | .copy _ _ _ | .fill _ _ _ | .fillWords _ _ _ | .copyIn _ _ _ =>
    .of_accesses (accesses_run enclosing m h)

theorem bracketed_runAll (enclosing : Option Saved) (m : Machine (Board bus))
    (script : List Action) (h : confinedAll script = true) :
    m.hardware.Bracketed (runAll enclosing m script).2.hardware :=
  match script with
  | [] => .of_accesses .refl
  | a :: rest => by
    obtain ⟨ha, hrest⟩ := (Bool.and_eq_true _ _).mp h
    exact (bracketed_run enclosing m a ha).trans (bracketed_runAll enclosing _ rest hrest)

end

/-! ## What a block leaves -/

/-- A block of a confined script changes the value of no register. -/
theorem sameRegisters_run_block (view : View) (start : UInt16) {body : List Action}
    (h : confinedAll body = true) :
    m.hardware.SameRegisters [] (run enclosing m (.block view start body)).2.hardware := by
  have hbody := bracketed_runAll (some m.hardware.saved) (m.openView view start).2 body h
  rw [Machine.hardware_openView] at hbody
  rw [hardware_run_block]
  exact ((m.hardware.inside_openView view start).trans hbody.inside).sameRegisters_closeView

variable {m} {n : Machine (Board bus)}

/-- From equal registers a confined step leads to equal registers. -/
theorem sameRegisters_run (h : m.hardware.SameRegisters [] n.hardware) (a : Action)
    (ha : a.confined = true) :
    (run enclosing m a).2.hardware.SameRegisters [] (run enclosing n a).2.hardware := by
  rcases confined_cases ha with hmemory | ⟨p, rfl⟩ | ⟨view, start, body, rfl, hbody⟩
  · have hm := Board.sameRegisters_of_accesses (accesses_run enclosing m hmemory)
    have hn := Board.sameRegisters_of_accesses (accesses_run enclosing n hmemory)
    exact hm.symm.trans (h.trans hn)
  · rw [hardware_run_selectPlane, hardware_run_selectPlane]
    exact h.selectPlane p
  · have hm := sameRegisters_run_block enclosing m view start hbody
    have hn := sameRegisters_run_block enclosing n view start hbody
    exact hm.symm.trans (h.trans hn)

theorem sameRegisters_runAll (h : m.hardware.SameRegisters [] n.hardware) (script : List Action)
    (hscript : confinedAll script = true) :
    (runAll enclosing m script).2.hardware.SameRegisters []
      (runAll enclosing n script).2.hardware := by
  induction script generalizing m n with
  | nil => exact h
  | cons a rest ih =>
    obtain ⟨ha, hrest⟩ := (Bool.and_eq_true _ _).mp hscript
    exact ih (sameRegisters_run enclosing h a ha) hrest

/-- Blocks nest properly and are transparent. Closing a block puts back the view registers and the
window, whatever its script does. A script that works through views only changes no register of
the adapter but the view registers. And after a block of such a script has closed, whatever comes
next in the enclosing script reads and writes the same places at every offset as if the block had
not been there: a load shows the bytes of those places only, and a store changes no others and puts
the same bytes there, unless it copies the latches. -/
theorem blocks_transparent (m : Machine (Board bus)) (enclosing : Option Saved) :
    (∀ view start body,
      let b := m.hardware
      let c := (run enclosing m (.block view start body)).2.hardware
      c.adapter.viewRegisters = b.adapter.viewRegisters ∧ c.window = b.window) ∧
    (∀ script, confinedAll script = true →
      let a := m.hardware.adapter
      let a' := (runAll enclosing m script).2.hardware.adapter
      (∀ i, i ≠ 2 → i ≠ 4 → a'.sequencer.read i = a.sequencer.read i) ∧
      (∀ i, i ≠ 4 → i ≠ 5 → i ≠ 6 → a'.graphics.read i = a.graphics.read i) ∧
      a'.crtc = a.crtc ∧ a'.attributes = a.attributes ∧ a'.dac = a.dac ∧
      a'.miscOutput = a.miscOutput) ∧
    ∀ view start body rest, confinedAll body = true → confinedAll rest = true →
      let b := (runAll enclosing m rest).2.hardware
      let c := (runAll enclosing m (.block view start body :: rest)).2.hardware
      ∀ off, (∀ l, (c.Reads off l ↔ b.Reads off l) ∧ (c.Writes off l ↔ b.Writes off l)) ∧
        ((∀ l, b.Reads off l → c.byteAt l = b.byteAt l) →
          (Backend.load c off).1 = (Backend.load b off).1) ∧
        ∀ v l,
          (b.Writes off l → c.byteAt l = b.byteAt l → b.adapter.writeControl.mode ≠ .latched →
            (Backend.store c off v).byteAt l = (Backend.store b off v).byteAt l) ∧
          (¬ b.Writes off l → (Backend.store c off v).byteAt l = c.byteAt l ∧
            (Backend.store b off v).byteAt l = b.byteAt l) := by
  refine ⟨fun view start body => ?_, fun script hscript => ?_, ?_⟩
  · exact Saved.mk.inj (saved_run_block enclosing m view start body)
  · have h := bracketed_runAll enclosing m script hscript
    exact ⟨h.inside.sequencer, h.inside.graphics, h.crtc, h.attributes, h.dac, h.miscOutput⟩
  · intro view start body rest hbody hrest
    have hblock := sameRegisters_run_block enclosing m view start hbody
    have h := sameRegisters_runAll enclosing hblock rest hrest
    intro b c off
    refine ⟨fun l => ⟨h.reads_iff off l, h.writes_iff off l⟩, h.fst_load,
      fun v l => ⟨fun hwrites hbyte hmode => h.byteAt_store hmode hwrites hbyte v,
        fun hkept => ⟨?_, Board.byteAt_store_of_ne v hkept⟩⟩⟩
    exact Board.byteAt_store_of_ne v fun hwrites => hkept ((h.writes_iff off l).mp hwrites)

/-- The script of the block writes through two views, and there is another block after it. -/
theorem blocks_transparent_nested :
    let m : Machine (Board .word) := .ofHardware (.powerOn .word)
    let inner : List Action := [.selectPlane .glyphs, .fill 0 0xFF 16]
    let rest : List Action := [.store 2 0x41, .block (.plane .attributes) 0x1000 [.loadWord 0]]
    confinedAll inner = true ∧ confinedAll rest = true ∧
      let b := (runAll none m rest).2.hardware
      let c := (runAll none m (.block .cells 0 inner :: rest)).2.hardware
      c.adapter.crtc = m.hardware.adapter.crtc ∧
        ∀ off l, c.Writes off l ↔ b.Writes off l := by
  intro m inner rest
  have hinner : confinedAll inner = true := rfl
  have hrest : confinedAll rest = true := rfl
  obtain ⟨-, hregisters, hplaces⟩ := blocks_transparent m none
  obtain ⟨-, -, hcrtc, -⟩ := hregisters (.block .cells 0 inner :: rest) rfl
  refine ⟨hinner, hrest, hcrtc, fun off l => ?_⟩
  obtain ⟨hsame, -, -⟩ := hplaces .cells 0 inner rest hinner hrest off
  exact (hsame l).2

end Action

end VgaFirmware
