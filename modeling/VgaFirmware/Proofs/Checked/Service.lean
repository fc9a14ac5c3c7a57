import VgaFirmware.Proofs.Checked.Machine
import VgaFirmware.Proofs.Checked.Screen
import VgaFirmware.Service.PowerOn
import VgaFirmware.Service.Text

/-!
# The service, checked

Cursors, pages and modes on numbers as they are kept. A cursor is read and written at the number
of its page, and the hardware cursor is moved to a cell index; each operation comes to what the
service does (`setCursorPosition_raw`, `setActivePage_raw`, `setMode_raw`, `powerOn_raw`).
-/

namespace VgaFirmware

/-- A service with the numbers of its board as they are kept. -/
structure RawService where
  settings : Settings
  screen : Screen
  board : RawBoard

/-- The service with the numbers of its board as they are kept; its record is left out. -/
def Service.raw (s : Service (Board .word)) : RawService := ⟨s.settings, s.screen, s.machine.raw⟩

namespace RawService

/-- Works on the board. -/
def onBoard {α : Type} (x : Work RawBoard α) : Work RawService α := fun s => do
  let (a, board) ← x.run s.board
  return (a, { s with board := board })

def setScreen (screen : Screen) : Work RawService Unit := modify ({ · with screen := screen })

/-! ## Cursors and pages -/

def applyCursor (p : Position) : Work RawService Unit := do
  let s ← get
  let index ← s.screen.checkedIndex p
  onBoard (RawBoard.setCursorLocation s.settings.crtc index)

/-- The hardware cursor follows that of the active page. -/
def followCursor (page : UInt8) (p : Position) : Work RawService Unit := do
  let s ← get
  if page = s.screen.activePage then applyCursor p else return ()

def setCursorShape (shape : CursorShape) : Work RawService Unit := do
  let s ← get
  onBoard (RawBoard.setCursorShape s.settings.crtc shape)

def cursorShape : Work RawService CursorShape := do
  let s ← get
  onBoard (RawBoard.cursorShape s.settings.crtc)

def setCursorPosition (page x y : UInt8) : Work RawService (Except Rejection Unit) :=
  match Screen.slot page with
  | .error e => return .error e
  | .ok slot => do
    let s ← get
    let p := s.screen.clamp ⟨x, y⟩
    let cursors ← Checked.set s.screen.cursors slot p
    setScreen { s.screen with cursors := cursors }
    followCursor page p
    return .ok ()

/-- The stored cursor of a page. -/
def cursorOf (page : UInt8) : Work RawService (Except Rejection Position) :=
  match Screen.slot page with
  | .error e => return .error e
  | .ok slot => do
    let s ← get
    let p ← Checked.get s.screen.cursors slot
    return .ok p

def cursorPosition (page : UInt8) :
    Work RawService (Except Rejection (CursorShape × Position)) := do
  match ← cursorOf page with
  | .error e => return .error e
  | .ok p => do
    let shape ← cursorShape
    return .ok (shape, p)

def setActivePage (page : UInt8) : Work RawService (Except Rejection Unit) := do
  match ← cursorOf page with
  | .error e => return .error e
  | .ok p => do
    let s ← get
    onBoard (RawBoard.setStartAddress s.settings.crtc (s.screen.pageStart page))
    setScreen { s.screen with activePage := page }
    applyCursor p
    return .ok ()

/-! ## Modes -/

/-- A text mode shows the cursor of the first page. -/
def showFirst (spec : ModeSpec) : Work RawService Unit := do
  let s ← get
  if spec.isText then do
    let p ← Checked.get s.screen.cursors 0
    applyCursor p
  else return ()

def setMode (mode : UInt8) : Work RawService (Except Rejection Unit) :=
  match ModeSpec.lookup mode with
  | .error e => return .error e
  | .ok spec => do
    let s ← get
    onBoard (RawBoard.activate s.settings spec)
    let screen ← s.screen.checkedEnter spec
    setScreen screen
    showFirst spec
    return .ok ()

def powerOn : Work RawService (Except Rejection Unit) := do
  let s ← get
  match ModeSpec.lookup s.settings.initialMode with
  | .error e => return .error e
  | .ok _ => do
    onBoard (RawBoard.bringUp s.settings)
    setMode s.settings.initialMode

/-! ## Cursors and pages come to the same -/

variable (s : Service (Board .word))

theorem get_raw : (get : Work RawService RawService).run s.raw = .ok (s.raw, s.raw) := rfl

theorem setScreen_raw (screen : Screen) :
    (setScreen screen).run s.raw = .ok ((), (s.setScreen screen).raw) := rfl

theorem onBoard_query {α : Type} {x : Work RawBoard α}
    {f : Machine (Board .word) → α × Machine (Board .word)}
    (h : x.run s.machine.raw = .ok ((f s.machine).1, (f s.machine).2.raw)) :
    (onBoard x).run s.raw = .ok ((s.query f).1, (s.query f).2.raw) := by
  change (x.run s.machine.raw >>= _) = _
  rw [h]
  rfl

theorem onBoard_update {x : Work RawBoard Unit} {f : Machine (Board .word) → Machine (Board .word)}
    (h : x.run s.machine.raw = .ok ((), (f s.machine).raw)) :
    (onBoard x).run s.raw = .ok ((), (s.update f).raw) := by
  change (x.run s.machine.raw >>= _) = _
  rw [h]
  rfl

theorem checkedIndex_raw (p : Position) (screen : Screen) :
    (liftM (screen.checkedIndex p) : Work RawService UInt16).run s.raw =
      .ok (screen.cellIndex p, s.raw) := Work.run_lift (screen.checkedIndex_eq p) s.raw

theorem applyCursor_raw (p : Position) :
    (applyCursor p).run s.raw = .ok ((), (s.applyCursor p).raw) := by
  rw [applyCursor, Work.run_bind (get_raw s), Work.run_bind (checkedIndex_raw s _ _)]
  exact onBoard_update s (RawBoard.setCursorLocation_raw s.machine _ _)

theorem followCursor_raw (page : UInt8) (p : Position) :
    (followCursor page p).run s.raw =
      .ok ((), (if page = s.screen.activePage then s.applyCursor p else s).raw) := by
  rw [followCursor, Work.run_bind (get_raw s)]
  by_cases h : page = s.screen.activePage
  · rw [if_pos h, if_pos (show page = s.raw.screen.activePage from h), applyCursor_raw]
  · rw [if_neg h, if_neg (show ¬ page = s.raw.screen.activePage from h)]
    rfl

theorem setCursorShape_raw (shape : CursorShape) :
    (setCursorShape shape).run s.raw = .ok ((), (s.setCursorShape shape).raw) := by
  rw [setCursorShape, Work.run_bind (get_raw s)]
  exact onBoard_update s (RawBoard.setCursorShape_raw s.machine _ _)

theorem cursorShape_raw :
    cursorShape.run s.raw = .ok (s.cursorShape.1, s.cursorShape.2.raw) := by
  rw [cursorShape, Work.run_bind (get_raw s)]
  exact onBoard_query s (RawBoard.cursorShape_raw s.machine _)

theorem setCursorPosition_raw (page x y : UInt8) :
    (setCursorPosition page x y).run s.raw =
      .ok ((s.setCursorPosition page x y).1, (s.setCursorPosition page x y).2.raw) := by
  rw [setCursorPosition, Screen.slot_eq, Service.setCursorPosition]
  cases Page.ofByte page with
  | error e => rfl
  | ok slot =>
    have hset : Checked.set s.raw.screen.cursors slot.val (s.raw.screen.clamp ⟨x, y⟩) =
        .ok (s.screen.setCursor slot (s.screen.clamp ⟨x, y⟩)).cursors :=
      Checked.set_eq s.screen.cursors slot.isLt _
    have hscreen := setScreen_raw s (s.screen.setCursor slot (s.screen.clamp ⟨x, y⟩))
    simp only [Except.map, Work.run_bind (get_raw s), Work.run_bind (Work.run_lift hset _)]
    refine (Work.run_bind hscreen _).trans ?_
    rw [Work.run_bind (followCursor_raw _ _ _)]
    rfl

theorem cursorOf_raw (page : UInt8) : (cursorOf page).run s.raw = .ok (s.cursorOf page, s.raw) := by
  rw [cursorOf, Screen.slot_eq, Service.cursorOf]
  cases Page.ofByte page with
  | error e => rfl
  | ok slot =>
    have hget : Checked.get s.raw.screen.cursors slot.val = .ok (s.screen.cursor slot) :=
      Checked.get_eq s.screen.cursors slot.isLt
    simp only [Except.map, Work.run_bind (get_raw s), Work.run_bind (Work.run_lift hget _)]
    rfl

theorem cursorPosition_raw (page : UInt8) :
    (cursorPosition page).run s.raw =
      .ok ((s.cursorPosition page).1, (s.cursorPosition page).2.raw) := by
  rw [cursorPosition, Work.run_bind (cursorOf_raw s page), Service.cursorOf,
    Service.cursorPosition]
  cases Page.ofByte page with
  | error e => rfl
  | ok slot =>
    simp only [Except.map, Work.run_bind (cursorShape_raw s)]
    rfl

theorem setActivePage_raw (page : UInt8) :
    (setActivePage page).run s.raw =
      .ok ((s.setActivePage page).1, (s.setActivePage page).2.raw) := by
  rw [setActivePage, Work.run_bind (cursorOf_raw s page), Service.cursorOf, Service.setActivePage]
  cases Page.ofByte page with
  | error e => rfl
  | ok slot =>
    have hstart := onBoard_update s
      (f := (·.setStartAddress s.settings.crtc (s.screen.pageStart page)))
      (RawBoard.setStartAddress_raw s.machine _ _)
    simp only [Except.map, Work.run_bind (get_raw s)]
    refine (Work.run_bind hstart _).trans ?_
    refine (Work.run_bind (setScreen_raw _ { s.screen with activePage := page }) _).trans ?_
    rw [Work.run_bind (applyCursor_raw _ _)]
    rfl

/-! ## Modes come to the same -/

theorem showFirst_raw (spec : ModeSpec) :
    (showFirst spec).run s.raw =
      .ok ((), (if spec.isText then s.applyCursor (s.screen.cursor .first) else s).raw) := by
  have hget : Checked.get s.raw.screen.cursors 0 = .ok (s.screen.cursor .first) :=
    Checked.get_eq s.screen.cursors (by decide)
  rw [showFirst, Work.run_bind (get_raw s)]
  cases spec.isText with
  | false => rfl
  | true => rw [if_pos rfl, if_pos rfl, Work.run_bind (Work.run_lift hget _), applyCursor_raw]

theorem setMode_raw (mode : UInt8) :
    (setMode mode).run s.raw = .ok ((s.setMode mode).1, (s.setMode mode).2.raw) := by
  rw [setMode, Service.setMode]
  cases ModeSpec.lookup mode with
  | error e => rfl
  | ok spec =>
    have hactivate := onBoard_update s (f := (·.activate s.settings spec))
      (RawBoard.activate_raw s.machine s.settings spec)
    have henter := s.screen.checkedEnter_eq spec
    simp only [Work.run_bind (get_raw s)]
    refine (Work.run_bind hactivate _).trans ?_
    refine (Work.run_bind (Work.run_lift henter _) _).trans ?_
    rw [Work.run_bind (setScreen_raw _ _), Work.run_bind (showFirst_raw _ spec)]
    rfl

theorem powerOn_raw : powerOn.run s.raw = .ok (s.powerOn.1, s.powerOn.2.raw) := by
  have hsettings : s.raw.settings = s.settings := rfl
  rw [powerOn, Work.run_bind (get_raw s), Service.powerOn, hsettings]
  cases ModeSpec.lookup s.settings.initialMode with
  | error e => rfl
  | ok spec =>
    have hbring := onBoard_update s (f := (·.bringUp s.settings))
      (RawBoard.bringUp_raw s.machine s.settings)
    refine (Work.run_bind hbring _).trans ?_
    rw [setMode_raw]
    dsimp only
    generalize (s.update (·.bringUp s.settings)).setMode s.settings.initialMode = result
    obtain ⟨result, t⟩ := result
    cases result <;> rfl

end RawService

end VgaFirmware
