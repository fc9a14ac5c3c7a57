import VgaFirmware.Machine.Timing
import VgaFirmware.Service

/-!
# Cursors and pages

Every page has a stored cursor, and the hardware cursor follows that of the active page.
-/

namespace VgaFirmware.Service

variable {B : Type} [Backend B]

def applyCursor (s : Service B) (p : Position) : Service B :=
  let base := s.settings.crtc
  let index := s.screen.cellIndex p
  s.update (·.setCursorLocation base index)

def setCursorShape (s : Service B) (shape : CursorShape) : Service B :=
  let base := s.settings.crtc
  s.update (·.setCursorShape base shape)

def cursorShape (s : Service B) : CursorShape × Service B :=
  let base := s.settings.crtc
  s.query (·.cursorShape base)

/-- Stores the cursor of a page, at the nearest position on the screen. -/
def setCursorPosition (s : Service B) (page x y : UInt8) : Except Rejection Unit × Service B :=
  match Page.ofByte page with
  | .error e => (.error e, s)
  | .ok slot =>
    let screen := s.screen
    let p := screen.clamp ⟨x, y⟩
    let s := s.setScreen (screen.setCursor slot p)
    (.ok (), if page = screen.activePage then s.applyCursor p else s)

def cursorPosition (s : Service B) (page : UInt8) :
    Except Rejection (CursorShape × Position) × Service B :=
  match Page.ofByte page with
  | .error e => (.error e, s)
  | .ok slot =>
    let p := s.screen.cursor slot
    let (shape, s) := s.cursorShape
    (.ok (shape, p), s)

/-- Shows a page, with the hardware cursor at its stored cursor. -/
def setActivePage (s : Service B) (page : UInt8) : Except Rejection Unit × Service B :=
  match Page.ofByte page with
  | .error e => (.error e, s)
  | .ok slot =>
    let base := s.settings.crtc
    let screen := s.screen
    let start := screen.pageStart page
    let p := screen.cursor slot
    let s := s.update (·.setStartAddress base start)
    let s := s.setScreen { screen with activePage := page }
    (.ok (), (s.applyCursor p).emit (.pageShown page start))

end VgaFirmware.Service
