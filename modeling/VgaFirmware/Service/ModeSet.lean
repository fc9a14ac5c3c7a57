import VgaFirmware.Display.Font
import VgaFirmware.Display.Mode
import VgaFirmware.Machine.Bracket
import VgaFirmware.Service.Cursor

/-!
# Setting a mode

The registers of a mode are written first, then display memory is blanked and the glyphs are
loaded as the settings ask, and only then does the screen take the mode on.
-/

namespace VgaFirmware

namespace Font

def store {B : Type} [Backend B] (b : B) : B :=
  (List.range count).foldl
    (fun b glyph =>
      (List.range height).foldl
        (fun b row => Backend.store b (UInt16.ofNat (stride * glyph + row)) (line glyph row)) b) b

end Font

namespace Machine

variable {B : Type} [Backend B]

def loadFont (m : Machine B) : Machine B := m.edit (.plane .glyphs) 0 (·.update Font.store)

def clearPlanes (m : Machine B) : Machine B :=
  m.edit (.planes .all 0) 0 (·.update (Backend.fill · 0 0 0x10000))

def programMode (m : Machine B) (base : CrtcBase) (spec : ModeSpec) : Machine B :=
  let m := m.writeReg .sequencer 2 spec.mapMask.toByte
  let m :=
    match spec.characterMap with
    | some map => m.writeReg .sequencer 3 map
    | none => m
  let m := m.writeReg .sequencer 4 spec.memoryMode.bits
  let m := m.writeReg .graphics 5 spec.graphicsMode.bits
  let m := m.writeReg .graphics 6 spec.graphicsMisc.bits
  let m := m.writeReg (.crtc base) 0x01 spec.columns
  let m := m.writeReg (.crtc base) 0x12 spec.rows
  let m := m.writeReg (.crtc base) 0x0C 0
  m.writeReg (.crtc base) 0x0D 0

/-- Everything that setting a mode does before the screen changes. -/
def activate (m : Machine B) (settings : Settings) (spec : ModeSpec) : Machine B :=
  let m := m.programMode settings.crtc spec
  let m := if settings.clearPlanes then m.clearPlanes else m
  if spec.isText && settings.reloadFont then m.loadFont else m

end Machine

/-- The screen in a mode: the first page shows, and every cursor is on the screen. -/
def Screen.enter (s : Screen) (spec : ModeSpec) : Screen :=
  { s with
    mode := spec.mode
    columns := spec.columns
    rows := spec.rows
    pageSize := spec.pageSize
    activePage := 0 }.clampCursors

structure ModeInfo where
  columns : UInt8
  mode : UInt8
  activePage : UInt8
  deriving DecidableEq, Repr

namespace Service

variable {B : Type} [Backend B]

/-- Sets a mode. An unknown one is refused before anything is touched. -/
def setMode (s : Service B) (mode : UInt8) : Except Rejection Unit × Service B :=
  match ModeSpec.lookup mode with
  | .error e => (.error e, s)
  | .ok spec =>
    let settings := s.settings
    let screen := s.screen.enter spec
    let s := s.update (·.activate settings spec)
    let s := s.setScreen screen
    let s := if spec.isText then s.applyCursor (screen.cursor .first) else s
    (.ok (), s.emit (.modeSet mode spec.columns spec.rows spec.pageSize))

def modeInfo (s : Service B) : ModeInfo :=
  ⟨s.screen.columns, s.screen.mode, s.screen.activePage⟩

end Service

end VgaFirmware
