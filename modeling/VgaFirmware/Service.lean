import VgaFirmware.Display.Screen
import VgaFirmware.Machine

/-!
# The video service

Settings, the screen as the service keeps it, and the machine that it drives. An operation takes
a service and gives the service after it, beside its result; one that refuses a request gives
the reason instead.
-/

namespace VgaFirmware

structure Settings where
  crtc : CrtcBase
  /-- Blank display memory when a mode is set. -/
  clearPlanes : Bool
  /-- Load the glyphs when a text mode is set. -/
  reloadFont : Bool
  initialMode : UInt8
  cursorShape : CursorShape
  /-- How far a string is searched for its end. -/
  scanLimit : UInt16
  deriving DecidableEq, Repr

def Settings.standard : Settings where
  crtc := .mono
  clearPlanes := true
  reloadFont := true
  initialMode := 0x01
  cursorShape := .of 6 7
  scanLimit := 0xFFFF

structure Service (B : Type) where
  settings : Settings
  screen : Screen
  machine : Machine B

namespace Service

variable {B : Type}

def start (settings : Settings) (hardware : B) : Service B :=
  ⟨settings, .initial, .ofHardware hardware⟩

/-- Works on the machine and leaves the screen as it is. -/
def update (s : Service B) (f : Machine B → Machine B) : Service B :=
  match s with
  | ⟨settings, screen, machine⟩ => ⟨settings, screen, f machine⟩

def query {α : Type} (s : Service B) (f : Machine B → α × Machine B) : α × Service B :=
  match s with
  | ⟨settings, screen, machine⟩ =>
    let (a, machine) := f machine
    (a, ⟨settings, screen, machine⟩)

def setScreen (s : Service B) (screen : Screen) : Service B :=
  match s with
  | ⟨settings, _, machine⟩ => ⟨settings, screen, machine⟩

def emit (s : Service B) (e : Event) : Service B := s.update (·.emit e)

@[simp] theorem screen_update (s : Service B) (f : Machine B → Machine B) :
    (s.update f).screen = s.screen := rfl

@[simp] theorem settings_update (s : Service B) (f : Machine B → Machine B) :
    (s.update f).settings = s.settings := rfl

@[simp] theorem machine_update (s : Service B) (f : Machine B → Machine B) :
    (s.update f).machine = f s.machine := rfl

@[simp] theorem screen_query {α : Type} (s : Service B) (f : Machine B → α × Machine B) :
    (s.query f).2.screen = s.screen := rfl

@[simp] theorem settings_query {α : Type} (s : Service B) (f : Machine B → α × Machine B) :
    (s.query f).2.settings = s.settings := rfl

@[simp] theorem machine_query {α : Type} (s : Service B) (f : Machine B → α × Machine B) :
    (s.query f).2.machine = (f s.machine).2 := rfl

@[simp] theorem fst_query {α : Type} (s : Service B) (f : Machine B → α × Machine B) :
    (s.query f).1 = (f s.machine).1 := rfl

@[simp] theorem screen_setScreen (s : Service B) (screen : Screen) :
    (s.setScreen screen).screen = screen := rfl

@[simp] theorem settings_setScreen (s : Service B) (screen : Screen) :
    (s.setScreen screen).settings = s.settings := rfl

@[simp] theorem machine_setScreen (s : Service B) (screen : Screen) :
    (s.setScreen screen).machine = s.machine := rfl

end Service

end VgaFirmware
