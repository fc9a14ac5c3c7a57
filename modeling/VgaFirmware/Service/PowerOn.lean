import VgaFirmware.Display.Palette
import VgaFirmware.Service.ModeSet

/-!
# Bringing the adapter up

The adapter is put into a known state before the first request: a plain write path, the glyphs,
the text palette, and the initial mode.
-/

namespace VgaFirmware

namespace Machine

variable {B : Type} [Backend B]

/-- Colours pass through the attribute controller unchanged, and the display gets them back. -/
def resetAttributes (m : Machine B) (base : CrtcBase) : Machine B :=
  let (_, m) := m.readPort base.statusPort
  let m := (List.range 16).foldl
    (fun m i => m.writeAttribute (UInt8.ofNat i) (UInt8.ofNat i)) m
  let m := m.writeAttribute 0x10 0x08
  m.writePort 0x3C0 0x20

def bringUp (m : Machine B) (settings : Settings) : Machine B :=
  let base := settings.crtc
  let m := m.writePort 0x3C2 base.miscOutput
  let m := m.writeReg .graphics 8 0xFF
  let m := m.writeReg .graphics 0 0x00
  let m := m.writeReg .graphics 1 0x00
  let m := m.writeReg .graphics 3 0x00
  let m := m.loadFont
  let m := m.writeReg (.crtc base) 0x09 0x07
  let m := m.setCursorShape base settings.cursorShape
  let m := m.resetAttributes base
  m.writeColours 0 Palette.initial

end Machine

namespace Service

variable {B : Type} [Backend B]

/-- Brings the adapter up. An unknown initial mode is refused before anything is touched. -/
def powerOn (s : Service B) : Except Rejection Unit × Service B :=
  let settings := s.settings
  match ModeSpec.lookup settings.initialMode with
  | .error e => (.error e, s)
  | .ok _ =>
    let s := s.update (·.bringUp settings)
    match s.setMode settings.initialMode with
    | (.error e, s) => (.error e, s)
    | (.ok (), s) => (.ok (), s.emit (.initialised settings.initialMode))

end Service

end VgaFirmware
