import VgaFirmware.Service.ModeSet
import VgaFirmware.Service.RegisterImage
import VgaFirmware.Service.Text

/-!
# The register-level interface

A caller puts a function number and arguments into its registers and finds the results there.
A function that nobody provides changes nothing, and neither does one that names a page out of
range; an unknown mode is answered by 0xFF in AL.
-/

namespace VgaFirmware.Service

variable {B : Type} [Backend B]

/-- Puts a result into the registers, or reports why there is none and leaves them alone. -/
def answer {α : Type} (function : Selector) (r : RegisterImage)
    (result : Except Rejection α × Service B) (put : α → RegisterImage) :
    RegisterImage × Service B :=
  match result with
  | (.ok a, s) => (put a, s)
  | (.error e, s) => (r, s.emit (.requestIgnored function e))

def dispatch (s : Service B) (function : Selector) (r : RegisterImage) :
    RegisterImage × Service B :=
  match function with
  | .setMode =>
    match s.setMode (r.get .al) with
    | (.ok (), s) => (r, s)
    | (.error e, s) => (r.set .al 0xFF, s.emit (.modeRefused e))
  | .setCursorShape => (r, s.setCursorShape (.of (r.get .ch) (r.get .cl)))
  | .moveCursor =>
    answer function r (s.setCursorPosition (r.get .bh) (r.get .dl) (r.get .dh)) fun _ =>
      { r with ax := 0 }
  | .readCursor =>
    answer function r (s.cursorPosition (r.get .bh)) fun (shape, p) =>
      let r := { r with ax := 0 }
      (((r.set .ch shape.first).set .cl shape.last).set .dl p.x).set .dh p.y
  | .showPage => answer function r (s.setActivePage (r.get .al)) fun _ => r
  | .scrollUp =>
    (r, s.scroll .up (r.get .al) (r.get .bh) (Byte.up (r.get .dl)) (Byte.up (r.get .dh)))
  | .scrollDown =>
    (r, s.scroll .down (r.get .al) (r.get .bh) (Byte.up (r.get .dl)) (Byte.up (r.get .dh)))
  | .readCell =>
    answer function r (s.readCell (r.get .bh)) fun c => (r.set .ah c.attr).set .al c.chr
  | .writeCells =>
    answer function r (s.writeCells (r.get .bh) ⟨r.get .al, r.get .bl⟩ r.cx) fun _ => r
  | .writeCharacters =>
    answer function r (s.writeCharacters (r.get .bh) (r.get .al) r.cx) fun _ => r
  | .setPalette => (r, s)
  | .teletype => answer function r (s.teletype (r.get .bh) ⟨r.get .al, r.get .bl⟩) fun _ => r
  | .getMode =>
    let info := s.modeInfo
    (((r.set .ah info.columns).set .al info.mode).set .bh info.activePage, s)
  | .writeString =>
    let buffer := r.es.toUInt32 * 16 + r.bp.toUInt32
    let options := StringOptions.ofByte (r.get .al)
    answer function r (s.writeString options buffer (r.get .bl) (r.get .dl) (r.get .dh))
      fun _ => r

def interrupt (s : Service B) (r : RegisterImage) : RegisterImage × Service B :=
  match Selector.ofCode? (r.get .ah) with
  | none => (r, s.emit (.unknownFunction (r.get .ah)))
  | some function => (s.emit (.called function r.ax)).dispatch function r

end VgaFirmware.Service
