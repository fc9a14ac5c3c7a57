import VgaFirmware.Service.Interrupt
import VgaFirmware.Service.PowerOn

/-!
# Requests

Every operation of the service as a value, so that what holds after any sequence of operations
can be said of a list.
-/

namespace VgaFirmware

inductive Request where
  | powerOn
  | setMode (mode : UInt8)
  | modeInfo
  | setCursorShape (shape : CursorShape)
  | cursorShape
  | setCursorPosition (page x y : UInt8)
  | cursorPosition (page : UInt8)
  | setActivePage (page : UInt8)
  | scroll (direction : Direction) (count attr columns rows : UInt8)
  | writeCells (page : UInt8) (c : Cell) (count : UInt16)
  | writeCharacters (page chr : UInt8) (count : UInt16)
  | teletype (page : UInt8) (c : Cell)
  | teletypeAll (page : UInt8) (cells : List Cell)
  | writeString (options : StringOptions) (buffer : UInt32) (attr x y : UInt8)
  | readCell (page : UInt8)
  | interrupt (r : RegisterImage)
  deriving DecidableEq, Repr

inductive Answer where
  | done
  | mode (info : ModeInfo)
  | shape (shape : CursorShape)
  | cursor (shape : CursorShape) (p : Position)
  | length (n : UInt16)
  | cell (c : Cell)
  | registers (r : RegisterImage)
  deriving DecidableEq, Repr

namespace Service

variable {B : Type} [Backend B]

def perform (s : Service B) : Request → Except Rejection Answer × Service B
  | .powerOn => s.powerOn.map (·.map fun _ => .done) id
  | .setMode mode => (s.setMode mode).map (·.map fun _ => .done) id
  | .modeInfo =>
    let info := s.modeInfo
    (.ok (.mode info), s)
  | .setCursorShape shape => (.ok .done, s.setCursorShape shape)
  | .cursorShape => s.cursorShape.map (.ok ∘ .shape) id
  | .setCursorPosition page x y => (s.setCursorPosition page x y).map (·.map fun _ => .done) id
  | .cursorPosition page => (s.cursorPosition page).map (·.map fun (k, p) => .cursor k p) id
  | .setActivePage page => (s.setActivePage page).map (·.map fun _ => .done) id
  | .scroll direction count attr columns rows =>
    (.ok .done, s.scroll direction count attr columns rows)
  | .writeCells page c count => (s.writeCells page c count).map (·.map fun _ => .done) id
  | .writeCharacters page chr count =>
    (s.writeCharacters page chr count).map (·.map fun _ => .done) id
  | .teletype page c => (s.teletype page c).map (·.map fun _ => .done) id
  | .teletypeAll page cells => (s.teletypeAll page cells).map (·.map fun _ => .done) id
  | .writeString options buffer attr x y =>
    (s.writeString options buffer attr x y).map (·.map .length) id
  | .readCell page => (s.readCell page).map (·.map .cell) id
  | .interrupt r => (s.interrupt r).map (.ok ∘ .registers) id

/-- Carries out requests in order, whatever their answers. -/
def performAll (s : Service B) (requests : List Request) : Service B :=
  requests.foldl (fun s r => (s.perform r).2) s

end Service

end VgaFirmware
