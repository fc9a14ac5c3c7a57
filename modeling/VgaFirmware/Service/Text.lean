import VgaFirmware.Cell
import VgaFirmware.Machine.Bracket
import VgaFirmware.Machine.Region
import VgaFirmware.Service.Cursor

/-!
# Text

Characters lie in plane 0 and their attributes in plane 1. Scrolls and plain characters go
through the view of one plane; whole cells go through the cells view.
-/

namespace VgaFirmware

/-- What writing a string does besides writing characters. -/
structure StringOptions where
  moveCursor : Bool
  writeAttribute : Bool
  deriving DecidableEq, Repr

namespace StringOptions

def ofByte (b : UInt8) : StringOptions := ⟨b &&& 0x01 != 0, b &&& 0x02 != 0⟩

def toByte (o : StringOptions) : UInt8 :=
  (if o.moveCursor then 0x01 else 0) ||| (if o.writeAttribute then 0x02 else 0)

end StringOptions

namespace Service

variable {B : Type} [Backend B]

def cursorOf (s : Service B) (page : UInt8) : Except Rejection Position :=
  (Page.ofByte page).map fun slot => s.screen.cursor slot

/-- Scrolls the top left of a page: characters come free as zero, attributes as `attr`. -/
def scrollPage (s : Service B) (page : UInt8) (direction : Direction)
    (count attr columns rows : UInt8) : Service B :=
  if count = 0 then s
  else
    let screen := s.screen
    let region : Region :=
      { columns := (Byte.least columns screen.columns).toNat
        rows := (Byte.least rows screen.rows).toNat
        stride := screen.columns.toNat }
    s.update fun m => m.edit (.plane .characters) (screen.pageStart page) fun m =>
      let m := m.update (region.scroll · direction count.toNat 0)
      let m := m.selectPlane .attributes
      m.update (region.scroll · direction count.toNat attr)

def scroll (s : Service B) (direction : Direction) (count attr columns rows : UInt8) :
    Service B :=
  let page := s.screen.activePage
  s.scrollPage page direction count attr columns rows

def writeCells (s : Service B) (page : UInt8) (c : Cell) (count : UInt16) :
    Except Rejection Unit × Service B :=
  match s.cursorOf page with
  | .error e => (.error e, s)
  | .ok p =>
    let off := s.screen.cellIndex p * 2
    let start := s.screen.pageStart page
    (.ok (), s.update fun m => m.edit .cells start fun m =>
      m.update (Backend.fillWords · off c.toWord count.toNat))

/-- Fills characters from the cursor of a page on and leaves the attributes. -/
def writeCharacters (s : Service B) (page chr : UInt8) (count : UInt16) :
    Except Rejection Unit × Service B :=
  match s.cursorOf page with
  | .error e => (.error e, s)
  | .ok p =>
    let off := s.screen.cellIndex p
    let start := s.screen.pageStart page
    (.ok (), s.update fun m => m.edit (.plane .characters) start fun m =>
      m.update (Backend.fill · off chr count.toNat))

/-- Writes a cell at the cursor of a page and moves the cursor on. Past the last cell the page
scrolls up by a row. No character is special. -/
def teletype (s : Service B) (page : UInt8) (c : Cell) : Except Rejection Unit × Service B :=
  match s.cursorOf page with
  | .error e => (.error e, s)
  | .ok p =>
    let screen := s.screen
    let off := screen.cellIndex p * 2
    let start := screen.pageStart page
    let s := s.update fun m => m.edit .cells start fun m =>
      m.update (Backend.storeWord · off c.toWord)
    let x := Byte.up p.x
    if x < screen.columns then s.setCursorPosition page x p.y
    else if Byte.up p.y < screen.rows then s.setCursorPosition page 0 (p.y + 1)
    else
      let s := s.scrollPage page .up 1 0x07 screen.columns screen.rows
      s.setCursorPosition page 0 (Byte.down screen.rows)

/-- Writes cells one after the other, up to the first that is refused. -/
def teletypeAll (s : Service B) (page : UInt8) : List Cell → Except Rejection Unit × Service B
  | [] => (.ok (), s)
  | c :: rest =>
    match s.teletype page c with
    | (.error e, s) => (.error e, s)
    | (.ok (), s) => s.teletypeAll page rest

/-- Length of the string at an address: up to its zero byte, or up to the limit. -/
def stringLength (s : Service B) (buffer : UInt32) : UInt16 × Service B :=
  let limit := s.settings.scanLimit
  let (zero, s) := s.query (·.query (Backend.findZero · buffer 0 limit.toNat))
  match zero with
  | some length => (UInt16.ofNat length, s)
  | none => (limit, s.emit (.scanLimitReached buffer limit))

/-- Copies the string at an address to a position of the active page. Where attributes are
written, they cover one cell more than the string. The result is the length. -/
def writeString (s : Service B) (options : StringOptions) (buffer : UInt32) (attr x y : UInt8) :
    Except Rejection UInt16 × Service B :=
  let (length, s) := s.stringLength buffer
  let screen := s.screen
  let page := screen.activePage
  let index := screen.cellIndex ⟨x, y⟩
  let s := s.update fun m => m.edit (.plane .characters) (screen.pageStart page) fun m =>
    let m := m.update (Backend.copyIn · index buffer length.toNat)
    if options.writeAttribute then
      (m.selectPlane .attributes).update (Backend.fill · index attr (length.toNat + 1))
    else m
  if options.moveCursor then
    let p := screen.positionOf (index + length)
    let (result, s) := s.setCursorPosition page p.x p.y
    (result.map fun _ => length, s)
  else (.ok length, s)

def readCell (s : Service B) (page : UInt8) : Except Rejection Cell × Service B :=
  match s.cursorOf page with
  | .error e => (.error e, s)
  | .ok p =>
    let off := s.screen.cellIndex p * 2
    let start := s.screen.pageStart page
    let (w, s) := s.query fun m => m.inspect .cells start (·.query (Backend.loadWord · off))
    (.ok (.ofWord w), s)

end Service

end VgaFirmware
