import VgaFirmware.Proofs.Checked.Region
import VgaFirmware.Proofs.Checked.Service
import VgaFirmware.Proofs.Operations

/-!
# Text, checked

Text on numbers as they are kept: the row after the cursor's is a byte, the length of a string a
word, and a fill one longer than a string a count. Each operation comes to what the service does
(`scroll_raw`, `writeCells_raw`, `writeCharacters_raw`, `teletype_raw`, `writeString_raw`,
`readCell_raw`).
-/

namespace VgaFirmware

/-- Moves the cursor of a page on from where a cell was written. -/
def Service.advance (s : Service (Board .word)) (page : UInt8) (p : Position) :
    Except Rejection Unit × Service (Board .word) :=
  if Byte.up p.x < s.screen.columns then s.setCursorPosition page (Byte.up p.x) p.y
  else if Byte.up p.y < s.screen.rows then s.setCursorPosition page 0 (p.y + 1)
  else (s.scrollPage page .up 1 0x07 s.screen.columns s.screen.rows).setCursorPosition page 0
    (Byte.down s.screen.rows)

theorem Service.teletype_advance (s : Service (Board .word)) {page : UInt8} {p : Position}
    (hp : s.cursorOf page = .ok p) (c : Cell) :
    s.teletype page c = (s.putCell page p c).advance page p := s.teletype_eq hp c

/-- Searches the caller's memory for the end of a string. -/
def Service.findEnd (s : Service (Board .word)) (buffer : UInt32) :
    Option Nat × Service (Board .word) :=
  s.query (·.query (Backend.findZero · buffer 0 s.settings.scanLimit.toNat))

theorem Service.stringLength_findEnd (s : Service (Board .word)) (buffer : UInt32) :
    s.stringLength buffer =
      match s.findEnd buffer with
      | (some length, t) => (UInt16.ofNat length, t)
      | (none, t) =>
        (s.settings.scanLimit, t.emit (.scanLimitReached buffer s.settings.scanLimit)) := by
  rw [stringLength, findEnd]
  generalize s.query _ = found
  obtain ⟨zero, t⟩ := found
  cases zero <;> rfl

namespace RawService

/-- The rows of both planes move in one view. -/
def scrollPlanes (region : RawRegion) (direction : Direction) (count attr : UInt8) :
    Work RawBoard Unit := do
  region.scroll direction count 0
  RawBoard.selectPlane .attributes
  region.scroll direction count attr

def scrollPage (page : UInt8) (direction : Direction) (count attr columns rows : UInt8) :
    Work RawService Unit :=
  if count = 0 then return ()
  else do
    let s ← get
    let region : RawRegion :=
      { columns := (Byte.least columns s.screen.columns).toNat
        rows := Byte.least rows s.screen.rows
        stride := s.screen.columns.toUInt16 }
    onBoard (RawBoard.inView (.plane .characters) (s.screen.pageStart page)
      (scrollPlanes region direction count attr))

def scroll (direction : Direction) (count attr columns rows : UInt8) : Work RawService Unit := do
  let s ← get
  scrollPage s.screen.activePage direction count attr columns rows

def writeCells (page : UInt8) (c : Cell) (count : UInt16) :
    Work RawService (Except Rejection Unit) := do
  match ← cursorOf page with
  | .error e => return .error e
  | .ok p => do
    let s ← get
    let index ← s.screen.checkedIndex p
    onBoard (RawBoard.inView .cells (s.screen.pageStart page)
      (RawBoard.fillWords (index * 2) c.toWord 0 count.toNat))
    return .ok ()

def writeCharacters (page chr : UInt8) (count : UInt16) :
    Work RawService (Except Rejection Unit) := do
  match ← cursorOf page with
  | .error e => return .error e
  | .ok p => do
    let s ← get
    let index ← s.screen.checkedIndex p
    onBoard (RawBoard.inView (.plane .characters) (s.screen.pageStart page)
      (RawBoard.fill index chr count.toNat))
    return .ok ()

/-- Moves the cursor of a page on from where a cell was written. -/
def advance (page : UInt8) (p : Position) : Work RawService (Except Rejection Unit) := do
  let s ← get
  if Byte.up p.x < s.screen.columns then setCursorPosition page (Byte.up p.x) p.y
  else if Byte.up p.y < s.screen.rows then do
    let y ← Checked.byte (p.y.toNat + 1)
    setCursorPosition page 0 y
  else do
    scrollPage page .up 1 0x07 s.screen.columns s.screen.rows
    setCursorPosition page 0 (Byte.down s.screen.rows)

def teletype (page : UInt8) (c : Cell) : Work RawService (Except Rejection Unit) := do
  match ← cursorOf page with
  | .error e => return .error e
  | .ok p => do
    let s ← get
    let index ← s.screen.checkedIndex p
    onBoard (RawBoard.inView .cells (s.screen.pageStart page)
      (RawBoard.storeWord (index * 2) c.toWord))
    advance page p

def teletypeAll (page : UInt8) : List Cell → Work RawService (Except Rejection Unit)
  | [] => return .ok ()
  | c :: rest => do
    match ← teletype page c with
    | .error e => return .error e
    | .ok () => teletypeAll page rest

def stringLength (buffer : UInt32) : Work RawService UInt16 := do
  let s ← get
  let zero ← onBoard (RawBoard.findZero buffer 0 s.settings.scanLimit.toNat)
  return zero.getD s.settings.scanLimit

/-- Where attributes are written, they cover one cell more than the characters. -/
def copyString (options : StringOptions) (index : UInt16) (buffer : UInt32) (attr : UInt8)
    (length : UInt16) : Work RawBoard Unit := do
  RawBoard.copyIn index buffer length.toNat
  if options.writeAttribute then do
    RawBoard.selectPlane .attributes
    let count ← Checked.count (length.toNat + 1)
    RawBoard.fill index attr count
  else return ()

def writeString (options : StringOptions) (buffer : UInt32) (attr x y : UInt8) :
    Work RawService (Except Rejection UInt16) := do
  let length ← stringLength buffer
  let s ← get
  let index ← s.screen.checkedIndex ⟨x, y⟩
  onBoard (RawBoard.inView (.plane .characters) (s.screen.pageStart s.screen.activePage)
    (copyString options index buffer attr length))
  if options.moveCursor then do
    let p ← s.screen.checkedPosition (index + length)
    let result ← setCursorPosition s.screen.activePage p.x p.y
    return result.map fun _ => length
  else return .ok length

def readCell (page : UInt8) : Work RawService (Except Rejection Cell) := do
  match ← cursorOf page with
  | .error e => return .error e
  | .ok p => do
    let s ← get
    let index ← s.screen.checkedIndex p
    let w ← onBoard (RawBoard.inView .cells (s.screen.pageStart page)
      (RawBoard.loadWord (index * 2)))
    return .ok (.ofWord w)

/-! ## Text comes to the same -/

variable (s : Service (Board .word))

theorem scrollPlanes_raw (m : Machine (Board .word)) (region : RawRegion) (direction : Direction)
    (count attr : UInt8) :
    (scrollPlanes region direction count attr).run m.raw =
      .ok ((), (((m.update (region.region.scroll · direction count.toNat 0)).selectPlane
        .attributes).update (region.region.scroll · direction count.toNat attr)).raw) := by
  have hscroll (m : Machine (Board .word)) (v : UInt8) :
      (region.scroll direction count v).run m.raw =
        .ok ((), (m.update (region.region.scroll · direction count.toNat v)).raw) :=
    region.scroll_raw m.hardware direction count v
  rw [scrollPlanes, Work.run_bind (hscroll m 0), Work.run_bind (RawBoard.selectPlane_raw _ _),
    hscroll]

theorem scrollPage_raw (page : UInt8) (direction : Direction) (count attr columns rows : UInt8) :
    (scrollPage page direction count attr columns rows).run s.raw =
      .ok ((), (s.scrollPage page direction count attr columns rows).raw) := by
  by_cases h : count = 0
  · rw [scrollPage, if_pos h, Service.scrollPage, if_pos h]
    rfl
  · rw [scrollPage, if_neg h, Service.scrollPage, if_neg h, Work.run_bind (get_raw s)]
    exact onBoard_update s (RawBoard.edit_raw s.machine _ _ fun m =>
      scrollPlanes_raw m _ direction count attr)

theorem scroll_raw (direction : Direction) (count attr columns rows : UInt8) :
    (scroll direction count attr columns rows).run s.raw =
      .ok ((), (s.scroll direction count attr columns rows).raw) := by
  rw [scroll, Work.run_bind (get_raw s)]
  exact scrollPage_raw s _ direction count attr columns rows

theorem writeCells_raw (page : UInt8) (c : Cell) (count : UInt16) :
    (writeCells page c count).run s.raw =
      .ok ((s.writeCells page c count).1, (s.writeCells page c count).2.raw) := by
  rw [writeCells, Work.run_bind (cursorOf_raw s page)]
  cases hp : s.cursorOf page with
  | error e =>
    rw [Service.writeCells, hp]
    rfl
  | ok p =>
    have hfill (m : Machine (Board .word)) :
        (RawBoard.fillWords (s.screen.cellIndex p * 2) c.toWord 0 count.toNat).run m.raw =
          .ok ((), (m.update
            (Backend.fillWords · (s.screen.cellIndex p * 2) c.toWord count.toNat)).raw) := by
      have hcount := count.toNat_lt
      have hfirst : s.screen.cellIndex p * 2 + UInt16.ofNat (0 * 2) = s.screen.cellIndex p * 2 :=
        UInt16.add_zero _
      have h := RawBoard.fillWords_raw m.hardware (s.screen.cellIndex p * 2) c.toWord 0
        count.toNat (by omega)
      rwa [hfirst] at h
    simp only [Work.run_bind (get_raw s), Work.run_bind (checkedIndex_raw s _ _)]
    rw [s.writeCells_eq hp]
    exact Work.run_bind (onBoard_update s (RawBoard.edit_raw s.machine _ _ hfill)) _

theorem writeCharacters_raw (page chr : UInt8) (count : UInt16) :
    (writeCharacters page chr count).run s.raw =
      .ok ((s.writeCharacters page chr count).1, (s.writeCharacters page chr count).2.raw) := by
  rw [writeCharacters, Work.run_bind (cursorOf_raw s page)]
  cases hp : s.cursorOf page with
  | error e =>
    rw [Service.writeCharacters, hp]
    rfl
  | ok p =>
    simp only [Work.run_bind (get_raw s), Work.run_bind (checkedIndex_raw s _ _)]
    rw [s.writeCharacters_eq hp]
    exact Work.run_bind (onBoard_update s (RawBoard.edit_raw s.machine _ _ fun m =>
      RawBoard.update_fill_raw m (s.screen.cellIndex p) chr count.toNat)) _

theorem putCell_raw (page : UInt8) (p : Position) (c : Cell) :
    (onBoard (RawBoard.inView .cells (s.screen.pageStart page)
      (RawBoard.storeWord (s.screen.cellIndex p * 2) c.toWord))).run s.raw =
      .ok ((), (s.putCell page p c).raw) :=
  onBoard_update s (RawBoard.edit_raw s.machine _ _ fun m =>
    RawBoard.storeWord_raw m.hardware (s.screen.cellIndex p * 2) c.toWord)

theorem advance_raw (page : UInt8) (p : Position) :
    (advance page p).run s.raw = .ok ((s.advance page p).1, (s.advance page p).2.raw) := by
  have hscreen : s.raw.screen = s.screen := rfl
  rw [advance, Work.run_bind (get_raw s), Service.advance, hscreen]
  by_cases hx : Byte.up p.x < s.screen.columns
  · rw [if_pos hx, if_pos hx, setCursorPosition_raw]
  rw [if_neg hx, if_neg hx]
  by_cases hy : Byte.up p.y < s.screen.rows
  · -- the row after this one is a row of the screen, and rows are counted in a byte
    have hrows := s.screen.rows.toNat_lt
    have hnext : p.y.toNat + 1 < 0x100 := by
      rw [UInt8.lt_iff_toNat_lt, Byte.toNat_up] at hy
      omega
    have hbyte : Checked.byte (p.y.toNat + 1) = .ok (UInt8.ofNat (p.y.toNat + 1)) :=
      Checked.byte_eq (by omega) hnext
    have hrow : UInt8.ofNat (p.y.toNat + 1) = p.y + 1 := by
      rw [UInt8.ofNat_add, UInt8.ofNat_toNat]
      rfl
    rw [if_pos hy, if_pos hy, Work.run_bind (Work.run_lift hbyte _), hrow, setCursorPosition_raw]
  · rw [if_neg hy, if_neg hy, Work.run_bind (scrollPage_raw s page .up 1 0x07 _ _),
      setCursorPosition_raw]

theorem teletype_raw (page : UInt8) (c : Cell) :
    (teletype page c).run s.raw =
      .ok ((s.teletype page c).1, (s.teletype page c).2.raw) := by
  rw [teletype, Work.run_bind (cursorOf_raw s page)]
  cases hp : s.cursorOf page with
  | error e =>
    rw [Service.teletype, hp]
    rfl
  | ok p =>
    simp only [Work.run_bind (get_raw s), Work.run_bind (checkedIndex_raw s _ _)]
    rw [s.teletype_advance hp]
    exact (Work.run_bind (putCell_raw s page p c) _).trans (advance_raw _ page p)

theorem teletypeAll_raw (page : UInt8) (cells : List Cell) :
    (teletypeAll page cells).run s.raw =
      .ok ((s.teletypeAll page cells).1, (s.teletypeAll page cells).2.raw) := by
  induction cells generalizing s with
  | nil => rfl
  | cons c rest ih =>
    rw [teletypeAll, Work.run_bind (teletype_raw s page c), Service.teletypeAll]
    generalize s.teletype page c = result
    obtain ⟨result, t⟩ := result
    cases result with
    | error e => rfl
    | ok => exact ih t

/-- The limit is a word, so no length that is searched exceeds one. -/
theorem findEnd_raw (buffer : UInt32) :
    (onBoard (RawBoard.findZero buffer 0 s.settings.scanLimit.toNat)).run s.raw =
      .ok ((s.findEnd buffer).1.map UInt16.ofNat, (s.findEnd buffer).2.raw) := by
  let search (m : Machine (Board .word)) : Option Nat × Machine (Board .word) :=
    m.query (Backend.findZero · buffer 0 s.settings.scanLimit.toNat)
  have hsearch : (RawBoard.findZero buffer 0 s.settings.scanLimit.toNat).run s.machine.raw =
      .ok ((search s.machine).1.map UInt16.ofNat, (search s.machine).2.raw) := by
    have hlimit := s.settings.scanLimit.toNat_lt
    have hfirst : buffer + UInt32.ofNat 0 = buffer := UInt32.add_zero buffer
    have h := RawBoard.findZero_raw s.machine.hardware buffer 0 s.settings.scanLimit.toNat
      (by omega)
    rwa [hfirst] at h
  exact onBoard_query s (f := fun m => ((search m).1.map UInt16.ofNat, (search m).2)) hsearch

theorem stringLength_raw (buffer : UInt32) :
    (stringLength buffer).run s.raw =
      .ok ((s.stringLength buffer).1, (s.stringLength buffer).2.raw) := by
  rw [stringLength, Work.run_bind (get_raw s), s.stringLength_findEnd]
  refine (Work.run_bind (findEnd_raw s buffer) _).trans ?_
  generalize s.findEnd buffer = found
  obtain ⟨zero, t⟩ := found
  cases zero <;> rfl

theorem copyString_raw (m : Machine (Board .word)) (options : StringOptions) (index : UInt16)
    (buffer : UInt32) (attr : UInt8) (length : UInt16) :
    (copyString options index buffer attr length).run m.raw =
      .ok ((), (if options.writeAttribute then
        ((m.update (Backend.copyIn · index buffer length.toNat)).selectPlane .attributes).update
          (Backend.fill · index attr (length.toNat + 1))
        else m.update (Backend.copyIn · index buffer length.toNat)).raw) := by
  have hlength := length.toNat_lt
  have hcount : Checked.count (length.toNat + 1) = .ok (length.toNat + 1) :=
    Checked.count_eq (by omega) (by omega)
  have hcopy : (RawBoard.copyIn index buffer length.toNat).run m.raw =
      .ok ((), (m.update (Backend.copyIn · index buffer length.toNat)).raw) :=
    RawBoard.copyIn_raw m.hardware index buffer length.toNat
  rw [copyString, Work.run_bind hcopy]
  cases options.writeAttribute with
  | false => rfl
  | true =>
    rw [if_pos rfl, if_pos rfl, Work.run_bind (RawBoard.selectPlane_raw _ _),
      Work.run_bind (Work.run_lift hcount _), RawBoard.update_fill_raw]

theorem putText_raw (page : UInt8) (options : StringOptions) (index : UInt16) (buffer : UInt32)
    (attr : UInt8) (length : UInt16) :
    (onBoard (RawBoard.inView (.plane .characters) (s.screen.pageStart page)
      (copyString options index buffer attr length))).run s.raw =
      .ok ((), (s.putText page options index buffer length attr).raw) :=
  onBoard_update s (RawBoard.edit_raw s.machine _ _ fun m =>
    copyString_raw m options index buffer attr length)

theorem writeString_raw (options : StringOptions) (buffer : UInt32) (attr x y : UInt8) :
    (writeString options buffer attr x y).run s.raw =
      .ok ((s.writeString options buffer attr x y).1,
        (s.writeString options buffer attr x y).2.raw) := by
  rw [writeString, Work.run_bind (stringLength_raw s buffer), Service.writeString]
  generalize s.stringLength buffer = found
  obtain ⟨length, t⟩ := found
  have hput := putText_raw t t.screen.activePage options (t.screen.cellIndex ⟨x, y⟩) buffer attr
    length
  simp only [Work.run_bind (get_raw t), Work.run_bind (checkedIndex_raw t _ _)]
  refine (Work.run_bind hput _).trans ?_
  cases options.moveCursor with
  | false => rfl
  | true =>
    have hposition := t.screen.checkedPosition_eq (t.screen.cellIndex ⟨x, y⟩ + length)
    refine (Work.run_bind (Work.run_lift hposition _) _).trans ?_
    refine (Work.run_bind (setCursorPosition_raw _ _ _ _) _).trans ?_
    rfl

theorem readCell_raw (page : UInt8) :
    (readCell page).run s.raw = .ok ((s.readCell page).1, (s.readCell page).2.raw) := by
  rw [readCell, Work.run_bind (cursorOf_raw s page)]
  cases hp : s.cursorOf page with
  | error e =>
    rw [Service.readCell, hp]
    rfl
  | ok p =>
    have hlook : (onBoard (RawBoard.inView .cells (s.screen.pageStart page)
        (RawBoard.loadWord (s.screen.cellIndex p * 2)))).run s.raw =
        .ok ((s.lookCell page p).1, (s.lookCell page p).2.raw) :=
      onBoard_query s (RawBoard.inspect_raw s.machine _ _ fun m =>
        RawBoard.loadWord_raw m.hardware (s.screen.cellIndex p * 2))
    simp only [Work.run_bind (get_raw s), Work.run_bind (checkedIndex_raw s _ _)]
    rw [s.readCell_eq hp]
    exact Work.run_bind hlook _

end RawService

end VgaFirmware
