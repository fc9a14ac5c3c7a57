import VgaFirmware.Proofs.Region
import VgaFirmware.Proofs.Views
import VgaFirmware.Service.Interrupt

/-!
# Operations on a board

What the operations do to the board that the service drives. Those that work on display memory
are one bracket each, and quiet: screen and registers stay as they were (`Quiet`).
-/

namespace VgaFirmware

variable {bus : BusWidth}

/-! ## Work inside a view of planes -/

namespace Board

/-- Scrolls the characters of a region, and then the attributes. -/
def scrollCells (b : Board bus) (r : Region) (direction : Direction) (count : Nat)
    (attr : UInt8) : Board bus :=
  r.scroll ((r.scroll b direction count 0).selectPlane .attributes) direction count attr

/-- Puts a string into the characters, and its colour into the attributes if asked to. -/
def putString (b : Board bus) (options : StringOptions) (index : UInt16) (buffer : UInt32)
    (length : Nat) (attr : UInt8) : Board bus :=
  if options.writeAttribute then
    Backend.fill ((Backend.copyIn b index buffer length).selectPlane .attributes) index attr
      (length + 1)
  else Backend.copyIn b index buffer length

theorem inside_scrollCells (b : Board bus) (r : Region) (direction : Direction) (count : Nat)
    (attr : UInt8) : b.Inside (b.scrollCells r direction count attr) := by
  have h₁ := inside_of_accesses (Region.accesses_scroll (.refl (b := b)) r direction count 0)
  have h₂ := inside_selectPlane (r.scroll b direction count 0) .attributes
  exact (h₁.trans h₂).trans
    (inside_of_accesses (Region.accesses_scroll .refl r direction count attr))

theorem inside_putString (b : Board bus) (options : StringOptions) (index : UInt16)
    (buffer : UInt32) (length : Nat) (attr : UInt8) :
    b.Inside (b.putString options index buffer length attr) := by
  have hcopy := inside_of_accesses (.copyIn (.refl (b := b)) index buffer length)
  unfold putString
  split
  · exact (hcopy.trans (inside_selectPlane _ _)).trans
      (inside_of_accesses (.fill .refl index attr (length + 1)))
  · exact hcopy

end Board

/-- The part of a page that a scroll moves. -/
def Screen.region (d : Screen) (columns rows : UInt8) : Region where
  columns := (Byte.least columns d.columns).toNat
  rows := (Byte.least rows d.rows).toNat
  stride := d.columns.toNat

theorem Screen.region_self (d : Screen) :
    d.region d.columns d.rows = ⟨d.columns.toNat, d.rows.toNat, d.columns.toNat⟩ := by
  simp only [region, Byte.toNat_least, Nat.min_self]

/-! ## Quiet operations -/

/-- Same settings and screen, and same registers but for the shape of the cursor. -/
structure Service.Quiet (s t : Service (Board bus)) : Prop where
  settings : t.settings = s.settings
  screen : t.screen = s.screen
  registers : s.machine.hardware.SameRegisters [0x0A, 0x0B] t.machine.hardware

namespace Service

theorem Quiet.refl (s : Service (Board bus)) : s.Quiet s := ⟨rfl, rfl, .refl _ _⟩

theorem Quiet.trans {s t u : Service (Board bus)} (h : s.Quiet t) (g : t.Quiet u) : s.Quiet u :=
  ⟨g.settings.trans h.settings, g.screen.trans h.screen, h.registers.trans g.registers⟩

variable (s : Service (Board bus))

theorem quiet_emit (e : Event) : s.Quiet (s.emit e) := ⟨rfl, rfl, .refl _ _⟩

theorem quiet_edit {v : View} {start : UInt16} {body : Machine (Board bus) → Machine (Board bus)}
    (work : Board bus → Board bus) (h : ∀ m, (body m).hardware = work m.hardware)
    (hwork : ∀ b, Board.Inside b (work b)) : s.Quiet (s.update (·.edit v start body)) :=
  ⟨rfl, rfl, (s.machine.sameRegisters_edit v start work h hwork).mono (List.nil_subset _)⟩

theorem quiet_inspect {α : Type} {v : View} {start : UInt16} {look : Board bus → α × Board bus}
    (hlook : ∀ b, Board.Inside b (look b).2) :
    s.Quiet (s.query (·.inspect v start (·.query look))).2 := by
  refine ⟨rfl, rfl, ?_⟩
  rw [machine_query, Machine.hardware_inspect_query]
  exact (Board.sameRegisters_within (hlook _)).mono (List.nil_subset _)

theorem quiet_setCursorShape (shape : CursorShape) : s.Quiet (s.setCursorShape shape) :=
  ⟨rfl, rfl, s.machine.sameRegisters_setCursorShape _ shape⟩

theorem quiet_cursorShape : s.Quiet s.cursorShape.2 :=
  ⟨rfl, rfl, (s.machine.sameRegisters_cursorShape _).mono (List.nil_subset _)⟩

theorem quiet_cursorPosition (page : UInt8) : s.Quiet (s.cursorPosition page).2 := by
  unfold cursorPosition
  split
  · exact .refl s
  · exact s.quiet_cursorShape

theorem hardware_scrollBody (region : Region) (direction : Direction) (count attr : UInt8)
    (m : Machine (Board bus)) :
    (((m.update (region.scroll · direction count.toNat 0)).selectPlane .attributes).update
      (region.scroll · direction count.toNat attr)).hardware =
        m.hardware.scrollCells region direction count.toNat attr := by
  rw [Machine.hardware_update, Machine.hardware_selectPlane, Machine.hardware_update]
  rfl

theorem hardware_putBody (options : StringOptions) (index : UInt16) (buffer : UInt32)
    (length : Nat) (attr : UInt8) (m : Machine (Board bus)) :
    (if options.writeAttribute then
      ((m.update (Backend.copyIn · index buffer length)).selectPlane .attributes).update
        (Backend.fill · index attr (length + 1))
    else m.update (Backend.copyIn · index buffer length)).hardware =
        m.hardware.putString options index buffer length attr := by
  unfold Board.putString
  split
  · rw [Machine.hardware_update, Machine.hardware_selectPlane, Machine.hardware_update]
  · rfl

/-- Scrolling a page is one bracket around the scrolls of characters and attributes. -/
theorem scrollPage_eq {count : UInt8} (h : count ≠ 0) (page : UInt8) (direction : Direction)
    (attr columns rows : UInt8) :
    s.scrollPage page direction count attr columns rows =
      s.update (·.edit (.plane .characters) (s.screen.pageStart page) fun m =>
        ((m.update ((s.screen.region columns rows).scroll · direction count.toNat 0)).selectPlane
          .attributes).update ((s.screen.region columns rows).scroll · direction count.toNat
            attr)) := by
  rw [scrollPage, if_neg h]
  rfl

theorem hardware_scrollPage {count : UInt8} (h : count ≠ 0) (page : UInt8)
    (direction : Direction) (attr columns rows : UInt8) :
    (s.scrollPage page direction count attr columns rows).machine.hardware =
      s.machine.hardware.within (.plane .characters) (s.screen.pageStart page)
        (·.scrollCells (s.screen.region columns rows) direction count.toNat attr) := by
  rw [s.scrollPage_eq h, machine_update]
  exact s.machine.hardware_edit _ _ _ (hardware_scrollBody _ direction count attr)

theorem quiet_scrollPage (page : UInt8) (direction : Direction)
    (count attr columns rows : UInt8) :
    s.Quiet (s.scrollPage page direction count attr columns rows) := by
  by_cases h : count = 0
  · rw [scrollPage, if_pos h]
    exact .refl s
  · rw [s.scrollPage_eq h]
    exact s.quiet_edit _ (hardware_scrollBody _ direction count attr)
      fun b => b.inside_scrollCells _ direction count.toNat attr

theorem writeCells_eq {page : UInt8} {p : Position} (hp : s.cursorOf page = .ok p) (c : Cell)
    (count : UInt16) :
    s.writeCells page c count = (.ok (), s.update (·.edit .cells (s.screen.pageStart page)
      (·.update (Backend.fillWords · (s.screen.cellIndex p * 2) c.toWord count.toNat)))) := by
  simp only [writeCells, hp]

theorem hardware_writeCells {page : UInt8} {p : Position} (hp : s.cursorOf page = .ok p)
    (c : Cell) (count : UInt16) :
    (s.writeCells page c count).2.machine.hardware =
      s.machine.hardware.within .cells (s.screen.pageStart page)
        (Backend.fillWords · (s.screen.cellIndex p * 2) c.toWord count.toNat) := by
  rw [s.writeCells_eq hp, machine_update, Machine.hardware_edit_update]

theorem quiet_writeCells (page : UInt8) (c : Cell) (count : UInt16) :
    s.Quiet (s.writeCells page c count).2 := by
  cases hp : s.cursorOf page with
  | error e =>
    simp only [writeCells, hp]
    exact .refl s
  | ok p =>
    rw [s.writeCells_eq hp]
    exact s.quiet_edit _ (fun _ => rfl) fun _ => Board.inside_of_accesses (.fillWords .refl _ _ _)

theorem writeCharacters_eq {page : UInt8} {p : Position} (hp : s.cursorOf page = .ok p)
    (chr : UInt8) (count : UInt16) :
    s.writeCharacters page chr count =
      (.ok (), s.update (·.edit (.plane .characters) (s.screen.pageStart page)
        (·.update (Backend.fill · (s.screen.cellIndex p) chr count.toNat)))) := by
  simp only [writeCharacters, hp]

theorem hardware_writeCharacters {page : UInt8} {p : Position} (hp : s.cursorOf page = .ok p)
    (chr : UInt8) (count : UInt16) :
    (s.writeCharacters page chr count).2.machine.hardware =
      s.machine.hardware.within (.plane .characters) (s.screen.pageStart page)
        (Backend.fill · (s.screen.cellIndex p) chr count.toNat) := by
  rw [s.writeCharacters_eq hp, machine_update, Machine.hardware_edit_update]

theorem quiet_writeCharacters (page chr : UInt8) (count : UInt16) :
    s.Quiet (s.writeCharacters page chr count).2 := by
  cases hp : s.cursorOf page with
  | error e =>
    simp only [writeCharacters, hp]
    exact .refl s
  | ok p =>
    rw [s.writeCharacters_eq hp]
    exact s.quiet_edit _ (fun _ => rfl) fun _ => Board.inside_of_accesses (.fill .refl _ _ _)

/-- Reads the word of a cell inside the cells view. -/
def lookCell (page : UInt8) (p : Position) : UInt16 × Service (Board bus) :=
  s.query fun m => m.inspect .cells (s.screen.pageStart page)
    (·.query (Backend.loadWord · (s.screen.cellIndex p * 2)))

theorem readCell_eq {page : UInt8} {p : Position} (hp : s.cursorOf page = .ok p) :
    s.readCell page = (.ok (.ofWord (s.lookCell page p).1), (s.lookCell page p).2) := by
  simp only [readCell, hp, lookCell]

theorem quiet_lookCell (page : UInt8) (p : Position) : s.Quiet (s.lookCell page p).2 :=
  s.quiet_inspect fun _ => Board.inside_of_accesses (.loadWord .refl _)

theorem quiet_readCell (page : UInt8) : s.Quiet (s.readCell page).2 := by
  cases hp : s.cursorOf page with
  | error e =>
    simp only [readCell, hp]
    exact .refl s
  | ok p =>
    rw [s.readCell_eq hp]
    exact s.quiet_lookCell page p

theorem quiet_stringLength (buffer : UInt32) : s.Quiet (s.stringLength buffer).2 := by
  have h : s.Quiet (s.query (·.query
      (Backend.findZero · buffer 0 s.settings.scanLimit.toNat))).2 :=
    ⟨rfl, rfl, (Board.sameRegisters_of_accesses (.findZero .refl _ _ _)).mono
      (List.nil_subset _)⟩
  unfold stringLength
  simp only
  split
  · exact h
  · exact h.trans (quiet_emit _ _)

/-- Writes a cell inside the cells view. -/
def putCell (page : UInt8) (p : Position) (c : Cell) : Service (Board bus) :=
  s.update fun m => m.edit .cells (s.screen.pageStart page) fun m =>
    m.update (Backend.storeWord · (s.screen.cellIndex p * 2) c.toWord)

theorem hardware_putCell (page : UInt8) (p : Position) (c : Cell) :
    (s.putCell page p c).machine.hardware =
      s.machine.hardware.within .cells (s.screen.pageStart page)
        (Backend.storeWord · (s.screen.cellIndex p * 2) c.toWord) := by
  rw [putCell, machine_update, Machine.hardware_edit_update]

theorem quiet_putCell (page : UInt8) (p : Position) (c : Cell) :
    s.Quiet (s.putCell page p c) :=
  s.quiet_edit (Backend.storeWord · _ _) (fun _ => rfl)
    fun _ => Board.inside_of_accesses (.storeWord .refl _ _)

/-- Teletype output writes a cell, and then moves on to the next cell, the next row, or a fresh
bottom row. -/
theorem teletype_eq {page : UInt8} {p : Position} (hp : s.cursorOf page = .ok p) (c : Cell) :
    s.teletype page c =
      if Byte.up p.x < s.screen.columns then
        (s.putCell page p c).setCursorPosition page (Byte.up p.x) p.y
      else if Byte.up p.y < s.screen.rows then
        (s.putCell page p c).setCursorPosition page 0 (p.y + 1)
      else
        ((s.putCell page p c).scrollPage page .up 1 0x07 s.screen.columns
          s.screen.rows).setCursorPosition page 0 (Byte.down s.screen.rows) := by
  simp only [teletype, hp]
  rfl

/-- Writes a string inside the view of a plane. -/
def putText (page : UInt8) (options : StringOptions) (index : UInt16) (buffer : UInt32)
    (length : UInt16) (attr : UInt8) : Service (Board bus) :=
  s.update fun m => m.edit (.plane .characters) (s.screen.pageStart page) fun m =>
    let m := m.update (Backend.copyIn · index buffer length.toNat)
    if options.writeAttribute then
      (m.selectPlane .attributes).update (Backend.fill · index attr (length.toNat + 1))
    else m

theorem hardware_putText (page : UInt8) (options : StringOptions) (index : UInt16)
    (buffer : UInt32) (length : UInt16) (attr : UInt8) :
    (s.putText page options index buffer length attr).machine.hardware =
      s.machine.hardware.within (.plane .characters) (s.screen.pageStart page)
        (·.putString options index buffer length.toNat attr) := by
  rw [putText, machine_update]
  exact s.machine.hardware_edit _ _ _ (hardware_putBody options index buffer length.toNat attr)

theorem quiet_putText (page : UInt8) (options : StringOptions) (index : UInt16)
    (buffer : UInt32) (length : UInt16) (attr : UInt8) :
    s.Quiet (s.putText page options index buffer length attr) :=
  s.quiet_edit (·.putString options index buffer length.toNat attr)
    (hardware_putBody options index buffer length.toNat attr)
    fun b => b.inside_putString options index buffer length.toNat attr

/-- Once a string is put into the page, what is left to do is moving the cursor at most. -/
theorem writeString_after {P : Service (Board bus) → Prop} {options : StringOptions}
    {buffer : UInt32} {attr x y : UInt8}
    (hput : let t := (s.stringLength buffer).2
      P (t.putText t.screen.activePage options (t.screen.cellIndex ⟨x, y⟩) buffer
        (s.stringLength buffer).1 attr))
    (hmove : ∀ {t} page x y, P t → P (t.setCursorPosition page x y).2) :
    P (s.writeString options buffer attr x y).2 := by
  unfold writeString
  generalize s.stringLength buffer = result at hput
  obtain ⟨length, t⟩ := result
  simp only
  split
  · exact hmove _ _ _ hput
  · exact hput

/-- What finding the length, writing text and moving the cursor keep, writing a string keeps. -/
theorem writeString_keeps {P : Service (Board bus) → Prop} {options : StringOptions}
    {buffer : UInt32} {attr : UInt8} (hlength : P (s.stringLength buffer).2)
    (hput : ∀ {t} page index length, P t → P (t.putText page options index buffer length attr))
    (hmove : ∀ {t} page x y, P t → P (t.setCursorPosition page x y).2) (x y : UInt8) :
    P (s.writeString options buffer attr x y).2 :=
  s.writeString_after (hput _ _ _ hlength) hmove

end Service

end VgaFirmware
