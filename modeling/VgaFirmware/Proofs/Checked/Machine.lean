import VgaFirmware.Proofs.Checked.Board
import VgaFirmware.Service.PowerOn

/-!
# Work on a machine, checked

What the service does to a machine, on the numbers of a board: registers behind two ports, views
that are opened and closed, and the modes with their glyphs. A value port is the sum of an index
port and one, and the offset of a line of a glyph is a word. The record of a machine is left out.
-/

namespace VgaFirmware

/-- The board of a machine with its numbers as they are kept. -/
def Machine.raw (m : Machine (Board .word)) : RawBoard := m.hardware.raw

namespace RawBoard

/-! ## Registers -/

def valuePort (c : Controller) : Work RawBoard UInt16 := Checked.word (c.indexPort.toNat + 1)

def writeReg (c : Controller) (index v : UInt8) : Work RawBoard Unit :=
  portOutWord c.indexPort (Word.ofBytes index v)

def writeRegSplit (c : Controller) (index v : UInt8) : Work RawBoard Unit := do
  portOut c.indexPort index
  let port ← valuePort c
  portOut port v

def readReg (c : Controller) (index : UInt8) : Work RawBoard UInt8 := do
  portOut c.indexPort index
  let port ← valuePort c
  portIn port

def writeAttribute (index v : UInt8) : Work RawBoard Unit := do
  portOut 0x3C0 index
  portOut 0x3C0 v

def pushColour (c : Colour) : Work RawBoard Unit := do
  portOut 0x3C9 c.red
  portOut 0x3C9 c.green
  portOut 0x3C9 c.blue

def writeColours (first : UInt8) (colours : List Colour) : Work RawBoard Unit := do
  portOut 0x3C8 first
  forM colours pushColour

def setCursorShape (base : CrtcBase) (shape : CursorShape) : Work RawBoard Unit := do
  writeRegSplit (.crtc base) 0x0A shape.first
  writeRegSplit (.crtc base) 0x0B (shape.last &&& 0x1F)

def cursorShape (base : CrtcBase) : Work RawBoard CursorShape := do
  let first ← readReg (.crtc base) 0x0A
  let last ← readReg (.crtc base) 0x0B
  return .of (first &&& 0x1F) last

def setStartAddress (base : CrtcBase) (start : UInt16) : Work RawBoard Unit := do
  writeRegSplit (.crtc base) 0x0C (Word.high start)
  writeRegSplit (.crtc base) 0x0D (Word.low start)

def setCursorLocation (base : CrtcBase) (index : UInt16) : Work RawBoard Unit := do
  writeRegSplit (.crtc base) 0x0E (Word.high index)
  writeRegSplit (.crtc base) 0x0F (Word.low index)

/-! ## Views -/

def capture : Work RawBoard ViewRegisters := do
  let mapMask ← readReg .sequencer 2
  let memoryMode ← readReg .sequencer 4
  let readMap ← readReg .graphics 4
  let graphicsMode ← readReg .graphics 5
  let graphicsMisc ← readReg .graphics 6
  return ⟨mapMask, memoryMode, readMap, graphicsMode, graphicsMisc⟩

def program (r : ViewRegisters) : Work RawBoard Unit := do
  writeReg .sequencer 2 r.mapMask
  writeReg .sequencer 4 r.memoryMode
  writeReg .graphics 4 r.readMap
  writeReg .graphics 5 r.graphicsMode
  writeReg .graphics 6 r.graphicsMisc

def restore (r : ViewRegisters) : Work RawBoard Unit := do
  writeRegSplit .sequencer 2 r.mapMask
  writeRegSplit .sequencer 4 r.memoryMode
  writeRegSplit .graphics 4 r.readMap
  writeRegSplit .graphics 5 r.graphicsMode
  writeRegSplit .graphics 6 r.graphicsMisc

def openView (v : View) (start : UInt16) : Work RawBoard Saved := do
  let registers ← capture
  let b ← get
  program (v.registers ⟨registers.graphicsMisc⟩)
  setWindow (v.segment start)
  return ⟨registers, b.window⟩

def closeView (s : Saved) : Work RawBoard Unit := do
  setWindow s.window
  restore s.registers

def selectPlane (p : Plane) : Work RawBoard Unit := do
  writeReg .sequencer 2 (PlaneSet.single p).toByte
  writeReg .graphics 4 (UInt8.ofNat p.val)

/-- Works inside a view. -/
def inView {α : Type} (v : View) (start : UInt16) (body : Work RawBoard α) : Work RawBoard α := do
  let saved ← openView v start
  let a ← body
  closeView saved
  return a

/-! ## Modes -/

/-- Stores a line of a glyph. -/
def storeLine (glyph : Nat) (base : UInt16) (row : Nat) : Work RawBoard Unit := do
  let off ← Checked.word (base.toNat + row)
  store off (Font.line glyph row)

def storeGlyph (glyph : Nat) : Work RawBoard Unit := do
  let base ← Checked.word (glyph * Font.stride)
  forM (List.range Font.height) (storeLine glyph base)

def loadFont : Work RawBoard Unit :=
  inView (.plane .glyphs) 0 (forM (List.range Font.count) storeGlyph)

def clearPlanes : Work RawBoard Unit := inView (.planes .all 0) 0 (fill 0 0 0x10000)

def selectMap : Option UInt8 → Work RawBoard Unit
  | some map => writeReg .sequencer 3 map
  | none => return ()

def programMode (base : CrtcBase) (spec : ModeSpec) : Work RawBoard Unit := do
  writeReg .sequencer 2 spec.mapMask.toByte
  selectMap spec.characterMap
  writeReg .sequencer 4 spec.memoryMode.bits
  writeReg .graphics 5 spec.graphicsMode.bits
  writeReg .graphics 6 spec.graphicsMisc.bits
  writeReg (.crtc base) 0x01 spec.columns
  writeReg (.crtc base) 0x12 spec.rows
  writeReg (.crtc base) 0x0C 0
  writeReg (.crtc base) 0x0D 0

def onlyIf (c : Bool) (x : Work RawBoard Unit) : Work RawBoard Unit := if c then x else return ()

def activate (settings : Settings) (spec : ModeSpec) : Work RawBoard Unit := do
  programMode settings.crtc spec
  onlyIf settings.clearPlanes clearPlanes
  onlyIf (spec.isText && settings.reloadFont) loadFont

def resetAttributes (base : CrtcBase) : Work RawBoard Unit := do
  let _ ← portIn base.statusPort
  forM (List.range 16) fun i => writeAttribute (UInt8.ofNat i) (UInt8.ofNat i)
  writeAttribute 0x10 0x08
  portOut 0x3C0 0x20

def bringUp (settings : Settings) : Work RawBoard Unit := do
  let base := settings.crtc
  portOut 0x3C2 base.miscOutput
  writeReg .graphics 8 0xFF
  writeReg .graphics 0 0x00
  writeReg .graphics 1 0x00
  writeReg .graphics 3 0x00
  loadFont
  writeReg (.crtc base) 0x09 0x07
  setCursorShape base settings.cursorShape
  resetAttributes base
  writeColours 0 Palette.initial

/-! ## Registers and views come to the same -/

variable (m : Machine (Board .word))

theorem readPort_raw (port : UInt16) :
    (portIn port).run m.raw = .ok ((m.readPort port).1, (m.readPort port).2.raw) :=
  portIn_raw m.hardware port

theorem writePort_raw (port : UInt16) (v : UInt8) :
    (portOut port v).run m.raw = .ok ((), (m.writePort port v).raw) :=
  portOut_raw m.hardware port v

theorem valuePort_run (c : Controller) (b : RawBoard) :
    (valuePort c).run b = .ok (c.valuePort, b) := by
  have hindex : c.indexPort.toNat + 1 < 0x10000 := by
    cases c with
    | sequencer | graphics => decide
    | crtc base => cases base <;> decide
  have hword : Checked.word (c.indexPort.toNat + 1) =
      .ok (UInt16.ofNat (c.indexPort.toNat + 1)) := Checked.word_eq (by omega) hindex
  have hport : UInt16.ofNat (c.indexPort.toNat + 1) = c.valuePort := by
    rw [UInt16.ofNat_add, UInt16.ofNat_toNat]
    rfl
  rw [valuePort, Work.run_lift hword, hport]

theorem writeReg_raw (c : Controller) (index v : UInt8) :
    (writeReg c index v).run m.raw = .ok ((), (m.writeReg c index v).raw) :=
  portOutWord_raw m.hardware c.indexPort (Word.ofBytes index v)

theorem writeRegSplit_raw (c : Controller) (index v : UInt8) :
    (writeRegSplit c index v).run m.raw = .ok ((), (m.writeRegSplit c index v).raw) := by
  rw [writeRegSplit, Work.run_bind (writePort_raw m _ _), Work.run_bind (valuePort_run c _),
    writePort_raw, Machine.writeRegSplit]

theorem readReg_raw (c : Controller) (index : UInt8) :
    (readReg c index).run m.raw = .ok ((m.readReg c index).1, (m.readReg c index).2.raw) := by
  rw [readReg, Work.run_bind (writePort_raw m _ _), Work.run_bind (valuePort_run c _),
    readPort_raw, Machine.readReg]

theorem writeAttribute_raw (index v : UInt8) :
    (writeAttribute index v).run m.raw = .ok ((), (m.writeAttribute index v).raw) := by
  rw [writeAttribute, Work.run_bind (writePort_raw m _ _), writePort_raw, Machine.writeAttribute]

theorem pushColour_raw (c : Colour) :
    (pushColour c).run m.raw = .ok ((), (m.pushColour c).raw) := by
  rw [pushColour, Work.run_bind (writePort_raw m _ _), Work.run_bind (writePort_raw _ _ _),
    writePort_raw, Machine.pushColour]

theorem writeColours_raw (first : UInt8) (colours : List Colour) :
    (writeColours first colours).run m.raw = .ok ((), (m.writeColours first colours).raw) := by
  rw [writeColours, Work.run_bind (writePort_raw m _ _)]
  exact Work.run_forM pushColour Machine.pushColour Machine.raw colours
    (fun c _ m => pushColour_raw m c) _

theorem setCursorShape_raw (base : CrtcBase) (shape : CursorShape) :
    (setCursorShape base shape).run m.raw = .ok ((), (m.setCursorShape base shape).raw) := by
  rw [setCursorShape, Work.run_bind (writeRegSplit_raw m _ _ _), writeRegSplit_raw,
    Machine.setCursorShape]

theorem cursorShape_raw (base : CrtcBase) :
    (cursorShape base).run m.raw = .ok ((m.cursorShape base).1, (m.cursorShape base).2.raw) := by
  rw [cursorShape, Work.run_bind (readReg_raw m _ _), Work.run_bind (readReg_raw _ _ _)]
  rfl

theorem setStartAddress_raw (base : CrtcBase) (start : UInt16) :
    (setStartAddress base start).run m.raw = .ok ((), (m.setStartAddress base start).raw) := by
  rw [setStartAddress, Work.run_bind (writeRegSplit_raw m _ _ _), writeRegSplit_raw]
  rfl

theorem setCursorLocation_raw (base : CrtcBase) (index : UInt16) :
    (setCursorLocation base index).run m.raw = .ok ((), (m.setCursorLocation base index).raw) := by
  rw [setCursorLocation, Work.run_bind (writeRegSplit_raw m _ _ _), writeRegSplit_raw]
  rfl

theorem capture_raw : capture.run m.raw = .ok (m.capture.1, m.capture.2.raw) := by
  rw [capture, Work.run_bind (readReg_raw m _ _), Work.run_bind (readReg_raw _ _ _),
    Work.run_bind (readReg_raw _ _ _), Work.run_bind (readReg_raw _ _ _),
    Work.run_bind (readReg_raw _ _ _)]
  rfl

theorem program_raw (r : ViewRegisters) : (program r).run m.raw = .ok ((), (m.program r).raw) := by
  rw [program, Work.run_bind (writeReg_raw m _ _ _), Work.run_bind (writeReg_raw _ _ _ _),
    Work.run_bind (writeReg_raw _ _ _ _), Work.run_bind (writeReg_raw _ _ _ _), writeReg_raw,
    Machine.program]

theorem restore_raw (r : ViewRegisters) : (restore r).run m.raw = .ok ((), (m.restore r).raw) := by
  rw [restore, Work.run_bind (writeRegSplit_raw m _ _ _),
    Work.run_bind (writeRegSplit_raw _ _ _ _), Work.run_bind (writeRegSplit_raw _ _ _ _),
    Work.run_bind (writeRegSplit_raw _ _ _ _), writeRegSplit_raw, Machine.restore]

theorem moveWindow_raw (segment : UInt16) :
    (setWindow segment).run m.raw = .ok ((), (m.setWindow segment).raw) :=
  setWindow_raw m.hardware segment

theorem openView_raw (v : View) (start : UInt16) :
    (openView v start).run m.raw = .ok ((m.openView v start).1, (m.openView v start).2.raw) := by
  have hget (b : RawBoard) : (get : Work RawBoard RawBoard).run b = .ok (b, b) := rfl
  rw [openView, Work.run_bind (capture_raw m), Work.run_bind (hget _),
    Work.run_bind (program_raw _ _), Work.run_bind (moveWindow_raw _ _)]
  rfl

theorem closeView_raw (s : Saved) :
    (closeView s).run m.raw = .ok ((), (m.closeView s).raw) := by
  rw [closeView, Work.run_bind (moveWindow_raw m _), restore_raw]
  rfl

theorem selectPlane_raw (p : Plane) :
    (selectPlane p).run m.raw = .ok ((), (m.selectPlane p).raw) := by
  rw [selectPlane, Work.run_bind (writeReg_raw m _ _ _), writeReg_raw, Machine.selectPlane]

/-- Work in a view does not stop if it does not stop on any machine. -/
theorem inspect_raw {α : Type} (v : View) (start : UInt16) {body : Work RawBoard α}
    {f : Machine (Board .word) → α × Machine (Board .word)}
    (h : ∀ m, body.run (Machine.raw m) = .ok ((f m).1, (f m).2.raw)) :
    (inView v start body).run m.raw =
      .ok ((m.inspect v start f).1, (m.inspect v start f).2.raw) := by
  rw [inView, Work.run_bind (openView_raw m v start), Work.run_bind (h _),
    Work.run_bind (closeView_raw _ _)]
  rfl

theorem edit_raw (v : View) (start : UInt16) {body : Work RawBoard Unit}
    {f : Machine (Board .word) → Machine (Board .word)}
    (h : ∀ m, body.run (Machine.raw m) = .ok ((), (f m).raw)) :
    (inView v start body).run m.raw = .ok ((), (m.edit v start f).raw) := by
  rw [inView, Work.run_bind (openView_raw m v start), Work.run_bind (h _),
    Work.run_bind (closeView_raw _ _)]
  rfl

/-! ## Modes come to the same -/

section Glyphs

variable (b : Board .word)

theorem storeLine_raw {glyph row : Nat} (hglyph : glyph < Font.count) (hrow : row < Font.height) :
    (storeLine glyph (UInt16.ofNat (glyph * Font.stride)) row).run b.raw =
      .ok ((), (Backend.store b (UInt16.ofNat (Font.stride * glyph + row))
        (Font.line glyph row)).raw) := by
  rw [Font.count] at hglyph
  rw [Font.height] at hrow
  have hbase : (UInt16.ofNat (glyph * Font.stride)).toNat = Font.stride * glyph := by
    rw [UInt16.toNat_ofNat', Font.stride]
    omega
  have hoff : Checked.word ((UInt16.ofNat (glyph * Font.stride)).toNat + row) =
      .ok (UInt16.ofNat (Font.stride * glyph + row)) :=
    Checked.word_eq (by omega) (by rw [Font.stride]; omega)
  rw [storeLine, Work.run_bind (Work.run_lift hoff _), store_raw]

theorem storeGlyph_raw {glyph : Nat} (hglyph : glyph < Font.count) :
    (storeGlyph glyph).run b.raw =
      .ok ((), ((List.range Font.height).foldl
        (fun b row => Backend.store b (UInt16.ofNat (Font.stride * glyph + row))
          (Font.line glyph row)) b).raw) := by
  have hsmall : glyph * Font.stride < 0x10000 := by
    rw [Font.count] at hglyph
    rw [Font.stride]
    omega
  have hbase : Checked.word (glyph * Font.stride) = .ok (UInt16.ofNat (glyph * Font.stride)) :=
    Checked.word_eq (by omega) hsmall
  rw [storeGlyph, Work.run_bind (Work.run_lift hbase _)]
  exact Work.run_forM _ _ Board.raw (List.range Font.height)
    (fun row hrow b => storeLine_raw b hglyph (List.mem_range.mp hrow)) b

theorem storeFont_raw :
    (forM (List.range Font.count) storeGlyph).run b.raw = .ok ((), (Font.store b).raw) :=
  Work.run_forM storeGlyph _ Board.raw (List.range Font.count)
    (fun _ hglyph b => storeGlyph_raw b (List.mem_range.mp hglyph)) b

end Glyphs

theorem loadFont_raw : loadFont.run m.raw = .ok ((), m.loadFont.raw) :=
  edit_raw m _ 0 fun m => storeFont_raw m.hardware

theorem update_fill_raw (dst : UInt16) (v : UInt8) (count : Nat) :
    (fill dst v count).run m.raw = .ok ((), (m.update (Backend.fill · dst v count)).raw) :=
  fill_raw m.hardware dst v count

theorem clearPlanes_raw : clearPlanes.run m.raw = .ok ((), m.clearPlanes.raw) := by
  rw [clearPlanes, Machine.clearPlanes, edit_raw m _ 0 fun m => update_fill_raw m 0 0 0x10000]

theorem programMode_raw (base : CrtcBase) (spec : ModeSpec) :
    (programMode base spec).run m.raw = .ok ((), (m.programMode base spec).raw) := by
  have hmap (m : Machine (Board .word)) : (selectMap spec.characterMap).run m.raw =
      .ok ((), (match spec.characterMap with
        | some map => m.writeReg .sequencer 3 map
        | none => m).raw) := by
    cases spec.characterMap with
    | some map => exact writeReg_raw m .sequencer 3 map
    | none => rfl
  rw [programMode, Work.run_bind (writeReg_raw m _ _ _), Work.run_bind (hmap _),
    Work.run_bind (writeReg_raw _ _ _ _), Work.run_bind (writeReg_raw _ _ _ _),
    Work.run_bind (writeReg_raw _ _ _ _), Work.run_bind (writeReg_raw _ _ _ _),
    Work.run_bind (writeReg_raw _ _ _ _), Work.run_bind (writeReg_raw _ _ _ _), writeReg_raw]
  rfl

/-- What is done or left out does not stop if it does not stop when it is done. -/
theorem onlyIf_raw (c : Bool) {x : Work RawBoard Unit}
    {f : Machine (Board .word) → Machine (Board .word)}
    (h : ∀ m, x.run (Machine.raw m) = .ok ((), (f m).raw)) :
    (onlyIf c x).run m.raw = .ok ((), (if c then f m else m).raw) := by
  cases c with
  | true => exact h m
  | false => rfl

theorem activate_raw (settings : Settings) (spec : ModeSpec) :
    (activate settings spec).run m.raw = .ok ((), (m.activate settings spec).raw) := by
  rw [activate, Work.run_bind (programMode_raw m _ _),
    Work.run_bind (onlyIf_raw _ settings.clearPlanes clearPlanes_raw),
    onlyIf_raw _ (spec.isText && settings.reloadFont) loadFont_raw]
  rfl

theorem resetAttributes_raw (base : CrtcBase) :
    (resetAttributes base).run m.raw = .ok ((), (m.resetAttributes base).raw) := by
  have hloop (m : Machine (Board .word)) := Work.run_forM
    (fun i => writeAttribute (UInt8.ofNat i) (UInt8.ofNat i))
    (fun m i => m.writeAttribute (UInt8.ofNat i) (UInt8.ofNat i)) Machine.raw (List.range 16)
    (fun i _ m => writeAttribute_raw m _ _) m
  rw [resetAttributes, Work.run_bind (readPort_raw m _), Work.run_bind (hloop _),
    Work.run_bind (writeAttribute_raw _ _ _), writePort_raw]
  rfl

theorem bringUp_raw (settings : Settings) :
    (bringUp settings).run m.raw = .ok ((), (m.bringUp settings).raw) := by
  rw [bringUp, Work.run_bind (writePort_raw m _ _), Work.run_bind (writeReg_raw _ _ _ _),
    Work.run_bind (writeReg_raw _ _ _ _), Work.run_bind (writeReg_raw _ _ _ _),
    Work.run_bind (writeReg_raw _ _ _ _), Work.run_bind (loadFont_raw _),
    Work.run_bind (writeReg_raw _ _ _ _), Work.run_bind (setCursorShape_raw _ _ _),
    Work.run_bind (resetAttributes_raw _ _), writeColours_raw]
  rfl

end RawBoard

end VgaFirmware
