import VgaFirmware.Proofs.Operations
import VgaFirmware.Service.ModeSet

/-!
# Modes on the screen and on the board

What it means for a screen and for a board to be in a mode. Setting a mode brings a board into it
from any state in which the registers that no mode sets are as power-on left them (`Ready`).
-/

namespace VgaFirmware

variable {bus : BusWidth}

/-! ## Screens -/

/-- A screen in a mode: its geometry, a page that exists, and every cursor on the screen. -/
structure Screen.InMode (d : Screen) (spec : ModeSpec) : Prop where
  lookup : ModeSpec.lookup d.mode = .ok spec
  columns : d.columns = spec.columns
  rows : d.rows = spec.rows
  pageSize : d.pageSize = spec.pageSize
  activePage : d.activePage.toNat < 8
  cursor_x : ∀ page, (d.cursor page).x.toNat < d.columns.toNat
  cursor_y : ∀ page, (d.cursor page).y.toNat < d.rows.toNat

theorem Page.ofByte_eq_ok {b : UInt8} {page : Page} :
    Page.ofByte b = .ok page ↔ page.val = b.toNat := by
  unfold Page.ofByte
  split
  · next h =>
    constructor
    · intro e
      cases e
      rfl
    · intro e
      exact congrArg Except.ok (Fin.ext e.symm)
  · next h =>
    constructor
    · intro e
      cases e
    · intro e
      have := page.isLt
      omega

theorem ModeSpec.columns_pos (spec : ModeSpec) : 0 < spec.columns.toNat := by
  unfold ModeSpec.columns Layout.columns
  split <;> decide

theorem ModeSpec.rows_pos (spec : ModeSpec) : 0 < spec.rows.toNat := by
  unfold ModeSpec.rows Layout.rows
  split <;> decide

theorem ModeSpec.columns_mul_rows_le (spec : ModeSpec) :
    spec.columns.toNat * spec.rows.toNat ≤ 4800 := by
  unfold ModeSpec.columns ModeSpec.rows
  cases spec.layout <;> decide

/-- Pages begin at multiples of 2 KiB. -/
theorem ModeSpec.pageSize_mod {mode : UInt8} {spec : ModeSpec}
    (h : ModeSpec.lookup mode = .ok spec) : spec.pageSize.toNat % 0x800 = 0 := by
  have hall : ∀ spec ∈ ModeSpec.table, spec.pageSize.toNat % 0x800 = 0 := by decide
  exact hall spec (ModeSpec.lookup_eq_ok h).1

namespace Screen

variable {d : Screen} {spec : ModeSpec}

theorem cursor_setCursor (d : Screen) (page q : Page) (p : Position) :
    (d.setCursor page p).cursor q = if q = page then p else d.cursor q := by
  have hval : page.val = q.val ↔ q = page := by
    rw [Fin.ext_iff, eq_comm]
  refine (Vector.getElem_set page.isLt q.isLt).trans ?_
  exact if_congr hval rfl rfl

theorem setCursor_self (d : Screen) (page : Page) : d.setCursor page (d.cursor page) = d :=
  congrArg (fun cursors => { d with cursors }) (Vector.set_getElem_self page.isLt)

theorem setCursor_setCursor (d : Screen) (page : Page) (p q : Position) :
    (d.setCursor page p).setCursor page q = d.setCursor page q :=
  congrArg (fun cursors => { d with cursors }) (Vector.set_set p page.isLt)

theorem cursor_clampCursors (d : Screen) (q : Page) :
    d.clampCursors.cursor q = d.clamp (d.cursor q) :=
  Vector.getElem_map d.clamp q.isLt

theorem pageStart_zero (d : Screen) : d.pageStart 0 = 0 := by
  simp [pageStart]

theorem clamp_x_lt (d : Screen) (p : Position) (h : 0 < d.columns.toNat) :
    (d.clamp p).x.toNat < d.columns.toNat := by
  simp only [clamp, Byte.toNat_least, Byte.toNat_down]
  omega

theorem clamp_y_lt (d : Screen) (p : Position) (h : 0 < d.rows.toNat) :
    (d.clamp p).y.toNat < d.rows.toNat := by
  simp only [clamp, Byte.toNat_least, Byte.toNat_down]
  omega

theorem clamp_eq {p : Position} (hx : p.x.toNat < d.columns.toNat)
    (hy : p.y.toNat < d.rows.toNat) : d.clamp p = p := by
  have hx' : Byte.least p.x (Byte.down d.columns) = p.x := by
    rw [← UInt8.toNat_inj, Byte.toNat_least, Byte.toNat_down]
    omega
  have hy' : Byte.least p.y (Byte.down d.rows) = p.y := by
    rw [← UInt8.toNat_inj, Byte.toNat_least, Byte.toNat_down]
    omega
  rw [clamp, hx', hy']

theorem InMode.pageStart_mod (h : d.InMode spec) (page : UInt8) :
    (d.pageStart page).toNat % 0x800 = 0 := by
  have hsize := ModeSpec.pageSize_mod h.lookup
  rw [← h.pageSize] at hsize
  have hmul : (d.pageSize.toNat * page.toNat) % 0x800 = 0 := by
    rw [Nat.mul_mod, hsize, Nat.zero_mul, Nat.zero_mod]
  simp only [pageStart, UInt16.toNat_mul, UInt8.toNat_toUInt16]
  omega

theorem index_lt {columns rows x y : Nat} (hx : x < columns) (hy : y < rows) :
    columns * y + x < columns * rows := by
  calc columns * y + x
    _ < columns * (y + 1) := by
      rw [Nat.mul_succ]
      exact Nat.add_lt_add_left hx _
    _ ≤ columns * rows := Nat.mul_le_mul_left _ hy

/-- A position on the screen is at one of its cells. -/
theorem cellIndex_lt {p : Position} (hx : p.x.toNat < d.columns.toNat)
    (hy : p.y.toNat < d.rows.toNat) :
    (d.cellIndex p).toNat < d.columns.toNat * d.rows.toNat := by
  rw [toNat_cellIndex]
  exact index_lt hx hy

theorem InMode.size_le (h : d.InMode spec) : d.columns.toNat * d.rows.toNat ≤ 4800 := by
  rw [h.columns, h.rows]
  exact spec.columns_mul_rows_le

theorem InMode.setCursor (h : d.InMode spec) (page : Page) (p : Position) :
    (d.setCursor page (d.clamp p)).InMode spec where
  lookup := h.lookup
  columns := h.columns
  rows := h.rows
  pageSize := h.pageSize
  activePage := h.activePage
  cursor_x q := by
    rw [cursor_setCursor]
    split
    · exact d.clamp_x_lt p (h.columns ▸ spec.columns_pos)
    · exact h.cursor_x q
  cursor_y q := by
    rw [cursor_setCursor]
    split
    · exact d.clamp_y_lt p (h.rows ▸ spec.rows_pos)
    · exact h.cursor_y q

theorem InMode.showPage (h : d.InMode spec) {page : UInt8} (hp : page.toNat < 8) :
    { d with activePage := page }.InMode spec :=
  ⟨h.lookup, h.columns, h.rows, h.pageSize, hp, h.cursor_x, h.cursor_y⟩

theorem inMode_enter (d : Screen) (h : ModeSpec.lookup spec.mode = .ok spec) :
    (d.enter spec).InMode spec where
  lookup := h
  columns := rfl
  rows := rfl
  pageSize := rfl
  activePage := Nat.zero_lt_succ 7
  cursor_x q := by
    rw [enter, cursor_clampCursors]
    exact clamp_x_lt _ _ spec.columns_pos
  cursor_y q := by
    rw [enter, cursor_clampCursors]
    exact clamp_y_lt _ _ spec.rows_pos

end Screen

/-! ## Boards -/

namespace Board

/-- The window, and the registers that no mode sets. -/
structure Ready (window : UInt16) (b : Board bus) : Prop where
  window : b.window = window
  plain : b.Plain
  readMap : b.adapter.graphics.read 4 = 0
  protect : b.adapter.crtc.read 0x11 = 0

/-- The registers of a mode. -/
structure InMode (spec : ModeSpec) (b : Board bus) : Prop where
  mapMask : b.adapter.sequencer.read 2 = spec.mapMask.toByte
  memoryMode : b.adapter.sequencer.read 4 = spec.memoryMode.bits
  graphicsMode : b.adapter.graphics.read 5 = spec.graphicsMode.bits
  graphicsMisc : b.adapter.graphics.read 6 = spec.graphicsMisc.bits
  columns : b.adapter.crtc.read 0x01 = spec.columns
  rows : b.adapter.crtc.read 0x12 = spec.rows

variable {window : UInt16} {spec : ModeSpec} {moved : List UInt8} {b c : Board bus}

theorem Ready.unprotected (h : b.Ready window) : b.adapter.Unprotected := by
  rw [Adapter.Unprotected, h.protect]
  rfl

namespace SameRegisters

theorem plain (h : SameRegisters moved b c) (hb : b.Plain) : c.Plain where
  setReset := (h.graphics 0).trans hb.setReset
  enableSetReset := (h.graphics 1).trans hb.enableSetReset
  rotate := (h.graphics 3).trans hb.rotate
  bitMask := (h.graphics 8).trans hb.bitMask

theorem ready (h : SameRegisters moved b c) (hb : b.Ready window) (hm : 0x11 ∉ moved) :
    c.Ready window where
  window := h.window.trans hb.window
  plain := h.plain hb.plain
  readMap := (h.graphics 4).trans hb.readMap
  protect := (h.crtc _ hm).trans hb.protect

theorem inMode (h : SameRegisters moved b c) (hb : b.InMode spec) (h₁ : 0x01 ∉ moved)
    (h₂ : 0x12 ∉ moved) : c.InMode spec where
  mapMask := (h.sequencer 2).trans hb.mapMask
  memoryMode := (h.sequencer 4).trans hb.memoryMode
  graphicsMode := (h.graphics 5).trans hb.graphicsMode
  graphicsMisc := (h.graphics 6).trans hb.graphicsMisc
  columns := (h.crtc _ h₁).trans hb.columns
  rows := (h.crtc _ h₂).trans hb.rows

theorem startAddress (h : SameRegisters moved b c) (h₁ : 0x0C ∉ moved) (h₂ : 0x0D ∉ moved) :
    c.adapter.startAddress = b.adapter.startAddress := by
  rw [Adapter.startAddress, h.crtc _ h₁, h.crtc _ h₂, Adapter.startAddress]

theorem cursorLocation (h : SameRegisters moved b c) (h₁ : 0x0E ∉ moved) (h₂ : 0x0F ∉ moved) :
    c.adapter.cursorLocation = b.adapter.cursorLocation := by
  rw [Adapter.cursorLocation, h.crtc _ h₁, h.crtc _ h₂, Adapter.cursorLocation]

end SameRegisters

end Board

/-! ## Programming a mode -/

namespace Adapter

variable {a : Adapter}

theorem writeIndexed_sequencer (a : Adapter) (i v : UInt8) :
    a.writeIndexed i v .sequencer = { a with sequencer := (a.sequencer.write i v).select i } := rfl

theorem writeIndexed_graphics (a : Adapter) (i v : UInt8) :
    a.writeIndexed i v .graphics = { a with graphics := (a.graphics.write i v).select i } := rfl

theorem Unprotected.writeIndexed_crtc (h : a.Unprotected) (base : CrtcBase) (i v : UInt8) :
    a.writeIndexed i v (.crtc base) = { a with crtc := (a.crtc.write i v).select i } := by
  have hcrtc : Unprotected { a with crtc := a.crtc.select i } := h
  rw [writeIndexed, writeCrtc_eq, hcrtc.crtc_writeCrtc]
  rfl

theorem Unprotected.write (h : a.Unprotected) {i : UInt8} (hi : 0x11 ≠ i) (v : UInt8) :
    Unprotected { a with crtc := (a.crtc.write i v).select i } := by
  have hread := a.crtc.read_write_of_ne v hi
  rw [Unprotected, RegisterBank.read_select, hread]
  exact h

theorem Unprotected.writeTiming (h : a.Unprotected) (base : CrtcBase) (columns rows : UInt8) :
    (((a.writeIndexed 0x01 columns (.crtc base)).writeIndexed 0x12 rows
      (.crtc base)).writeIndexed 0x0C 0 (.crtc base)).writeIndexed 0x0D 0 (.crtc base) =
        { a with
          crtc := ((((a.crtc.write 0x01 columns).write 0x12 rows).write 0x0C 0).write 0x0D
            0).select 0x0D } := by
  have h₁ := h.write (i := 0x01) (by decide) columns
  have h₂ := h₁.write (i := 0x12) (by decide) rows
  have h₃ := h₂.write (i := 0x0C) (by decide) 0
  rw [h.writeIndexed_crtc, h₁.writeIndexed_crtc, h₂.writeIndexed_crtc, h₃.writeIndexed_crtc]
  simp only [RegisterBank.write_select, RegisterBank.select_select]

/-- Writes the registers of a mode. -/
def setMode (a : Adapter) (spec : ModeSpec) : Adapter :=
  let sequencer := a.sequencer.write 2 spec.mapMask.toByte
  let sequencer :=
    match spec.characterMap with
    | some map => sequencer.write 3 map
    | none => sequencer
  { a with
    sequencer := (sequencer.write 4 spec.memoryMode.bits).select 4
    graphics :=
      ((a.graphics.write 5 spec.graphicsMode.bits).write 6 spec.graphicsMisc.bits).select 6
    crtc :=
      ((((a.crtc.write 0x01 spec.columns).write 0x12 spec.rows).write 0x0C 0).write 0x0D
        0).select 0x0D }

/-- Shows the cursor at a cell. -/
def showCursor (a : Adapter) (index : UInt16) : Adapter :=
  { a with
    crtc := ((a.crtc.write 0x0E (Word.high index)).write 0x0F (Word.low index)).select 0x0F }

end Adapter

/-- Storing the glyphs makes memory accesses and nothing else. -/
theorem Font.accesses_store {B : Type} [Backend B] (b : B) : Backend.Accesses b (store b) :=
  Backend.Accesses.refl.foldl _ _ fun _ h => h.foldl _ _ fun _ g => g.store _ _

namespace Machine

variable (m : Machine (Board bus)) {window : UInt16} {spec : ModeSpec}

theorem hardware_programMode (h : m.hardware.adapter.Unprotected) (base : CrtcBase)
    (spec : ModeSpec) :
    (m.programMode base spec).hardware = m.hardware.updateAdapter (·.setMode spec) := by
  rcases hmap : spec.characterMap with _ | map
  all_goals
    simp only [programMode, hardware_writeReg, hmap, Board.updateAdapter,
      Adapter.writeIndexed_sequencer, Adapter.writeIndexed_graphics]
    rw [Adapter.Unprotected.writeTiming]
    · simp only [Adapter.setMode, hmap, RegisterBank.write_select, RegisterBank.select_select]
    · exact h

/-- The cursor registers are never protected. -/
theorem hardware_setCursorLocation (h : m.hardware.adapter.Unprotected) (base : CrtcBase)
    (index : UInt16) :
    (m.setCursorLocation base index).hardware =
      m.hardware.updateAdapter (·.showCursor index) := by
  have hhigh : (0x11 : UInt8) ≠ 0x0E := by decide
  rw [setCursorLocation, writeRegPair, hardware_writeRegSplit, hardware_writeRegSplit]
  simp only [Board.updateAdapter, h.writeIndexed_crtc, (h.write hhigh _).writeIndexed_crtc]
  rfl

theorem sameRegisters_loadFont : m.hardware.SameRegisters [] m.loadFont.hardware :=
  m.sameRegisters_edit _ _ Font.store (fun _ => rfl) fun b =>
    Board.inside_of_accesses (Font.accesses_store b)

theorem sameRegisters_clearPlanes : m.hardware.SameRegisters [] m.clearPlanes.hardware :=
  m.sameRegisters_edit _ _ (Backend.fill · 0 0 0x10000) (hardware_update · _) fun _ =>
    Board.inside_of_accesses (.fill .refl 0 0 0x10000)

/-- Blanking the planes and loading the glyphs is quiet. -/
theorem sameRegisters_activate (settings : Settings) (spec : ModeSpec) :
    (m.programMode settings.crtc spec).hardware.SameRegisters []
      (m.activate settings spec).hardware := by
  unfold activate
  split <;> split
  · exact (sameRegisters_clearPlanes _).trans (sameRegisters_loadFont _)
  · exact sameRegisters_clearPlanes _
  · exact sameRegisters_loadFont _
  · exact .refl _ _

end Machine

namespace Adapter

variable (a : Adapter) (spec : ModeSpec)

theorem graphics_setMode_read {i : UInt8} (h₅ : i ≠ 5) (h₆ : i ≠ 6) :
    (a.setMode spec).graphics.read i = a.graphics.read i := by
  simp [setMode, RegisterBank.read_write, h₅, h₆]

theorem crtc_setMode_read {i : UInt8} (h : i ∉ [0x01, 0x12, 0x0C, 0x0D]) :
    (a.setMode spec).crtc.read i = a.crtc.read i := by
  simp only [List.mem_cons, List.not_mem_nil, or_false, not_or] at h
  obtain ⟨h₁, h₂, h₃, h₄⟩ := h
  simp [setMode, RegisterBank.read_write, h₁, h₂, h₃, h₄]

theorem startAddress_setMode : (a.setMode spec).startAddress = 0 := by
  simp [setMode, startAddress, RegisterBank.read_write]
  rfl

end Adapter

namespace Board

variable {window : UInt16} {b : Board bus}

theorem Plain.setMode (h : b.Plain) (spec : ModeSpec) :
    (b.updateAdapter (·.setMode spec)).Plain where
  setReset := (b.adapter.graphics_setMode_read spec (by decide) (by decide)).trans h.setReset
  enableSetReset :=
    (b.adapter.graphics_setMode_read spec (by decide) (by decide)).trans h.enableSetReset
  rotate := (b.adapter.graphics_setMode_read spec (by decide) (by decide)).trans h.rotate
  bitMask := (b.adapter.graphics_setMode_read spec (by decide) (by decide)).trans h.bitMask

/-- After a mode is set its registers are. -/
theorem inMode_setMode (b : Board bus) (spec : ModeSpec) :
    (b.updateAdapter (·.setMode spec)).InMode spec := by
  refine ⟨?_, ?_, ?_, ?_, ?_, ?_⟩
  · cases hmap : spec.characterMap <;> simp [Adapter.setMode, RegisterBank.read_write, hmap]
  · simp [Adapter.setMode]
  · simp [Adapter.setMode, RegisterBank.read_write]
  · simp [Adapter.setMode]
  · simp [Adapter.setMode, RegisterBank.read_write]
  · simp [Adapter.setMode, RegisterBank.read_write]

theorem Ready.setMode (h : b.Ready window) (spec : ModeSpec) :
    (b.updateAdapter (·.setMode spec)).Ready window where
  window := h.window
  plain := h.plain.setMode spec
  readMap := (b.adapter.graphics_setMode_read spec (by decide) (by decide)).trans h.readMap
  protect := (b.adapter.crtc_setMode_read spec (by decide)).trans h.protect

end Board

end VgaFirmware
