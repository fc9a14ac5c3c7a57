import VgaFirmware.Proofs.CallerMemory
import VgaFirmware.Proofs.Refusals
import VgaFirmware.Proofs.Usable

/-!
# The cursor behind a string

A string that moves the cursor should leave it on the cell after its last character, or on the
bottom row in that column if it runs past the screen. The index of that cell is formed as a word,
and its row as a byte, before the row is cut to the screen. A position is found back from its index,
but an index from its position only if its row fits a byte (`Screen.indices_decompose`). So the
cursor arrives there exactly if the index fits a word, and the low byte of its row is the row itself
or cut as well (`Started.writeString_advances_iff`).
-/

namespace VgaFirmware

/-- When a row survives that it wraps as a byte before it is cut to the bottom one. -/
theorem min_mod_eq_iff {row bottom : Nat} (hbottom : bottom < 256) :
    min (row % 256) bottom = min row bottom ↔ row < 256 ∨ bottom ≤ row % 256 := by
  omega

/-- When column and row of an index survive that it wraps as a word, too. -/
theorem index_survives_iff {columns last bottom : Nat} (hcolumns : columns = 40 ∨ columns = 80)
    (hlast : last < 131072) (hbottom : bottom < 256) :
    last % 65536 % columns = last % columns ∧
        min (last % 65536 / columns % 256) bottom = min (last / columns) bottom ↔
      last < 65536 ∧ (last / columns < 256 ∨ bottom ≤ last / columns % 256) := by
  by_cases hword : last < 65536
  · rw [Nat.mod_eq_of_lt hword, ← min_mod_eq_iff hbottom]
    simp only [hword, true_and]
  · -- no number of columns divides the size of a word, so the column is lost
    have hcolumn : last % 65536 % columns ≠ last % columns := by
      rcases hcolumns with rfl | rfl <;> omega
    simp only [hcolumn, hword, false_and]

namespace Screen

variable {d : Screen} {spec : ModeSpec}

/-- The column of an index, and the low byte of its row. -/
theorem toNat_positionOf (h : 0 < d.columns.toNat) (index : UInt16) :
    (d.positionOf index).x.toNat = index.toNat % d.columns.toNat ∧
      (d.positionOf index).y.toNat = index.toNat / d.columns.toNat % 256 := by
  have hcolumns : d.columns ≠ 0 := by
    rintro e
    rw [e] at h
    exact absurd h (by decide)
  have hmod : index.toNat % d.columns.toNat < d.columns.toNat := Nat.mod_lt _ h
  have hlt := d.columns.toNat_lt
  simp only [positionOf, if_neg hcolumns, UInt16.toNat_toUInt8, UInt16.toNat_mod, UInt16.toNat_div,
    UInt8.toNat_toUInt16]
  exact ⟨Nat.mod_eq_of_lt (by omega), trivial⟩

/-- A position within the columns is found back from its index, whatever its row. -/
theorem positionOf_cellIndex {p : Position} (h : p.x.toNat < d.columns.toNat) :
    d.positionOf (d.cellIndex p) = p := by
  have hcolumns : 0 < d.columns.toNat := by omega
  obtain ⟨hx, hy⟩ := toNat_positionOf hcolumns (d.cellIndex p)
  rw [toNat_cellIndex, Nat.mul_add_mod, Nat.mod_eq_of_lt h] at hx
  rw [toNat_cellIndex, Nat.mul_add_div hcolumns, Nat.div_eq_of_lt h, Nat.add_zero,
    Nat.mod_eq_of_lt p.y.toNat_lt] at hy
  obtain ⟨x, y⟩ := p
  exact congrArg₂ Position.mk (UInt8.toNat_inj.mp hx) (UInt8.toNat_inj.mp hy)

/-- What is found back from the position of an index: 256 rows on, indices start again. -/
theorem toNat_cellIndex_positionOf (h : 0 < d.columns.toNat) (index : UInt16) :
    (d.cellIndex (d.positionOf index)).toNat = index.toNat % (256 * d.columns.toNat) := by
  obtain ⟨hx, hy⟩ := toNat_positionOf h index
  rw [toNat_cellIndex, hx, hy, Nat.mul_comm 256, Nat.mod_mul, Nat.add_comm]

theorem cellIndex_positionOf_iff (h : 0 < d.columns.toNat) (index : UInt16) :
    d.cellIndex (d.positionOf index) = index ↔ index.toNat < 256 * d.columns.toNat := by
  rw [← UInt16.toNat_inj, toNat_cellIndex_positionOf h, Nat.mod_eq_iff_lt (by omega)]

/-- The last cell of 256 rows, each as long as a byte can count. -/
theorem toNat_cellIndex_le (d : Screen) (p : Position) : (d.cellIndex p).toNat ≤ 65280 := by
  have hrows : d.columns.toNat * p.y.toNat ≤ 255 * 255 :=
    Nat.mul_le_mul (Nat.le_of_lt_succ d.columns.toNat_lt) (Nat.le_of_lt_succ p.y.toNat_lt)
  have hx := p.x.toNat_lt
  rw [toNat_cellIndex]
  omega

/-- Positions and indices determine each other as far as rows fit a byte, and no index comes near
the end of a word. -/
theorem indices_decompose (d : Screen) (h : 1 ≤ d.columns.toNat) :
    (∀ x y : UInt8, x.toNat < d.columns.toNat →
      d.positionOf (d.cellIndex ⟨x, y⟩) = ⟨x, y⟩) ∧
    (∀ index : UInt16,
      d.cellIndex (d.positionOf index) = index ↔ index.toNat < 256 * d.columns.toNat) ∧
    ∀ p, (d.cellIndex p).toNat ≤ 65280 :=
  ⟨fun _ _ hx => positionOf_cellIndex hx, d.cellIndex_positionOf_iff h, d.toNat_cellIndex_le⟩

/-- The last cell of the last row that a byte can name, and the index behind it. -/
theorem indices_decompose_wide :
    let d : Screen := { Screen.initial with columns := 80 }
    1 ≤ d.columns.toNat ∧ d.positionOf (d.cellIndex ⟨79, 255⟩) = ⟨79, 255⟩ ∧
      d.cellIndex (d.positionOf 20480) ≠ 20480 := by
  intro d
  have hcolumns : 1 ≤ d.columns.toNat := by decide
  obtain ⟨hposition, hindex, -⟩ := d.indices_decompose hcolumns
  exact ⟨hcolumns, hposition 79 255 (by decide),
    fun hback => absurd ((hindex 20480).mp hback) (by decide)⟩

theorem InMode.columns_eq (h : d.InMode spec) : d.columns = 40 ∨ d.columns = 80 := by
  rw [h.columns, ModeSpec.columns]
  cases spec.layout
  · exact .inl rfl
  all_goals exact .inr rfl

/-- Where the cursor comes to stand, `n` cells after a position. -/
theorem InMode.toNat_clamp_positionOf (h : d.InMode spec) (x y : UInt8) (n : UInt16) :
    let index := (d.columns.toNat * y.toNat + x.toNat + n.toNat) % 65536
    let end_ := d.positionOf (d.cellIndex ⟨x, y⟩ + n)
    let p := d.clamp ⟨end_.x, end_.y⟩
    p.x.toNat = index % d.columns.toNat ∧
      p.y.toNat = min (index / d.columns.toNat % 256) (d.rows.toNat - 1) := by
  intro index end_ p
  have hcolumns : 0 < d.columns.toNat := h.columns ▸ spec.columns_pos
  have hindex : (d.cellIndex ⟨x, y⟩ + n).toNat = index := by
    rw [UInt16.toNat_add, toNat_cellIndex]
  obtain ⟨hx, hy⟩ := toNat_positionOf hcolumns (d.cellIndex ⟨x, y⟩ + n)
  rw [hindex] at hx hy
  have hmod : index % d.columns.toNat < d.columns.toNat := Nat.mod_lt _ hcolumns
  have hp : p =
      ⟨Byte.least end_.x (Byte.down d.columns), Byte.least end_.y (Byte.down d.rows)⟩ := rfl
  simp only [hp, Byte.toNat_least, Byte.toNat_down]
  rw [hx, hy]
  exact ⟨Nat.min_eq_left (by omega), rfl⟩

end Screen

namespace Service

variable {bus : BusWidth} {window : UInt16} {spec : ModeSpec} {s : Service (Board bus)}
  {slot : Page}

/-- Moving the cursor of the page on display stores it and moves the hardware cursor. -/
theorem setCursorPosition_active (s : Service (Board bus))
    (hslot : slot.val = s.screen.activePage.toNat) (x y : UInt8) :
    let p := s.screen.clamp ⟨x, y⟩
    s.setCursorPosition s.screen.activePage x y =
      (.ok (), (s.setScreen (s.screen.setCursor slot p)).applyCursor p) := by
  intro p
  rw [setCursorPosition, Page.ofByte_eq_ok.mpr hslot]
  exact congrArg (Prod.mk _) (if_pos rfl)

theorem Usable.setCursorPosition_active (h : s.Usable window spec)
    (hslot : slot.val = s.screen.activePage.toNat) (x y : UInt8) :
    let p := s.screen.clamp ⟨x, y⟩
    let t := s.setCursorPosition s.screen.activePage x y
    t.1 = .ok () ∧ t.2.screen.cursor slot = p ∧
      t.2.machine.hardware.adapter.cursorLocation = s.screen.cellIndex p := by
  intro p t
  have ht : t = _ := s.setCursorPosition_active hslot x y
  have hcursor : (s.screen.setCursor slot p).cursor slot = p := by
    rw [Screen.cursor_setCursor, if_pos rfl]
  rw [ht]
  exact ⟨rfl, hcursor, s.machine.cursorLocation_setCursorLocation _ h.ready.unprotected _⟩

/-- A string that moves the cursor is put into the page, and then the cursor moves behind it. -/
theorem writeString_moving (s : Service (Board bus)) {options : StringOptions}
    (hmove : options.moveCursor = true) (buffer : UInt32) (attr x y : UInt8) :
    let (n, t) := s.stringLength buffer
    let index := t.screen.cellIndex ⟨x, y⟩
    let p := t.screen.positionOf (index + n)
    let u := (t.putText t.screen.activePage options index buffer n attr).setCursorPosition
      t.screen.activePage p.x p.y
    s.writeString options buffer attr x y = (u.1.map fun _ => n, u.2) := by
  simp only [writeString, if_pos hmove]
  rfl

/-- What a string that moves the cursor leaves: the cursor stands `length` cells after the start,
up to the overflows of the index and of its row. -/
theorem Usable.cursor_writeString (h : s.Usable window spec)
    (hslot : slot.val = s.screen.activePage.toNat) {options : StringOptions}
    (hmove : options.moveCursor = true) (buffer : UInt32) (attr x y : UInt8) :
    let n := (s.stringLength buffer).1
    let end_ := s.screen.positionOf (s.screen.cellIndex ⟨x, y⟩ + n)
    let p := s.screen.clamp ⟨end_.x, end_.y⟩
    let t := s.writeString options buffer attr x y
    t.1 = .ok n ∧ t.2.screen.cursor slot = p ∧
      t.2.machine.hardware.adapter.cursorLocation = s.screen.cellIndex p := by
  have hquiet := s.quiet_stringLength buffer
  have hwrite := s.writeString_moving hmove buffer attr x y
  generalize s.stringLength buffer = result at hquiet hwrite
  obtain ⟨n, t⟩ := result
  have hscreen : t.screen = s.screen := hquiet.screen
  simp only [hscreen] at hwrite
  have hput := t.quiet_putText s.screen.activePage options (s.screen.cellIndex ⟨x, y⟩) buffer n attr
  have hu := (h.quiet hquiet).quiet hput
  have huscreen := hput.screen.trans hscreen
  generalize t.putText s.screen.activePage options (s.screen.cellIndex ⟨x, y⟩) buffer n attr = u
    at hwrite hu huscreen
  intro n' end_ p
  have hmoved := hu.setCursorPosition_active (huscreen ▸ hslot) end_.x end_.y
  simp only [huscreen] at hmoved
  obtain ⟨hok, hcursor, hlocation⟩ := hmoved
  rw [hwrite]
  exact ⟨congrArg (Except.map fun _ => n) hok, hcursor, hlocation⟩

/-- A string that begins with its terminator is empty. -/
theorem fst_stringLength_of_zero (s : Service (Board bus)) {buffer : UInt32}
    (h : (Backend.fetch s.machine.hardware buffer).1 = 0) : (s.stringLength buffer).1 = 0 := by
  simp only [stringLength, fst_query, Machine.fst_query]
  cases hlimit : s.settings.scanLimit.toNat with
  | zero => exact UInt16.toNat_inj.mp hlimit
  | succ limit =>
    simp only [Backend.findZero, if_pos h]
    rfl

theorem fst_stringLength_poweredOn : ((poweredOn 0x03).stringLength 0).1 = 0 := by
  refine fst_stringLength_of_zero _ ?_
  have hmemory : (Address.ofLinear 0).isDisplay = false := by decide
  change ((poweredOn 0x03).machine.hardware.read (.ofLinear 0)).1 = 0
  rw [Board.read, hmemory, ram_poweredOn 0x03 rfl]
  exact Ram.get_blank _

/-- Behind a string of `n` characters the cursor of the page on display stands in column `x + n`,
counted through the rows, and in the row that this leads to or in the bottom row. It does so exactly
if the index of the cell there fits a word, and its row a byte; where the row does not, its low byte
has to be at the bottom of the screen or below. -/
theorem Started.writeString_advances_iff (h : s.Started window) {options : StringOptions}
    (hmove : options.moveCursor = true) (buffer : UInt32) (attr x y : UInt8) :
    ∃ (slot : Page) (n : UInt16), slot.val = s.screen.activePage.toNat ∧
      (s.stringLength buffer).1 = n ∧
      let t := s.writeString options buffer attr x y
      let column := (x.toNat + n.toNat) % s.screen.columns.toNat
      let row := min (y.toNat + (x.toNat + n.toNat) / s.screen.columns.toNat)
        (s.screen.rows.toNat - 1)
      let last := s.screen.columns.toNat * y.toNat + x.toNat + n.toNat
      t.1 = .ok n ∧
        ((t.2.screen.cursor slot).x.toNat = column ∧ (t.2.screen.cursor slot).y.toNat = row ∧
            t.2.machine.hardware.adapter.cursorLocation.toNat =
              s.screen.columns.toNat * row + column ↔
          last < 65536 ∧ (last / s.screen.columns.toNat < 256 ∨
            s.screen.rows.toNat - 1 ≤ last / s.screen.columns.toNat % 256)) := by
  obtain ⟨spec, hs⟩ := h.usable
  let slot : Page := ⟨s.screen.activePage.toNat, hs.screen.activePage⟩
  obtain ⟨hok, hcursor, hlocation⟩ :=
    hs.cursor_writeString (rfl : slot.val = _) hmove buffer attr x y
  obtain ⟨hx, hy⟩ := hs.screen.toNat_clamp_positionOf x y (s.stringLength buffer).1
  refine ⟨slot, _, rfl, rfl, hok, ?_⟩
  rw [hlocation, Screen.toNat_cellIndex, hcursor, hx, hy]
  have hcolumns : s.screen.columns.toNat = 40 ∨ s.screen.columns.toNat = 80 :=
    hs.screen.columns_eq.imp (congrArg UInt8.toNat) (congrArg UInt8.toNat)
  have hrows := s.screen.rows.toNat_lt
  have hn := (s.stringLength buffer).1.toNat_lt
  have hxlt := x.toNat_lt
  have hylt := y.toNat_lt
  generalize (s.stringLength buffer).1.toNat = n at hn
  generalize s.screen.columns.toNat = columns at hcolumns
  generalize s.screen.rows.toNat = rows at hrows
  have hpos : 0 < columns := by omega
  have hlast : columns * y.toNat + x.toNat + n < 131072 := by
    rcases hcolumns with rfl | rfl <;> omega
  have hcolumn : (x.toNat + n) % columns = (columns * y.toNat + x.toNat + n) % columns := by
    rw [Nat.add_assoc, Nat.mul_add_mod]
  have hrow : y.toNat + (x.toNat + n) / columns =
      (columns * y.toNat + x.toNat + n) / columns := by
    rw [Nat.add_assoc, Nat.mul_add_div hpos]
  simp only [hcolumn, hrow]
  rw [← index_survives_iff hcolumns hlast (show rows - 1 < 256 by omega)]
  constructor
  · rintro ⟨hx, hy, -⟩
    exact ⟨hx, hy⟩
  · rintro ⟨hx, hy⟩
    exact ⟨hx, hy, by rw [hx, hy]⟩

/-- An empty string five columns past the end of the fourth row. -/
theorem Started.writeString_advances_text :
    Started 0 (poweredOn 0x03) ∧ (⟨true, false⟩ : StringOptions).moveCursor = true ∧
      ∃ slot : Page, slot.val = 0 ∧
        (((poweredOn 0x03).writeString ⟨true, false⟩ 0 0x07 85 3).2.screen.cursor slot).y.toNat =
          4 := by
  have h : Started 0 (poweredOn 0x03) := (reachable_poweredOn 0x03 rfl).started
  have hmove : (⟨true, false⟩ : StringOptions).moveCursor = true := rfl
  obtain ⟨slot, n, hslot, hlength, -, hadvance⟩ := h.writeString_advances_iff hmove 0 0x07 85 3
  obtain rfl : n = 0 := hlength.symm.trans fst_stringLength_poweredOn
  rw [screen_poweredOn 0x03 rfl] at hslot hadvance
  exact ⟨h, hmove, slot, hslot, (hadvance.mpr (by decide)).2.1⟩

/-- Past row 255 the row starts again at the top: an empty string in row 258 leaves the cursor in
row 2, although the screen ends with row 24. -/
theorem Started.writeString_past_byte_row :
    let t := (poweredOn 0x03).writeString ⟨true, false⟩ 0 0x07 255 255
    Started 0 (poweredOn 0x03) ∧ ((poweredOn 0x03).stringLength 0).1 = 0 ∧
      ∃ slot : Page, slot.val = (poweredOn 0x03).screen.activePage.toNat ∧
        t.2.screen.cursor slot = ⟨15, 2⟩ ∧
        t.2.machine.hardware.adapter.cursorLocation = 175 ∧
        ¬ ((t.2.screen.cursor slot).y.toNat =
          min (255 + (255 + 0) / (poweredOn 0x03).screen.columns.toNat)
            ((poweredOn 0x03).screen.rows.toNat - 1)) := by
  have h : Started 0 (poweredOn 0x03) := (reachable_poweredOn 0x03 rfl).started
  obtain ⟨spec, hs⟩ := h.usable
  let slot : Page := ⟨(poweredOn 0x03).screen.activePage.toNat, hs.screen.activePage⟩
  have hmove : (⟨true, false⟩ : StringOptions).moveCursor = true := rfl
  obtain ⟨-, hcursor, hlocation⟩ :=
    hs.cursor_writeString (rfl : slot.val = _) hmove 0 0x07 255 255
  generalize (poweredOn 0x03).writeString ⟨true, false⟩ 0 0x07 255 255 = t at hcursor hlocation ⊢
  rw [fst_stringLength_poweredOn, screen_poweredOn 0x03 rfl] at hcursor hlocation
  have hcursor : t.2.screen.cursor slot = ⟨15, 2⟩ := hcursor.trans (by decide)
  refine ⟨h, fst_stringLength_poweredOn, slot, rfl, hcursor, hlocation.trans (by decide), ?_⟩
  rw [hcursor, screen_poweredOn 0x03 rfl]
  decide

end Service

end VgaFirmware
