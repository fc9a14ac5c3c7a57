import VgaFirmware.Proofs.CallerMemory

/-!
# Runs of cells

Behind the aperture of the cells view there are 32 KiB. A run of cells that passes their end goes
on in the caller's memory (`CellRun.Spills`), and that is all that a call can do to it.
-/

namespace VgaFirmware

variable {bus : BusWidth}

/-- A run of equal cells in the cells view: the start of its page, and the index of its first
cell on the page. -/
structure CellRun where
  start : UInt16
  index : UInt16
  cell : Cell
  count : Nat
  deriving DecidableEq

namespace CellRun

/-- Writes the cells of a run. -/
def write (run : CellRun) (b : Board bus) : Board bus :=
  b.within .cells run.start
    (Backend.fillWords · (run.index * 2) run.cell.toWord run.count)

/-- The byte that a run puts at an offset of the window. -/
def byte (run : CellRun) (off : UInt16) : UInt8 :=
  if (off - run.index * 2).toNat % 2 = 0 then run.cell.chr else run.cell.attr

/-- Where an offset of the window lies in the address space. -/
def address (run : CellRun) (off : UInt16) : Address :=
  .ofSegment (View.cells.segment run.start) off

/-- The run reaches an offset, and the offset lies past the end of the aperture. -/
def Spills (run : CellRun) (off : UInt16) : Prop :=
  (off - run.index * 2).toNat < 2 * run.count ∧ 0x8000 ≤ Board.cellOffset run.start off

variable {run : CellRun} {b : Board bus}

theorem isDisplay_address (run : CellRun) (off : UInt16) :
    (run.address off).isDisplay = false ↔ 0x8000 ≤ Board.cellOffset run.start off := by
  rw [address, Board.isDisplay_cells, decide_eq_false_iff_not, Nat.not_lt]

/-- What the cells view shows at an offset after a run: the byte of the run, if it reaches so
far. -/
theorem byteAt_write (run : CellRun) (h : b.Plain) (off : UInt16) :
    (run.write b).byteAt (Board.cellPlace run.start off) =
      if (off - run.index * 2).toNat < 2 * run.count then run.byte off
      else b.byteAt (Board.cellPlace run.start off) := by
  have hopen := h.showing_openView .cells run.start
  have hfill := congrFun ((Board.shows_cells run.start).flat.bytes_fillWords hopen
    (run.index * 2) run.cell.toWord run.count) off
  simp only [Cell.toWord, Word.low_ofBytes, Word.high_ofBytes, Board.byteAt_openView] at hfill
  rw [write, Board.byteAt_within]
  exact hfill

/-- A run leaves everything alone that its view does not show. -/
theorem byteAt_write_of_ne (h : b.Plain) {l : Place}
    (hl : ∀ off, Board.cellPlace run.start off ≠ l) : (run.write b).byteAt l = b.byteAt l :=
  h.byteAt_within_of_ne (Board.shows_cells run.start)
    (.fillWords .refl (run.index * 2) run.cell.toWord run.count) hl

/-- Past the aperture, a run leaves its bytes in the caller's memory. -/
theorem ram_get_write (h : b.Plain) {off : UInt16}
    (hoff : 0x8000 ≤ Board.cellOffset run.start off) :
    (run.write b).ram.get (run.address off) =
      if (off - run.index * 2).toNat < 2 * run.count then run.byte off
      else b.ram.get (run.address off) := by
  have hwrite := run.byteAt_write h off
  rw [Board.cellPlace_of_le hoff] at hwrite
  exact hwrite

/-- A run leaves all memory alone that is not past the aperture. -/
theorem ram_get_write_of_ne (h : b.Plain) {a : Address}
    (ha : ∀ off, 0x8000 ≤ Board.cellOffset run.start off → run.address off ≠ a) :
    (run.write b).ram.get a = b.ram.get a := by
  refine byteAt_write_of_ne h (l := .memory a) ?_
  intro off hplace
  by_cases hoff : Board.cellOffset run.start off < 0x8000
  · rw [Board.cellPlace_of_lt hoff] at hplace
    cases hplace
  · rw [Board.cellPlace_of_le (by omega)] at hplace
    exact ha off (by omega) (Place.memory.inj hplace)

/-- A run leaves the caller's memory alone exactly if whatever it spills is there already. -/
theorem ram_write_eq_iff (h : b.Plain) :
    (∀ a : Address, a.isDisplay = false → (run.write b).ram.get a = b.ram.get a) ↔
      ∀ off, run.Spills off → b.ram.get (run.address off) = run.byte off := by
  constructor
  · rintro hsame off ⟨hreach, hoff⟩
    have hget := ram_get_write h hoff
    rw [if_pos hreach, hsame _ ((run.isDisplay_address off).mpr hoff)] at hget
    exact hget
  · intro hspill a ha
    by_cases hplace : ∃ off, 0x8000 ≤ Board.cellOffset run.start off ∧ run.address off = a
    · obtain ⟨off, hoff, rfl⟩ := hplace
      rw [ram_get_write h hoff]
      split
      · next hreach => exact (hspill off ⟨hreach, hoff⟩).symm
      · rfl
    · exact ram_get_write_of_ne h fun off hoff e => hplace ⟨off, hoff, e⟩

/-- A run that ends inside the aperture spills nothing. -/
theorem not_spills (h : run.start.toNat + 2 * (run.index.toNat + run.count) ≤ 0x8000)
    (off : UInt16) : ¬ run.Spills off := by
  rintro ⟨hreach, hoff⟩
  simp only [UInt16.toNat_sub, UInt16.toNat_mul, UInt16.reduceToNat] at hreach
  have := off.toNat_lt
  unfold Board.cellOffset at hoff
  omega

end CellRun

namespace Service

/-! ## Calls -/

variable (s : Service (Board bus))

/-- How many cells a call writes in the cells view, if it writes any there. -/
def cellCount (r : RegisterImage) : Option Nat :=
  match Selector.ofCode? (r.get .ah) with
  | some .writeCells => some r.cx.toNat
  | some .teletype => some 1
  | _ => none

/-- The run of cells that a call writes: from the stored cursor of its page on. -/
def cellRun (r : RegisterImage) : Option CellRun :=
  match cellCount r, s.cursorOf (r.get .bh) with
  | some count, .ok p =>
    some ⟨s.screen.pageStart (r.get .bh), s.screen.cellIndex p, ⟨r.get .al, r.get .bl⟩, count⟩
  | _, _ => none

theorem ram_writeCells {page : UInt8} {p : Position} (hp : s.cursorOf page = .ok p) (c : Cell)
    (count : UInt16) :
    (s.writeCells page c count).2.machine.hardware.ram =
      (CellRun.write ⟨s.screen.pageStart page, s.screen.cellIndex p, c, count.toNat⟩
        s.machine.hardware).ram := by
  rw [s.hardware_writeCells hp]
  rfl

theorem ram_teletype {page : UInt8} {p : Position} (hp : s.cursorOf page = .ok p) (c : Cell) :
    (s.teletype page c).2.machine.hardware.ram =
      (CellRun.write ⟨s.screen.pageStart page, s.screen.cellIndex p, c, 1⟩
        s.machine.hardware).ram := by
  have hput : (s.putCell page p c).machine.hardware.ram =
      (CellRun.write ⟨s.screen.pageStart page, s.screen.cellIndex p, c, 1⟩
        s.machine.hardware).ram := by
    rw [s.hardware_putCell]
    rfl
  rw [s.teletype_eq hp, ← hput]
  split
  · rw [(sameMemory_setCursorPosition _ _ _ _).ram]
  · split
    · rw [(sameMemory_setCursorPosition _ _ _ _).ram]
    · rw [(sameMemory_setCursorPosition _ _ _ _).ram, ram_scrollPage]

/-- What a call does to the caller's memory is what its run of cells does. -/
theorem ram_interrupt (r : RegisterImage) :
    (s.interrupt r).2.machine.hardware.ram =
      match s.cellRun r with
      | some run => (run.write s.machine.hardware).ram
      | none => s.machine.hardware.ram := by
  cases hcode : Selector.ofCode? (r.get .ah) with
  | none =>
    have hnone : s.cellRun r = none := by simp only [cellRun, cellCount, hcode]
    simp only [interrupt, hcode, hnone, ram_emit]
  | some function =>
    have hstep : (s.interrupt r).2 =
        ((s.emit (.called function r.ax)).dispatch function r).2 := by
      simp only [interrupt, hcode]
    rw [hstep]
    cases function with
    | writeCells =>
      rw [dispatch, ram_answer]
      cases hp : s.cursorOf (r.get .bh) with
      | error e =>
        have hnone : s.cellRun r = none := by simp only [cellRun, cellCount, hcode, hp]
        have hp' : (s.emit (.called .writeCells r.ax)).cursorOf (r.get .bh) = .error e := hp
        simp only [hnone, writeCells, hp', ram_emit]
      | ok p =>
        simp only [cellRun, cellCount, hcode, hp]
        exact (s.emit (.called .writeCells r.ax)).ram_writeCells hp _ _
    | teletype =>
      rw [dispatch, ram_answer]
      cases hp : s.cursorOf (r.get .bh) with
      | error e =>
        have hnone : s.cellRun r = none := by simp only [cellRun, cellCount, hcode, hp]
        have hp' : (s.emit (.called .teletype r.ax)).cursorOf (r.get .bh) = .error e := hp
        simp only [hnone, teletype, hp', ram_emit]
      | ok p =>
        simp only [cellRun, cellCount, hcode, hp]
        exact (s.emit (.called .teletype r.ax)).ram_teletype hp _
    | _ =>
      simp only [cellRun, cellCount, hcode]
      exact ram_dispatch _ (by decide) (by decide) r

/-! ## Calls in reachable states -/

variable {s} {window : UInt16}

theorem Reachable.plain (h : Reachable window s) : s.machine.hardware.Plain := by
  obtain ⟨spec, haligned⟩ := h.inStep
  exact haligned.ready.plain

/-- A call leaves the caller's memory outside the adapter's addresses alone exactly if it writes
no cells past the end of the aperture, or none whose bytes were not there already. -/
theorem Reachable.ram_unchanged_iff (h : Reachable window s) (r : RegisterImage) :
    (∀ a : Address, a.isDisplay = false →
      (s.interrupt r).2.machine.hardware.ram.get a = s.machine.hardware.ram.get a) ↔
    ∀ run, s.cellRun r = some run → ∀ off, run.Spills off →
      s.machine.hardware.ram.get (run.address off) = run.byte off := by
  rw [s.ram_interrupt r]
  cases hrun : s.cellRun r with
  | none => simp
  | some run =>
    simp only [Option.some.injEq, forall_eq']
    exact CellRun.ram_write_eq_iff h.plain

theorem Reachable.ram_unchanged_iff_teletype :
    Reachable 0 (poweredOn 0x03) ∧
      ∀ a : Address, a.isDisplay = false →
        ((poweredOn 0x03).interrupt ⟨0x0E41, 0x0007, 0, 0, 0, 0⟩).2.machine.hardware.ram.get a =
          (poweredOn 0x03).machine.hardware.ram.get a := by
  have h : Reachable 0 (poweredOn 0x03) := reachable_poweredOn _ rfl
  refine ⟨h, (h.ram_unchanged_iff _).mpr fun run hrun off hspill => ?_⟩
  have hrun' : (poweredOn 0x03).cellRun ⟨0x0E41, 0x0007, 0, 0, 0, 0⟩ =
      some ⟨0, 0, ⟨0x41, 0x07⟩, 1⟩ := by
    simp only [cellRun, cursorOf, screen_poweredOn 0x03 rfl]
    decide +kernel
  obtain rfl := Option.some.inj (hrun'.symm.trans hrun)
  exact absurd hspill (CellRun.not_spills (by decide) off)

/-- On the second page of a graphics mode the cells view begins at the end of the aperture: a
character that is written there lands in the caller's memory. -/
theorem Reachable.ram_changes_on_second_page :
    let s := poweredOn 0x10
    let a := Address.ofLinear 0xC0000
    Reachable 0 s ∧ a.isDisplay = false ∧
      s.machine.hardware.ram.get a = 0 ∧
      (s.interrupt ⟨0x0E41, 0x0107, 0, 0, 0, 0⟩).2.machine.hardware.ram.get a = 0x41 := by
  have h : Reachable 0 (poweredOn 0x10) := reachable_poweredOn _ rfl
  let run : CellRun := ⟨0x8000, 0, ⟨0x41, 0x07⟩, 1⟩
  have hrun : (poweredOn 0x10).cellRun ⟨0x0E41, 0x0107, 0, 0, 0, 0⟩ = some run := by
    simp only [cellRun, cursorOf, screen_poweredOn 0x10 rfl]
    decide +kernel
  have hoff : 0x8000 ≤ Board.cellOffset run.start 0 := by decide
  have haddress : run.address 0 = .ofLinear 0xC0000 := by decide
  have hwrite := CellRun.ram_get_write h.plain hoff
  rw [if_pos (by decide), haddress] at hwrite
  refine ⟨h, by decide, ?_, ?_⟩
  · rw [ram_poweredOn 0x10 rfl, Ram.get_blank]
  · rw [ram_interrupt, hrun]
    exact hwrite.trans (by decide)

end Service

end VgaFirmware
