import VgaFirmware.Proofs.ClosedPlanes
import VgaFirmware.Proofs.PageOperations

/-!
# Where text is written

Offsets of the planes run in step with the cells of a page, and wrap at the end of 64 KiB
(`Screen.planeOffset`). `Overwrites` says which bytes of a plane an operation replaces: those from
one offset on, and no others. Characters wrap as far as they are asked to
(`Started.writeCharacters_offsets`). Cells stay within the aperture of their view as long as the
run of them does (`Started.writeCells_offsets`).
-/

namespace VgaFirmware

variable {bus : BusWidth}

/-! ## Runs of bytes in a plane -/

/-- The bytes from an offset on become those of `data`, and no other byte changes. -/
structure Overwrites (first count : Nat) (data : Nat → UInt8) (old new : UInt16 → UInt8) :
    Prop where
  written : ∀ i < count, new (UInt16.ofNat (first + i)) = data i
  kept : ∀ off, (∀ i < count, off ≠ UInt16.ofNat (first + i)) → new off = old off

/-- At most 64 KiB are replaced without one byte being reached twice, so each of them is known by
its distance from the first. -/
theorem Overwrites.of_distance {first count : Nat} {data : Nat → UInt8} {old new : UInt16 → UInt8}
    (hcount : count ≤ 65536)
    (h : ∀ d : UInt16, new (UInt16.ofNat first + d) =
      if d.toNat < count then data d.toNat else old (UInt16.ofNat first + d)) :
    Overwrites first count data old new where
  written i hi := by
    have hval : (UInt16.ofNat i).toNat = i := by
      rw [UInt16.toNat_ofNat']
      omega
    rw [UInt16.ofNat_add, h, hval, if_pos hi]
  kept off hoff := by
    have hsum : UInt16.ofNat first + (off - UInt16.ofNat first) = off := by grind
    have hfar : ¬ (off - UInt16.ofNat first).toNat < count := by
      intro hlt
      refine hoff _ hlt ?_
      rw [UInt16.ofNat_add, UInt16.ofNat_toNat, hsum]
    have hnew := h (off - UInt16.ofNat first)
    rwa [if_neg hfar, hsum] at hnew

namespace CellRun

variable {run : CellRun} {b : Board bus}

/-- The run lies within the aperture of the cells view. -/
def Fits (run : CellRun) : Prop := Board.PageFits run.start (run.index.toNat + run.count)

/-- A run that fits reaches the cells from its first one on. -/
theorem Fits.reaches_iff (fits : run.Fits) {j : Nat} (hj : j < run.index.toNat + run.count)
    {off : UInt16} (hoff : off.toNat / 2 = j) :
    (off - run.index * 2).toNat < 2 * run.count ↔ run.index.toNat ≤ j := by
  have hend := fits.end_le
  have := off.toNat_lt
  simp only [UInt16.toNat_sub, UInt16.toNat_mul, UInt16.reduceToNat]
  omega

theorem byte_of_even {off : UInt16} (hoff : off.toNat % 2 = 0) : run.byte off = run.cell.chr := by
  refine if_pos ?_
  simp only [UInt16.toNat_sub, UInt16.toNat_mul, UInt16.reduceToNat]
  omega

theorem byte_of_odd {off : UInt16} (hoff : off.toNat % 2 = 1) : run.byte off = run.cell.attr := by
  refine if_neg ?_
  simp only [UInt16.toNat_sub, UInt16.toNat_mul, UInt16.reduceToNat]
  omega

/-- A run that fits reaches cells of the page only. -/
theorem Fits.onPage_of_reached (fits : run.Fits) {off : UInt16}
    (hreach : (off - run.index * 2).toNat < 2 * run.count) :
    Board.OnPage run.start (run.index.toNat + run.count) (Board.cellPlace run.start off) := by
  have hend := fits.end_le
  have hstart := fits.start_mod
  have hoff : off.toNat < 2 * (run.index.toNat + run.count) := by
    have := off.toNat_lt
    simp only [UInt16.toNat_sub, UInt16.toNat_mul, UInt16.reduceToNat] at hreach
    omega
  have hin : Board.cellOffset run.start off = run.start.toNat + off.toNat := by
    simp only [Board.cellOffset]
    omega
  rw [Board.cellPlace_of_lt (by omega)]
  simp only [Board.OnPage, UInt16.toNat_ofNat', hin]
  omega

/-- A run that fits draws its cells and nothing else. -/
theorem Fits.redraws (fits : run.Fits) (h : b.Plain) :
    Board.Redraws run.start (run.index.toNat + run.count) b
      (fun j => if run.index.toNat ≤ j then run.cell else b.pageCell run.start j)
      (run.write b) := by
  constructor
  · intro j hj
    have hend := fits.end_le
    have hval := fits.toNat_ofNat hj
    have hlast : run.start.toNat + 2 * (UInt16.ofNat j).toNat < 0x8000 := by omega
    -- the window shows a cell at an even offset, and its attribute behind it
    have hchr : (UInt16.ofNat j * 2).toNat = 2 * j := by
      simp only [UInt16.toNat_mul, hval, UInt16.reduceToNat]
      omega
    have hattr : (UInt16.ofNat j * 2 + 1).toNat = 2 * j + 1 := by
      simp only [UInt16.toNat_add, hchr, UInt16.reduceToNat]
      omega
    rw [fits.pageCell_eq, fits.pageCell_eq, ← Board.cellPlace_character fits.start_mod hlast,
      ← Board.cellPlace_attribute fits.start_mod hlast, run.byteAt_write h, run.byteAt_write h,
      byte_of_even (by omega), byte_of_odd (by omega),
      if_congr (fits.reaches_iff hj (by omega)) rfl rfl,
      if_congr (fits.reaches_iff hj (by omega)) rfl rfl]
    split
    · rfl
    · rfl
  · intro l hl
    by_cases hview : ∃ off, Board.cellPlace run.start off = l
    · obtain ⟨off, rfl⟩ := hview
      have hfar : ¬ (off - run.index * 2).toNat < 2 * run.count :=
        fun hreach => hl (fits.onPage_of_reached hreach)
      rw [run.byteAt_write h, if_neg hfar]
    · exact byteAt_write_of_ne h fun off e => hview ⟨off, e⟩

theorem Fits.ram_write (fits : run.Fits) (h : b.Plain) : (run.write b).ram = b.ram := by
  refine Ram.ext fun a => ?_
  exact (fits.redraws h).frame (.memory a) not_false

/-- The cells view shows the first cell of a run that fits. -/
theorem Fits.viewedCell_write (fits : run.Fits) (h : b.Plain) (hcount : 0 < run.count) :
    (run.write b).viewedCell run.start run.index = run.cell := by
  have hfirst : run.index.toNat < run.index.toNat + run.count := Nat.lt_add_of_pos_right hcount
  rw [fits.viewedCell_eq hfirst, (fits.redraws h).cells _ hfirst, if_pos (Nat.le_refl _)]

/-- A run that fits puts its characters into plane 0 and its attributes into plane 1. -/
theorem Fits.overwrites (fits : run.Fits) (h : b.Plain) {q : Plane} {v : UInt8}
    (hq : q = .characters ∧ v = run.cell.chr ∨ q = .attributes ∧ v = run.cell.attr) :
    Overwrites (run.start.toNat / 2 + run.index.toNat) run.count (fun _ => v)
      (b.adapter.planes.get q) ((run.write b).adapter.planes.get q) := by
  have drawn := fits.redraws h
  have hcell : ∀ j < run.index.toNat + run.count,
      (run.write b).adapter.planes.get q (UInt16.ofNat (run.start.toNat / 2 + j)) =
        if run.index.toNat ≤ j then v
        else b.adapter.planes.get q (UInt16.ofNat (run.start.toNat / 2 + j)) := by
    intro j hj
    rcases hq with ⟨rfl, rfl⟩ | ⟨rfl, rfl⟩
    · exact (congrArg Cell.chr (drawn.cells j hj)).trans (apply_ite Cell.chr _ _ _)
    · exact (congrArg Cell.attr (drawn.cells j hj)).trans (apply_ite Cell.attr _ _ _)
  constructor
  · intro i hi
    rw [Nat.add_assoc, hcell _ (by omega), if_pos (by omega)]
  · intro off hoff
    by_cases hon : Board.OnPage run.start (run.index.toNat + run.count) (.plane q off)
    · -- a cell of the page that the run passes over lies before the first cell of the run
      obtain ⟨-, hlow, hhigh⟩ := hon
      have hself :
          UInt16.ofNat (run.start.toNat / 2 + (off.toNat - run.start.toNat / 2)) = off := by
        rw [Nat.add_sub_cancel' hlow, UInt16.ofNat_toNat]
      have hbefore : ¬ run.index.toNat ≤ off.toNat - run.start.toNat / 2 := by
        intro hle
        refine hoff (off.toNat - run.start.toNat / 2 - run.index.toNat) (by omega) ?_
        rw [Nat.add_assoc, Nat.add_sub_cancel' hle, hself]
      have hkept := hcell _ (Nat.sub_lt_left_of_lt_add hlow (by omega))
      rwa [if_neg hbefore, hself] at hkept
    · exact drawn.frame _ hon

end CellRun

namespace Board

/-- Work in the view of a plane that is known by what the window shows after it, as an overwriting
of that plane. -/
theorem overwrites_of_planePlace {b c : Board bus} {q : Plane} {start dst : UInt16}
    {first count : Nat} (hfirst : planeBase start + dst = UInt16.ofNat first)
    (hcount : count ≤ 65536) {data : Nat → UInt8}
    (h : ∀ off, c.byteAt (planePlace q start off) =
      if (off - dst).toNat < count then data (off - dst).toNat
      else b.byteAt (planePlace q start off)) :
    Overwrites first count data (b.adapter.planes.get q) (c.adapter.planes.get q) := by
  refine .of_distance hcount fun d => ?_
  have hnew := h (dst + d)
  have hdistance : dst + d - dst = d := by grind
  rw [planePlace, ← UInt16.add_assoc, hfirst, hdistance] at hnew
  exact hnew

/-- A fill in the view of a plane replaces bytes of that plane. -/
theorem Showing.overwrites_fill {b : Board bus} {q : Plane} {start dst : UInt16}
    (h : b.Showing (.plane q) start) {first : Nat}
    (hfirst : planeBase start + dst = UInt16.ofNat first) (v : UInt8) {count : Nat}
    (hcount : count ≤ 65536) :
    Overwrites first count (fun _ => v) (b.adapter.planes.get q)
      ((Backend.fill b dst v count).adapter.planes.get q) :=
  overwrites_of_planePlace hfirst hcount
    (congrFun ((shows_plane q start).flat.bytes_fill h dst v count))

end Board

/-- A page begins at an even paragraph, so a position of it is at the same distance from the
start of the page in every view. -/
theorem Screen.planeBase_add_cellIndex {d : Screen} {page : UInt8}
    (hstart : (d.pageStart page).toNat % 32 = 0) (p : Position) :
    Board.planeBase (d.pageStart page) + d.cellIndex p = UInt16.ofNat (d.planeOffset page p) := by
  have hbase : 16 * ((d.pageStart page).toNat / 32) = (d.pageStart page).toNat / 2 := by omega
  rw [Board.planeBase_add, hbase, planeOffset, Nat.add_assoc, ← toNat_cellIndex]

namespace Service

variable {window : UInt16} {spec : ModeSpec} {s : Service (Board bus)}

/-- Writing characters replaces bytes of plane 0 from the stored cursor of the page on, as many as
it is asked to, round the end of the plane if need be. It changes nothing else. -/
theorem Started.writeCharacters_offsets (h : s.Started window) (page : UInt8)
    (hpage : page.toNat < 8) (chr : UInt8) (count : UInt16) :
    ∃ p t, s.cursorOf page = .ok p ∧ s.writeCharacters page chr count = (.ok (), t) ∧
      Overwrites (s.screen.planeOffset page p) count.toNat (fun _ => chr)
        (s.plane .characters) (t.plane .characters) ∧
      (∀ q, q ≠ .characters → t.plane q = s.plane q) ∧
      t.machine.hardware.ram = s.machine.hardware.ram ∧ t.screen = s.screen := by
  obtain ⟨spec, hs⟩ := h.usable
  obtain ⟨p, hp, -⟩ := exists_cursor hs.screen hpage
  refine ⟨p, _, hp, Prod.ext (by rw [s.writeCharacters_eq hp]) rfl, ?_, ?_, ?_, ?_⟩
  · have hopen := hs.ready.plain.showing_openView (.plane .characters) (s.screen.pageStart page)
    simp only [plane, s.hardware_writeCharacters hp, Board.planes_within]
    exact hopen.overwrites_fill (Screen.planeBase_add_cellIndex (hs.pageStart_mod page) p) chr
      (Nat.le_of_lt count.toNat_lt)
  · intro q hq
    exact s.plane_writeCharacters hq page chr count
  · exact s.ram_writeCharacters page chr count
  · exact (s.quiet_writeCharacters page chr count).screen

/-- On the second page of a graphics mode a long run of characters wraps: it reaches the first byte
of the plane and stops before the second. -/
theorem Started.writeCharacters_wraps :
    Started 0 (poweredOn 0x10) ∧ (1 : UInt8).toNat < 8 ∧
      ∃ t, (poweredOn 0x10).writeCharacters 1 0x41 0xC001 = (.ok (), t) ∧
        t.plane .characters 0 = 0x41 ∧
        t.plane .characters 1 = (poweredOn 0x10).plane .characters 1 := by
  have h : Started 0 (poweredOn 0x10) := (reachable_poweredOn _ rfl).started
  obtain ⟨p, t, hp, hwrite, hchars, -⟩ :=
    h.writeCharacters_offsets 1 (by decide) 0x41 0xC001
  obtain rfl := eq_cursor_of_cursorOf hp ⟨1, by decide⟩ rfl
  have hfirst : (poweredOn 0x10).screen.planeOffset 1
      ((poweredOn 0x10).screen.cursor ⟨1, by decide⟩) = 0x4000 := by
    rw [screen_poweredOn 0x10 rfl]
    decide +kernel
  rw [hfirst] at hchars
  refine ⟨h, by decide, t, hwrite, hchars.written 0xC000 (by decide), hchars.kept 1 ?_⟩
  intro i hi heq
  have hval := congrArg UInt16.toNat heq
  simp only [UInt16.toNat_ofNat', UInt16.reduceToNat] at hi hval
  omega

/-- The run of cells that is written at the stored cursor of a page. -/
def cursorRun (s : Service (Board bus)) (page : UInt8) (p : Position) (c : Cell)
    (count : UInt16) : CellRun :=
  ⟨s.screen.pageStart page, s.screen.cellIndex p, c, count.toNat⟩

/-- A cell that was written at the cursor of a page, and within the aperture, is the one that is
read there. -/
theorem Usable.readCell_writeCells (h : s.Usable window spec) {page : UInt8} {p : Position}
    (hp : s.cursorOf page = .ok p) {c : Cell} {count : UInt16}
    (fits : (s.cursorRun page p c count).Fits) (hcount : count ≠ 0) :
    ((s.writeCells page c count).2.readCell page).1 = .ok c := by
  have hpos : 0 < count.toNat :=
    Nat.pos_of_ne_zero fun e => hcount (UInt16.toNat_inj.mp e)
  have quiet := s.quiet_writeCells page c count
  have hread := fst_readCell (h.quiet quiet).ready.plain ((quiet.cursorOf page).trans hp)
  rw [quiet.screen, s.hardware_writeCells hp] at hread
  exact hread.trans (congrArg Except.ok (fits.viewedCell_write h.ready.plain hpos))

/-- Writing cells replaces characters and attributes from the stored cursor of the page on, and
nothing else, as long as the cells lie within the aperture of the cells view. What is read at the
cursor afterwards is the cell that was written, and reading changes nothing. -/
theorem Started.writeCells_offsets (h : s.Started window) (page : UInt8)
    (hpage : page.toNat < 8) (c : Cell) (count : UInt16) :
    ∃ p, s.cursorOf page = .ok p ∧
      ((s.screen.pageStart page).toNat +
          2 * (s.screen.columns.toNat * p.y.toNat + p.x.toNat + count.toNat) ≤ 0x8000 →
        ∃ t r u, s.writeCells page c count = (.ok (), t) ∧
          Overwrites (s.screen.planeOffset page p) count.toNat (fun _ => c.chr)
            (s.plane .characters) (t.plane .characters) ∧
          Overwrites (s.screen.planeOffset page p) count.toNat (fun _ => c.attr)
            (s.plane .attributes) (t.plane .attributes) ∧
          (∀ q, 2 ≤ q.val → t.plane q = s.plane q) ∧
          t.machine.hardware.ram = s.machine.hardware.ram ∧ t.screen = s.screen ∧
          t.readCell page = (.ok r, u) ∧ (count ≠ 0 → r = c) ∧ t.SameMemory u ∧
          u.screen = t.screen) := by
  obtain ⟨spec, hs⟩ := h.usable
  obtain ⟨p, hp, -⟩ := exists_cursor hs.screen hpage
  refine ⟨p, hp, fun hend => ?_⟩
  have fits : (s.cursorRun page p c count).Fits := by
    refine ⟨hs.pageStart_mod page, ?_⟩
    rw [← Screen.toNat_cellIndex] at hend
    exact hend
  have hfirst : (s.screen.pageStart page).toNat / 2 + (s.screen.cellIndex p).toNat =
      s.screen.planeOffset page p := by
    rw [Screen.toNat_cellIndex, Screen.planeOffset, Nat.add_assoc]
  have hplane (q : Plane) {v : UInt8}
      (hq : q = .characters ∧ v = c.chr ∨ q = .attributes ∧ v = c.attr) :
      Overwrites (s.screen.planeOffset page p) count.toNat (fun _ => v) (s.plane q)
        ((s.writeCells page c count).2.plane q) := by
    have hwritten := fits.overwrites hs.ready.plain hq
    simp only [plane, s.hardware_writeCells hp, ← hfirst]
    exact hwritten
  have quiet := s.quiet_writeCells page c count
  have hread := readCell_eq _ ((quiet.cursorOf page).trans hp)
  refine ⟨_, _, _, Prod.ext (by rw [s.writeCells_eq hp]) rfl, hplane _ (.inl ⟨rfl, rfl⟩),
    hplane _ (.inr ⟨rfl, rfl⟩), ?_, ?_, quiet.screen, hread, ?_, ?_, ?_⟩
  · intro q hq
    exact s.plane_writeCells hq page c count
  · rw [s.ram_writeCells hp]
    exact fits.ram_write hs.ready.plain
  · intro hcount
    have hsame := hs.readCell_writeCells hp fits hcount
    rw [hread] at hsame
    exact Except.ok.inj hsame
  · exact sameMemory_lookCell _ page p
  · exact (quiet_lookCell _ page p).screen

theorem Started.writeCells_second_page :
    Started 0 (poweredOn 0x03) ∧ (1 : UInt8).toNat < 8 ∧
      ∃ t u, (poweredOn 0x03).writeCells 1 ⟨0x41, 0x1E⟩ 2 = (.ok (), t) ∧
        t.plane .characters 0x0801 = 0x41 ∧ t.plane .attributes 0x0801 = 0x1E ∧
        t.readCell 1 = (.ok ⟨0x41, 0x1E⟩, u) := by
  have h : Started 0 (poweredOn 0x03) := (reachable_poweredOn _ rfl).started
  obtain ⟨p, hp, hall⟩ := h.writeCells_offsets 1 (by decide) ⟨0x41, 0x1E⟩ 2
  obtain rfl := eq_cursor_of_cursorOf hp ⟨1, by decide⟩ rfl
  have hfirst : (poweredOn 0x03).screen.planeOffset 1
      ((poweredOn 0x03).screen.cursor ⟨1, by decide⟩) = 0x0800 := by
    rw [screen_poweredOn 0x03 rfl]
    decide +kernel
  have hend : ((poweredOn 0x03).screen.pageStart 1).toNat +
      2 * ((poweredOn 0x03).screen.columns.toNat *
        ((poweredOn 0x03).screen.cursor ⟨1, by decide⟩).y.toNat +
        ((poweredOn 0x03).screen.cursor ⟨1, by decide⟩).x.toNat + (2 : UInt16).toNat) ≤
          0x8000 := by
    rw [screen_poweredOn 0x03 rfl]
    decide +kernel
  obtain ⟨t, r, u, hwrite, hchars, hattrs, -, -, -, hread, hsame, -⟩ := hall hend
  rw [hfirst] at hchars hattrs
  rw [hsame (by decide)] at hread
  exact ⟨h, by decide, t, u, hwrite, hchars.written 1 (by decide), hattrs.written 1 (by decide),
    hread⟩

end Service

end VgaFirmware
