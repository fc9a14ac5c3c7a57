import VgaFirmware.Proofs.CallerMemory
import VgaFirmware.Proofs.Footprint

/-!
# Planes that text never reaches

Text lies in planes 0 and 1, and every view that is opened for text has the planes above them
closed for writing. A closed plane is out of reach, however far a transfer runs and wherever it
wraps (`Closed.accesses`), so every request that leaves the mode as it is leaves those planes as
they are (`plane_perform`).
-/

namespace VgaFirmware

variable {bus : BusWidth} {p : Plane}

theorem Plane.ne_characters (hp : 2 ≤ p.val) : p ≠ .characters := by
  rintro rfl
  exact absurd hp (by decide)

theorem Plane.ne_attributes (hp : 2 ≤ p.val) : p ≠ .attributes := by
  rintro rfl
  exact absurd hp (by decide)

namespace Board

variable {b c : Board bus}

/-- The map mask keeps a plane from being written. -/
def Closed (p : Plane) (b : Board bus) : Prop := b.adapter.mapMask.has p = false

namespace Closed

/-- A store writes no closed plane. -/
theorem not_writes (h : b.Closed p) (off o : UInt16) : ¬ b.Writes off (.plane p o) := by
  rintro ⟨-, hwrites⟩
  unfold Adapter.Writes at hwrites
  split at hwrites
  · exact Bool.false_ne_true (h.symm.trans hwrites.2.2)
  · exact Bool.false_ne_true (h.symm.trans hwrites.1)
  · exact hwrites

theorem sameRegisters {moved : List UInt8} (h : b.Closed p) (g : SameRegisters moved b c) :
    c.Closed p := by
  rw [Closed, g.mapMask]
  exact h

/-- Accesses leave a closed plane alone. -/
theorem accesses (h : b.Closed p) (hc : Backend.Accesses b c) :
    c.Closed p ∧ c.adapter.planes.get p = b.adapter.planes.get p := by
  refine hc.keeps (P := fun d => d.Closed p ∧ d.adapter.planes.get p = b.adapter.planes.get p)
    ?_ ?_ ?_ ⟨h, rfl⟩
  · rintro d off ⟨hd, ih⟩
    exact ⟨hd.sameRegisters (d.sameRegisters_read _),
      (congrArg (·.get p) (d.sameMemory_read _).planes).trans ih⟩
  · rintro d off v ⟨hd, ih⟩
    refine ⟨hd.sameRegisters (d.sameRegisters_write _ v), Eq.trans ?_ ih⟩
    funext o
    exact byteAt_store_of_ne v (hd.not_writes off o)
  · rintro d a ⟨hd, ih⟩
    exact ⟨hd.sameRegisters (d.sameRegisters_read _),
      (congrArg (·.get p) (d.sameMemory_read _).planes).trans ih⟩

end Closed

/-! ## Views for text -/

theorem closed_openView_cells (hp : 2 ≤ p.val) (b : Board bus) (start : UInt16) :
    (b.openView .cells start).Closed p := by
  have hcells : ∀ p : Plane, 2 ≤ p.val → (PlaneSet.ofByte 0x03).has p = false := by decide
  rw [Closed, (b.viewing_openView .cells start).mapMask_cells]
  exact hcells p hp

/-- In the view of a plane all others are closed. -/
theorem Viewing.closed {q : Plane} {start : UInt16} (h : b.Viewing (.plane q) start)
    (hp : p ≠ q) : b.Closed p := by
  rw [Closed, h.has_mapMask_planes, MapMask.has_single, decide_eq_false hp]

theorem closed_openView_plane {q : Plane} (hp : p ≠ q) (b : Board bus) (start : UInt16) :
    (b.openView (.plane q) start).Closed p :=
  (b.viewing_openView (.plane q) start).closed hp

theorem closed_selectPlane {q : Plane} (hp : p ≠ q) (b : Board bus) :
    (b.selectPlane q).Closed p := by
  have hread : (b.selectPlane q).adapter.sequencer.read 2 = (PlaneSet.single q).toByte :=
    RegisterBank.read_write_self _ _ _
  rw [Closed, Adapter.mapMask, hread, PlaneSet.ofByte_toByte, PlaneSet.has_single,
    decide_eq_false hp]

theorem Closed.scrollCells (h : b.Closed p) (hp : p ≠ .attributes) (r : Region)
    (direction : Direction) (count : Nat) (attr : UInt8) :
    (b.scrollCells r direction count attr).adapter.planes.get p = b.adapter.planes.get p := by
  obtain ⟨-, hchars⟩ := h.accesses (Region.accesses_scroll .refl r direction count 0)
  obtain ⟨-, hattrs⟩ := (closed_selectPlane hp (r.scroll b direction count 0)).accesses
    (Region.accesses_scroll .refl r direction count attr)
  exact hattrs.trans hchars

theorem Closed.putString (h : b.Closed p) (hp : p ≠ .attributes) (options : StringOptions)
    (index : UInt16) (buffer : UInt32) (length : Nat) (attr : UInt8) :
    (b.putString options index buffer length attr).adapter.planes.get p =
      b.adapter.planes.get p := by
  obtain ⟨-, hcopy⟩ := h.accesses (.copyIn .refl index buffer length)
  unfold Board.putString
  split
  · obtain ⟨-, hfill⟩ := (closed_selectPlane hp (Backend.copyIn b index buffer length)).accesses
      (.fill .refl index attr (length + 1))
    exact hfill.trans hcopy
  · exact hcopy

end Board

/-! ## Requests -/

namespace Service

variable (s : Service (Board bus))

/-- The bytes of a plane. -/
def plane (s : Service (Board bus)) (p : Plane) : UInt16 → UInt8 :=
  s.machine.hardware.adapter.planes.get p

variable {s} in
theorem SameMemory.plane {t : Service (Board bus)} (h : s.SameMemory t) (p : Plane) :
    t.plane p = s.plane p :=
  congrArg (·.get p) h.planes

/-- Scrolling opens planes 0 and 1, one after the other, and no other plane. -/
theorem plane_scrollPage (hp : 2 ≤ p.val) (page : UInt8) (direction : Direction)
    (count attr columns rows : UInt8) :
    (s.scrollPage page direction count attr columns rows).plane p = s.plane p := by
  by_cases h : count = 0
  · rw [scrollPage, if_pos h]
  · rw [plane, s.hardware_scrollPage h]
    exact (Board.closed_openView_plane (Plane.ne_characters hp) s.machine.hardware _).scrollCells
      (Plane.ne_attributes hp) _ _ _ _

theorem plane_writeCells (hp : 2 ≤ p.val) (page : UInt8) (c : Cell) (count : UInt16) :
    (s.writeCells page c count).2.plane p = s.plane p := by
  cases hcursor : s.cursorOf page with
  | error e => simp only [writeCells, hcursor]
  | ok q =>
    rw [plane, s.hardware_writeCells hcursor]
    exact ((Board.closed_openView_cells hp s.machine.hardware _).accesses
      (.fillWords .refl _ _ _)).2

theorem plane_writeCharacters (hp : p ≠ .characters) (page chr : UInt8) (count : UInt16) :
    (s.writeCharacters page chr count).2.plane p = s.plane p := by
  cases hcursor : s.cursorOf page with
  | error e => simp only [writeCharacters, hcursor]
  | ok q =>
    rw [plane, s.hardware_writeCharacters hcursor]
    exact ((Board.closed_openView_plane hp s.machine.hardware _).accesses
      (.fill .refl _ _ _)).2

theorem plane_putCell (hp : 2 ≤ p.val) (page : UInt8) (q : Position) (c : Cell) :
    (s.putCell page q c).plane p = s.plane p := by
  rw [plane, s.hardware_putCell]
  exact ((Board.closed_openView_cells hp s.machine.hardware _).accesses (.storeWord .refl _ _)).2

theorem plane_putText (hp : 2 ≤ p.val) (page : UInt8) (options : StringOptions) (index : UInt16)
    (buffer : UInt32) (length : UInt16) (attr : UInt8) :
    (s.putText page options index buffer length attr).plane p = s.plane p := by
  rw [plane, s.hardware_putText]
  exact (Board.closed_openView_plane (Plane.ne_characters hp) s.machine.hardware _).putString
    (Plane.ne_attributes hp) _ _ _ _ _

theorem plane_setCursorPosition (p : Plane) (page x y : UInt8) :
    (s.setCursorPosition page x y).2.plane p = s.plane p :=
  (s.sameMemory_setCursorPosition page x y).plane p

theorem plane_teletype (hp : 2 ≤ p.val) (page : UInt8) (c : Cell) :
    (s.teletype page c).2.plane p = s.plane p := by
  cases hcursor : s.cursorOf page with
  | error e => simp only [teletype, hcursor]
  | ok q =>
    rw [s.teletype_eq hcursor]
    split
    · rw [plane_setCursorPosition, plane_putCell _ hp]
    · split
      · rw [plane_setCursorPosition, plane_putCell _ hp]
      · rw [plane_setCursorPosition, plane_scrollPage _ hp, plane_putCell _ hp]

theorem plane_teletypeAll (hp : 2 ≤ p.val) (page : UInt8) (cells : List Cell) :
    (s.teletypeAll page cells).2.plane p = s.plane p :=
  teletypeAll_keeps (P := fun t => t.plane p = s.plane p)
    (fun c ht => (plane_teletype _ hp page c).trans ht) rfl cells

theorem plane_writeString (hp : 2 ≤ p.val) (options : StringOptions) (buffer : UInt32)
    (attr x y : UInt8) : (s.writeString options buffer attr x y).2.plane p = s.plane p :=
  writeString_keeps (P := fun t => t.plane p = s.plane p) s
    ((s.sameMemory_stringLength buffer).plane p)
    (fun page index length ht =>
      (plane_putText _ hp page options index buffer length attr).trans ht)
    (fun page x y ht => (plane_setCursorPosition _ p page x y).trans ht) x y

/-- A request that leaves the mode as it is leaves the planes above the text as they are. -/
theorem plane_perform (hp : 2 ≤ p.val) {q : Request} (hq : q.keepsMode = true) :
    (s.perform q).2.plane p = s.plane p := by
  cases q with
  | powerOn | setMode _ | interrupt _ => cases hq
  | modeInfo => rfl
  | setCursorShape shape =>
    exact congrArg (·.get p) (s.machine.sameMemory_setCursorShape _ shape).planes
  | cursorShape => exact congrArg (·.get p) (s.machine.sameMemory_cursorShape _).planes
  | setCursorPosition page x y => exact s.plane_setCursorPosition p page x y
  | cursorPosition page => exact (s.sameMemory_cursorPosition page).plane p
  | setActivePage page => exact (s.sameMemory_setActivePage page).plane p
  | scroll direction count attr columns rows => exact s.plane_scrollPage hp _ _ _ _ _ _
  | writeCells page c count => exact s.plane_writeCells hp page c count
  | writeCharacters page chr count =>
    exact s.plane_writeCharacters (Plane.ne_characters hp) page chr count
  | teletype page c => exact s.plane_teletype hp page c
  | teletypeAll page cells => exact s.plane_teletypeAll hp page cells
  | writeString options buffer attr x y => exact s.plane_writeString hp options buffer attr x y
  | readCell page => exact (s.sameMemory_readCell page).plane p

end Service

end VgaFirmware
