import VgaFirmware.Proofs.Reachable

/-!
# The caller's memory

Which operations leave the caller's memory alone. Register cycles do, and so does all work in a
view of planes, whose window lies over the adapter from end to end. So does every call that
writes no cells (`ram_dispatch`).
-/

namespace VgaFirmware

variable {bus : BusWidth}

namespace Board

theorem Shielded.selectPlane {b : Board bus} (h : b.Shielded) (p : Plane) :
    (b.selectPlane p).Shielded := h

theorem Shielded.ram_fill {b : Board bus} (h : b.Shielded) (dst : UInt16) (v : UInt8)
    (count : Nat) : (Backend.fill b dst v count).ram = b.ram :=
  (h.accesses (.fill .refl dst v count)).2

theorem Shielded.ram_scrollCells {b : Board bus} (h : b.Shielded) (r : Region)
    (direction : Direction) (count : Nat) (attr : UInt8) :
    (b.scrollCells r direction count attr).ram = b.ram := by
  obtain ⟨h₁, hram₁⟩ := h.accesses (Region.accesses_scroll .refl r direction count 0)
  obtain ⟨-, hram₂⟩ := (h₁.selectPlane .attributes).accesses
    (Region.accesses_scroll .refl r direction count attr)
  exact hram₂.trans hram₁

theorem Shielded.ram_putString {b : Board bus} (h : b.Shielded) (options : StringOptions)
    (index : UInt16) (buffer : UInt32) (length : Nat) (attr : UInt8) :
    (b.putString options index buffer length attr).ram = b.ram := by
  obtain ⟨h₁, hram₁⟩ := h.accesses (.copyIn .refl index buffer length)
  unfold putString
  split
  · obtain ⟨-, hram₂⟩ := (h₁.selectPlane .attributes).accesses
      (.fill .refl index attr (length + 1))
    exact hram₂.trans hram₁
  · exact hram₁

theorem sameMemory_loadWord (b : Board bus) (off : UInt16) :
    b.SameMemory (Backend.loadWord b off).2 :=
  (b.sameMemory_read _).trans (sameMemory_read _ _)

theorem sameMemory_findZero (b : Board bus) (a : UInt32) (i count : Nat) :
    b.SameMemory (Backend.findZero b a i count).2 := by
  induction count generalizing b a i with
  | zero => exact .refl b
  | succ count ih =>
    have hfetch : b.SameMemory (Backend.fetch b a).2 := b.sameMemory_read _
    by_cases hv : (Backend.fetch b a).1 = 0
    · simpa only [Backend.findZero, if_pos hv] using hfetch
    · simpa only [Backend.findZero, if_neg hv] using hfetch.trans (ih _ _ _)

end Board

/-! ## Machines -/

namespace Machine

variable (m : Machine (Board bus))

@[simp] theorem ram_writeReg (c : Controller) (i v : UInt8) :
    (m.writeReg c i v).hardware.ram = m.hardware.ram := by
  rw [hardware_writeReg, Board.ram_updateAdapter]

/-- Work in a view of planes leaves the caller's memory alone. -/
theorem ram_edit_update {write : MapMask} {read : UInt8} {start : UInt16}
    (f : Board bus → Board bus) (hf : ∀ b : Board bus, b.Shielded → (f b).ram = b.ram) :
    (m.edit (.planes write read) start (·.update f)).hardware.ram = m.hardware.ram := by
  rw [hardware_edit_update]
  exact hf _ (m.hardware.shielded_openView write read start)

theorem ram_loadFont : m.loadFont.hardware.ram = m.hardware.ram :=
  m.ram_edit_update Font.store fun b hb => (hb.accesses (Font.accesses_store b)).2

theorem ram_clearPlanes : m.clearPlanes.hardware.ram = m.hardware.ram := by
  have hfill (count : Nat) :
      (m.edit (.planes .all 0) 0 (·.update (Backend.fill · 0 0 count))).hardware.ram =
        m.hardware.ram :=
    m.ram_edit_update _ fun b hb => hb.ram_fill 0 0 count
  exact hfill 0x10000

theorem ram_programMode (base : CrtcBase) (spec : ModeSpec) :
    (m.programMode base spec).hardware.ram = m.hardware.ram := by
  cases hmap : spec.characterMap <;> simp [programMode, hmap]

theorem ram_activate (settings : Settings) (spec : ModeSpec) :
    (m.activate settings spec).hardware.ram = m.hardware.ram := by
  unfold activate
  split <;> split <;> simp [ram_loadFont, ram_clearPlanes, ram_programMode]

theorem ram_bringUp (settings : Settings) :
    (m.bringUp settings).hardware.ram = m.hardware.ram := by
  rw [(m.sameMemory_bringUp settings).ram, ram_loadFont, (m.sameMemory_resetPath _).ram]

end Machine

/-! ## Operations of the service -/

namespace Service

variable (s : Service (Board bus))

theorem ram_emit (e : Event) : (s.emit e).machine.hardware.ram = s.machine.hardware.ram := rfl

/-- The memory of two services is the same. -/
def SameMemory (s t : Service (Board bus)) : Prop :=
  s.machine.hardware.SameMemory t.machine.hardware

theorem sameMemory_applyCursor (p : Position) : s.SameMemory (s.applyCursor p) :=
  s.machine.sameMemory_writeRegPair _ _ _

theorem sameMemory_setCursorPosition (page x y : UInt8) :
    s.SameMemory (s.setCursorPosition page x y).2 := by
  unfold setCursorPosition
  split
  · exact .refl _
  · simp only
    split
    · exact sameMemory_applyCursor _ _
    · exact .refl _

theorem sameMemory_setActivePage (page : UInt8) : s.SameMemory (s.setActivePage page).2 := by
  unfold setActivePage
  split
  · exact .refl _
  · next slot _ =>
    let t := (s.update (·.setStartAddress s.settings.crtc (s.screen.pageStart page))).setScreen
      { s.screen with activePage := page }
    have hstart : s.SameMemory t := s.machine.sameMemory_writeRegPair _ _ _
    exact hstart.trans (t.sameMemory_applyCursor (s.screen.cursor slot))

theorem sameMemory_cursorPosition (page : UInt8) : s.SameMemory (s.cursorPosition page).2 := by
  unfold cursorPosition
  split
  · exact .refl _
  · exact s.machine.sameMemory_cursorShape _

theorem sameMemory_lookCell (page : UInt8) (p : Position) :
    s.SameMemory (s.lookCell page p).2 := by
  let start := s.screen.pageStart page
  have hopen := s.machine.hardware.sameMemory_openView .cells start
  have hload := Board.sameMemory_loadWord (s.machine.hardware.openView .cells start)
    (s.screen.cellIndex p * 2)
  have hclose := s.machine.hardware.sameMemory_within .cells start fun b =>
    (Backend.loadWord b (s.screen.cellIndex p * 2)).2
  rw [SameMemory, lookCell, machine_query, Machine.hardware_inspect_query]
  exact (hopen.trans hload).trans hclose

theorem sameMemory_readCell (page : UInt8) : s.SameMemory (s.readCell page).2 := by
  cases hp : s.cursorOf page with
  | error e =>
    simp only [readCell, hp]
    exact .refl _
  | ok p =>
    rw [s.readCell_eq hp]
    exact s.sameMemory_lookCell page p

theorem sameMemory_stringLength (buffer : UInt32) : s.SameMemory (s.stringLength buffer).2 := by
  have hscan := Board.sameMemory_findZero s.machine.hardware buffer 0 s.settings.scanLimit.toNat
  unfold stringLength
  simp only
  split <;> exact hscan

theorem ram_setMode (mode : UInt8) :
    (s.setMode mode).2.machine.hardware.ram = s.machine.hardware.ram := by
  unfold setMode
  split
  · rfl
  · simp only [ram_emit]
    split
    · rw [(sameMemory_applyCursor _ _).ram, machine_setScreen, machine_update,
        Machine.ram_activate]
    · rw [machine_setScreen, machine_update, Machine.ram_activate]

theorem ram_powerOn {spec : ModeSpec} (h : ModeSpec.lookup s.settings.initialMode = .ok spec) :
    s.powerOn.2.machine.hardware.ram = s.machine.hardware.ram := by
  have hset := (s.update (·.bringUp s.settings)).ram_setMode s.settings.initialMode
  rw [machine_update, Machine.ram_bringUp] at hset
  rw [s.powerOn_eq h, ram_emit, hset]

theorem ram_poweredOn (mode : UInt8) {spec : ModeSpec}
    (h : ModeSpec.lookup mode = .ok spec) : (poweredOn mode).machine.hardware.ram = .blank :=
  ram_powerOn _ h

theorem ram_scrollPage (page : UInt8) (direction : Direction) (count attr columns rows : UInt8) :
    (s.scrollPage page direction count attr columns rows).machine.hardware.ram =
      s.machine.hardware.ram := by
  by_cases h : count = 0
  · rw [scrollPage, if_pos h]
  · rw [s.hardware_scrollPage h]
    exact (Board.shielded_openView _ _ _ _).ram_scrollCells _ _ _ _

theorem ram_writeCharacters (page chr : UInt8) (count : UInt16) :
    (s.writeCharacters page chr count).2.machine.hardware.ram = s.machine.hardware.ram := by
  cases hp : s.cursorOf page with
  | error e => simp only [writeCharacters, hp]
  | ok p =>
    rw [s.hardware_writeCharacters hp]
    exact (Board.shielded_openView _ _ _ _).ram_fill _ _ _

theorem ram_putText (page : UInt8) (options : StringOptions) (index : UInt16)
    (buffer : UInt32) (length : UInt16) (attr : UInt8) :
    (s.putText page options index buffer length attr).machine.hardware.ram =
      s.machine.hardware.ram := by
  rw [s.hardware_putText]
  exact (Board.shielded_openView _ _ _ _).ram_putString _ _ _ _ _

theorem ram_writeString (options : StringOptions) (buffer : UInt32) (attr x y : UInt8) :
    (s.writeString options buffer attr x y).2.machine.hardware.ram = s.machine.hardware.ram :=
  writeString_keeps (P := fun t => t.machine.hardware.ram = s.machine.hardware.ram) s
    (s.sameMemory_stringLength buffer).ram
    (fun page index length ht => (ram_putText _ page options index buffer length attr).trans ht)
    (fun page x y ht => (sameMemory_setCursorPosition _ page x y).ram.trans ht) x y

theorem ram_answer {α : Type} (function : Selector) (r : RegisterImage)
    (result : Except Rejection α × Service (Board bus)) (put : α → RegisterImage) :
    (answer function r result put).2.machine.hardware.ram = result.2.machine.hardware.ram := by
  rcases result with ⟨e | a, t⟩ <;> rfl

/-- A call that writes no cells leaves the caller's memory alone. -/
theorem ram_dispatch {function : Selector} (h₁ : function ≠ .writeCells)
    (h₂ : function ≠ .teletype) (r : RegisterImage) :
    (s.dispatch function r).2.machine.hardware.ram = s.machine.hardware.ram := by
  cases function with
  | setMode =>
    have hset := s.ram_setMode (r.get .al)
    simp only [dispatch]
    generalize s.setMode (r.get .al) = q at hset
    rcases q with ⟨e | _, t⟩
    · exact hset
    · exact hset
  | setCursorShape => exact (s.machine.sameMemory_setCursorShape _ _).ram
  | moveCursor => exact (ram_answer _ _ _ _).trans (s.sameMemory_setCursorPosition _ _ _).ram
  | readCursor => exact (ram_answer _ _ _ _).trans (s.sameMemory_cursorPosition _).ram
  | showPage => exact (ram_answer _ _ _ _).trans (s.sameMemory_setActivePage _).ram
  | scrollUp => exact s.ram_scrollPage _ _ _ _ _ _
  | scrollDown => exact s.ram_scrollPage _ _ _ _ _ _
  | readCell => exact (ram_answer _ _ _ _).trans (s.sameMemory_readCell _).ram
  | writeCells => exact absurd rfl h₁
  | writeCharacters => exact (ram_answer _ _ _ _).trans (s.ram_writeCharacters _ _ _)
  | setPalette | getMode => rfl
  | teletype => exact absurd rfl h₂
  | writeString => exact (ram_answer _ _ _ _).trans (s.ram_writeString _ _ _ _ _)

end Service

end VgaFirmware
