import VgaFirmware.Proofs.Calls
import VgaFirmware.Proofs.Operations

/-!
# What calls keep

Output and reading are quiet, so whether calls keep a property of services is a matter of three
operations: moving a cursor, showing a page and setting a mode. If these keep it then every request
that leaves the mode as it is does (`Kept.perform`), and every call (`Kept.interrupt`).
-/

namespace VgaFirmware.Service

variable {bus : BusWidth}

/-- What quiet work and moving the cursor of a page keep, typing a cell on the page keeps. -/
theorem teletype_keeps {P : Service (Board bus) → Prop} {page : UInt8}
    (hquiet : ∀ {s t}, P s → s.Quiet t → P t)
    (hmove : ∀ {s} x y, P s → P (s.setCursorPosition page x y).2) {s : Service (Board bus)}
    (h : P s) (c : Cell) : P (s.teletype page c).2 := by
  cases hp : s.cursorOf page with
  | error e =>
    simp only [Service.teletype, hp]
    exact h
  | ok p =>
    have hput := hquiet h (s.quiet_putCell page p c)
    rw [s.teletype_eq hp]
    split
    · exact hmove _ _ hput
    · split
      · exact hmove _ _ hput
      · exact hmove _ _ (hquiet hput (quiet_scrollPage _ _ _ _ _ _ _))

/-- A property that quiet work keeps, and that moving a cursor or showing a page does. -/
structure Kept (P : Service (Board bus) → Prop) : Prop where
  quiet : ∀ {s t}, P s → s.Quiet t → P t
  setCursorPosition : ∀ {s} (page x y : UInt8), P s → P (s.setCursorPosition page x y).2
  setActivePage : ∀ {s} (page : UInt8), P s → P (s.setActivePage page).2

namespace Kept

/-- If the property is kept for each parameter, that it holds for some is kept. -/
theorem exists_of_forall {ι : Type} {P : ι → Service (Board bus) → Prop}
    (kept : ∀ i, Kept (P i)) : Kept fun s => ∃ i, P i s where
  quiet := fun ⟨i, h⟩ q => ⟨i, (kept i).quiet h q⟩
  setCursorPosition page x y := fun ⟨i, h⟩ => ⟨i, (kept i).setCursorPosition page x y h⟩
  setActivePage page := fun ⟨i, h⟩ => ⟨i, (kept i).setActivePage page h⟩

variable {P : Service (Board bus) → Prop} {s : Service (Board bus)}

theorem teletype (kept : Kept P) (h : P s) (page : UInt8) (c : Cell) :
    P (s.teletype page c).2 :=
  teletype_keeps kept.quiet (fun x y => kept.setCursorPosition page x y) h c

theorem writeString (kept : Kept P) (h : P s) (options : StringOptions) (buffer : UInt32)
    (attr x y : UInt8) : P (s.writeString options buffer attr x y).2 :=
  writeString_keeps (P := P) s (kept.quiet h (s.quiet_stringLength buffer))
    (fun page index length ht =>
      kept.quiet ht (quiet_putText _ page options index buffer length attr))
    (fun page x y => kept.setCursorPosition page x y) x y

theorem teletypeAll (kept : Kept P) (h : P s) (page : UInt8) (cells : List Cell) :
    P (s.teletypeAll page cells).2 :=
  teletypeAll_keeps (P := P) (fun c ht => kept.teletype ht page c) h cells

/-- Every request that leaves the mode as it is keeps the property. -/
theorem perform (kept : Kept P) (h : P s) {q : Request} (hq : q.keepsMode = true) :
    P (s.perform q).2 := by
  cases q with
  | powerOn | setMode _ | interrupt _ => cases hq
  | modeInfo => exact h
  | setCursorShape shape => exact kept.quiet h (s.quiet_setCursorShape shape)
  | cursorShape => exact kept.quiet h s.quiet_cursorShape
  | setCursorPosition page x y => exact kept.setCursorPosition page x y h
  | cursorPosition page => exact kept.quiet h (s.quiet_cursorPosition page)
  | setActivePage page => exact kept.setActivePage page h
  | scroll direction count attr columns rows =>
    exact kept.quiet h (s.quiet_scrollPage _ direction count attr columns rows)
  | writeCells page c count => exact kept.quiet h (s.quiet_writeCells page c count)
  | writeCharacters page chr count => exact kept.quiet h (s.quiet_writeCharacters page chr count)
  | teletype page c => exact kept.teletype h page c
  | teletypeAll page cells => exact kept.teletypeAll h page cells
  | writeString options buffer attr x y => exact kept.writeString h options buffer attr x y
  | readCell page => exact kept.quiet h (s.quiet_readCell page)

/-- What setting a mode keeps, too, is kept by every call. -/
theorem interrupt (kept : Kept P) (hmode : ∀ {s} (mode : UInt8), P s → P (s.setMode mode).2)
    (h : P s) (r : RegisterImage) : P (s.interrupt r).2 := by
  refine interrupt_keeps (fun e h => kept.quiet h (quiet_emit _ e)) ?_ h
  intro t function q _ hrequest ht
  rcases Selector.request_cases hrequest with rfl | hq
  · exact hmode _ ht
  · exact kept.perform ht hq

end Kept

end VgaFirmware.Service
