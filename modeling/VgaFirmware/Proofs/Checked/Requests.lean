import VgaFirmware.Proofs.Checked.Text
import VgaFirmware.Service.Request

/-!
# Requests never stop

Requests on numbers as they are kept. Each comes to what the service does (`perform_raw`), so on
an adapter that any accesses have been made to, and whatever the screen, the settings and the
memory hold, no request stops at a number that does not fit its type, at a zero divisor or at an
index out of bounds (`perform_never_stops`).
-/

namespace VgaFirmware

namespace RawService

/-! ## The register-level interface -/

/-- Puts a result into the registers, or leaves them alone if there is none. -/
def answer {α : Type} (r : RegisterImage) (result : Work RawService (Except Rejection α))
    (put : α → RegisterImage) : Work RawService RegisterImage := do
  match ← result with
  | .ok a => return put a
  | .error _ => return r

/-- The string that `writeString` is asked for lies at a segment and an offset. -/
def interruptString (r : RegisterImage) : Work RawService RegisterImage := do
  let buffer ← Checked.long (r.es.toNat * 16 + r.bp.toNat)
  answer r (writeString (.ofByte (r.get .al)) buffer (r.get .bl) (r.get .dl) (r.get .dh)) fun _ => r

def dispatch (function : Selector) (r : RegisterImage) : Work RawService RegisterImage :=
  match function with
  | .setMode => do
    match ← setMode (r.get .al) with
    | .ok () => return r
    | .error _ => return r.set .al 0xFF
  | .setCursorShape => do
    setCursorShape (.of (r.get .ch) (r.get .cl))
    return r
  | .moveCursor =>
    answer r (setCursorPosition (r.get .bh) (r.get .dl) (r.get .dh)) fun _ => { r with ax := 0 }
  | .readCursor =>
    answer r (cursorPosition (r.get .bh)) fun (shape, p) =>
      let r := { r with ax := 0 }
      (((r.set .ch shape.first).set .cl shape.last).set .dl p.x).set .dh p.y
  | .showPage => answer r (setActivePage (r.get .al)) fun _ => r
  | .scrollUp => do
    scroll .up (r.get .al) (r.get .bh) (Byte.up (r.get .dl)) (Byte.up (r.get .dh))
    return r
  | .scrollDown => do
    scroll .down (r.get .al) (r.get .bh) (Byte.up (r.get .dl)) (Byte.up (r.get .dh))
    return r
  | .readCell => answer r (readCell (r.get .bh)) fun c => (r.set .ah c.attr).set .al c.chr
  | .writeCells => answer r (writeCells (r.get .bh) ⟨r.get .al, r.get .bl⟩ r.cx) fun _ => r
  | .writeCharacters => answer r (writeCharacters (r.get .bh) (r.get .al) r.cx) fun _ => r
  | .setPalette => return r
  | .teletype => answer r (teletype (r.get .bh) ⟨r.get .al, r.get .bl⟩) fun _ => r
  | .getMode => do
    let s ← get
    return ((r.set .ah s.screen.columns).set .al s.screen.mode).set .bh s.screen.activePage
  | .writeString => interruptString r

def interrupt (r : RegisterImage) : Work RawService RegisterImage :=
  match Selector.ofCode? (r.get .ah) with
  | none => return r
  | some function => dispatch function r

/-! ## Requests -/

/-- What an operation answers, if it is not refused. -/
def answering {α : Type} (x : Work RawService (Except Rejection α)) (f : α → Answer) :
    Work RawService (Except Rejection Answer) := do
  let result ← x
  return result.map f

/-- What an operation answers that is never refused. -/
def giving {α : Type} (x : Work RawService α) (f : α → Answer) :
    Work RawService (Except Rejection Answer) := do
  let a ← x
  return .ok (f a)

/-- Carries out a request. -/
def perform : Request → Work RawService (Except Rejection Answer)
  | .powerOn => answering powerOn fun _ => .done
  | .setMode mode => answering (setMode mode) fun _ => .done
  | .modeInfo => giving get fun s =>
    .mode ⟨s.screen.columns, s.screen.mode, s.screen.activePage⟩
  | .setCursorShape shape => giving (setCursorShape shape) fun _ => .done
  | .cursorShape => giving cursorShape .shape
  | .setCursorPosition page x y => answering (setCursorPosition page x y) fun _ => .done
  | .cursorPosition page => answering (cursorPosition page) fun (k, p) => .cursor k p
  | .setActivePage page => answering (setActivePage page) fun _ => .done
  | .scroll direction count attr columns rows =>
    giving (scroll direction count attr columns rows) fun _ => .done
  | .writeCells page c count => answering (writeCells page c count) fun _ => .done
  | .writeCharacters page chr count => answering (writeCharacters page chr count) fun _ => .done
  | .teletype page c => answering (teletype page c) fun _ => .done
  | .teletypeAll page cells => answering (teletypeAll page cells) fun _ => .done
  | .writeString options buffer attr x y =>
    answering (writeString options buffer attr x y) .length
  | .readCell page => answering (readCell page) .cell
  | .interrupt r => giving (interrupt r) .registers

variable (s : Service (Board .word))

theorem answer_raw {α : Type} (function : Selector) (r : RegisterImage)
    {x : Work RawService (Except Rejection α)} {result : Except Rejection α × Service (Board .word)}
    (h : x.run s.raw = .ok (result.1, result.2.raw)) (put : α → RegisterImage) :
    (answer r x put).run s.raw =
      .ok ((Service.answer function r result put).1,
        (Service.answer function r result put).2.raw) := by
  rw [answer, Work.run_bind h]
  obtain ⟨result, t⟩ := result
  cases result <;> rfl

theorem interruptString_raw (r : RegisterImage) :
    (interruptString r).run s.raw =
      .ok ((s.dispatch .writeString r).1, (s.dispatch .writeString r).2.raw) := by
  have hes := r.es.toNat_lt
  have hbp := r.bp.toNat_lt
  have hbuffer : Checked.long (r.es.toNat * 16 + r.bp.toNat) =
      .ok (UInt32.ofNat (r.es.toNat * 16 + r.bp.toNat)) := Checked.long_eq (by omega) (by omega)
  have hwrap : UInt32.ofNat (r.es.toNat * 16 + r.bp.toNat) =
      r.es.toUInt32 * 16 + r.bp.toUInt32 := by
    have hsixteen : (16 : UInt32).toNat = 16 := rfl
    rw [← UInt32.toNat_inj, UInt32.toNat_ofNat', UInt32.toNat_add, UInt32.toNat_mul, hsixteen,
      UInt16.toNat_toUInt32, UInt16.toNat_toUInt32]
    omega
  rw [interruptString, Work.run_bind (Work.run_lift hbuffer _), hwrap]
  exact answer_raw s .writeString r (writeString_raw s _ _ _ _ _) _

theorem dispatch_raw (function : Selector) (r : RegisterImage) :
    (dispatch function r).run s.raw =
      .ok ((s.dispatch function r).1, (s.dispatch function r).2.raw) := by
  cases function with
  | setMode =>
    rw [dispatch, Work.run_bind (setMode_raw s _), Service.dispatch]
    generalize s.setMode (r.get .al) = result
    obtain ⟨result, t⟩ := result
    cases result <;> rfl
  | setCursorShape => exact Work.run_bind (setCursorShape_raw s _) _
  | moveCursor => exact answer_raw s _ r (setCursorPosition_raw s _ _ _) _
  | readCursor => exact answer_raw s _ r (cursorPosition_raw s _) _
  | showPage => exact answer_raw s _ r (setActivePage_raw s _) _
  | scrollUp => exact Work.run_bind (scroll_raw s .up _ _ _ _) _
  | scrollDown => exact Work.run_bind (scroll_raw s .down _ _ _ _) _
  | readCell => exact answer_raw s _ r (readCell_raw s _) _
  | writeCells => exact answer_raw s _ r (writeCells_raw s _ _ _) _
  | writeCharacters => exact answer_raw s _ r (writeCharacters_raw s _ _ _) _
  | setPalette => rfl
  | teletype => exact answer_raw s _ r (teletype_raw s _ _) _
  | getMode => rfl
  | writeString => exact interruptString_raw s r

theorem interrupt_raw (r : RegisterImage) :
    (interrupt r).run s.raw = .ok ((s.interrupt r).1, (s.interrupt r).2.raw) := by
  rw [interrupt, Service.interrupt]
  cases Selector.ofCode? (r.get .ah) with
  | none => rfl
  | some function => exact dispatch_raw (s.emit (.called function r.ax)) function r

theorem answering_raw {α : Type} {x : Work RawService (Except Rejection α)}
    {result : Except Rejection α × Service (Board .word)}
    (h : x.run s.raw = .ok (result.1, result.2.raw)) (f : α → Answer) :
    (answering x f).run s.raw =
      .ok ((result.map (·.map f) id).1, (result.map (·.map f) id).2.raw) := Work.run_bind h _

theorem giving_raw {α : Type} {x : Work RawService α} {result : α × Service (Board .word)}
    (h : x.run s.raw = .ok (result.1, result.2.raw)) (f : α → Answer) :
    (giving x f).run s.raw = .ok (.ok (f result.1), result.2.raw) := Work.run_bind h _

/-- Every request, made on numbers as they are kept, comes to what the service does. -/
theorem perform_raw (request : Request) :
    (perform request).run s.raw = .ok ((s.perform request).1, (s.perform request).2.raw) := by
  cases request with
  | powerOn => exact answering_raw s (powerOn_raw s) _
  | setMode mode => exact answering_raw s (setMode_raw s mode) _
  | modeInfo => rfl
  | setCursorShape shape => exact Work.run_bind (setCursorShape_raw s shape) _
  | cursorShape => exact giving_raw s (cursorShape_raw s) _
  | setCursorPosition page x y => exact answering_raw s (setCursorPosition_raw s page x y) _
  | cursorPosition page => exact answering_raw s (cursorPosition_raw s page) _
  | setActivePage page => exact answering_raw s (setActivePage_raw s page) _
  | scroll direction count attr columns rows => exact Work.run_bind (scroll_raw s _ _ _ _ _) _
  | writeCells page c count => exact answering_raw s (writeCells_raw s page c count) _
  | writeCharacters page chr count =>
    exact answering_raw s (writeCharacters_raw s page chr count) _
  | teletype page c => exact answering_raw s (teletype_raw s page c) _
  | teletypeAll page cells => exact answering_raw s (teletypeAll_raw s page cells) _
  | writeString options buffer attr x y =>
    exact answering_raw s (writeString_raw s options buffer attr x y) _
  | readCell page => exact answering_raw s (readCell_raw s page) _
  | interrupt r => exact giving_raw s (interrupt_raw s r) _

/-- After any accesses to a new adapter, none of which stops, no request stops either, whatever
the settings, the screen, the window and the memory are. -/
theorem perform_never_stops (accesses : List DeviceAccess) (settings : Settings) (screen : Screen)
    (window : UInt16) (ram : Ram) (request : Request) :
    let a := accesses.foldl Adapter.serve .powerOn
    let result := (Service.mk settings screen
      (.ofHardware (Board.mk window ram a : Board .word))).perform request
    accesses.foldlM RawAdapter.serve .powerOn = .ok a.raw ∧
      (perform request).run ⟨settings, screen, ⟨window, ram.bytes, a.raw⟩⟩ =
        .ok (result.1, result.2.raw) :=
  ⟨RawAdapter.serveAll_powerOn accesses,
    perform_raw ⟨settings, screen, .ofHardware ⟨window, ram, _⟩⟩ request⟩

end RawService

end VgaFirmware
