import VgaFirmware.Service.Request

/-!
# Calls as requests

A call of the register-level interface carries out one request, made of the arguments in the
registers (`Selector.request`). Apart from the events that report it, the call leaves the service
that the request leaves (`dispatch_of_ok`, `dispatch_of_error`), so what requests and reports keep
is kept by every call (`interrupt_keeps`).
-/

namespace VgaFirmware

/-- Requests that leave the mode as it is. A call may carry out any request. -/
def Request.keepsMode : Request → Bool
  | .powerOn | .setMode _ | .interrupt _ => false
  | _ => true

namespace Selector

/-- The request that a function makes of its arguments. One function is reserved and makes none. -/
def request (function : Selector) (r : RegisterImage) : Option Request :=
  match function with
  | setMode => some (.setMode (r.get .al))
  | setCursorShape => some (.setCursorShape (.of (r.get .ch) (r.get .cl)))
  | moveCursor => some (.setCursorPosition (r.get .bh) (r.get .dl) (r.get .dh))
  | readCursor => some (.cursorPosition (r.get .bh))
  | showPage => some (.setActivePage (r.get .al))
  | scrollUp =>
    some (.scroll .up (r.get .al) (r.get .bh) (Byte.up (r.get .dl)) (Byte.up (r.get .dh)))
  | scrollDown =>
    some (.scroll .down (r.get .al) (r.get .bh) (Byte.up (r.get .dl)) (Byte.up (r.get .dh)))
  | readCell => some (.readCell (r.get .bh))
  | writeCells => some (.writeCells (r.get .bh) ⟨r.get .al, r.get .bl⟩ r.cx)
  | writeCharacters => some (.writeCharacters (r.get .bh) (r.get .al) r.cx)
  | setPalette => none
  | teletype => some (.teletype (r.get .bh) ⟨r.get .al, r.get .bl⟩)
  | getMode => some .modeInfo
  | writeString =>
    some (.writeString (.ofByte (r.get .al)) (r.es.toUInt32 * 16 + r.bp.toUInt32) (r.get .bl)
      (r.get .dl) (r.get .dh))

/-- The registers after the request of a function was refused. -/
def refusal (function : Selector) (r : RegisterImage) : RegisterImage :=
  if function = .setMode then r.set .al 0xFF else r

/-- The event that reports why the request of a function was refused. -/
def complaint (function : Selector) (cause : Rejection) : Event :=
  if function = .setMode then .modeRefused cause else .requestIgnored function cause

/-- The registers after the request of a function was carried out. -/
def result (function : Selector) (r : RegisterImage) (a : Answer) : RegisterImage :=
  match function, a with
  | moveCursor, _ => { r with ax := 0 }
  | readCursor, .cursor shape p =>
    ((({ r with ax := 0 }.set .ch shape.first).set .cl shape.last).set .dl p.x).set .dh p.y
  | readCell, .cell c => (r.set .ah c.attr).set .al c.chr
  | getMode, .mode info => ((r.set .ah info.columns).set .al info.mode).set .bh info.activePage
  | _, _ => r

/-- A function sets the mode that AL names, or leaves the mode as it is. -/
theorem request_cases {function : Selector} {r : RegisterImage} {q : Request}
    (h : function.request r = some q) : q = .setMode (r.get .al) ∨ q.keepsMode = true := by
  cases function with
  | setMode => exact .inl (Option.some.inj h).symm
  | setPalette => cases h
  | _ =>
    obtain rfl := Option.some.inj h
    exact .inr rfl

end Selector

namespace Service

variable {B : Type} {t : Service B} {function : Selector} {r : RegisterImage}

section Answers

variable {α : Type} {result : Except Rejection α × Service B} {g : α → Answer}
  {put : α → RegisterImage}

theorem answer_of_error {e : Rejection} (h : result.map (·.map g) id = (.error e, t)) :
    answer function r result put = (r, t.emit (.requestIgnored function e)) := by
  rcases result with ⟨_ | _, u⟩
  · cases h
    rfl
  · cases h

theorem answer_of_ok {a : Answer} (hput : ∀ x, put x = function.result r (g x))
    (h : result.map (·.map g) id = (.ok a, t)) :
    answer function r result put = (function.result r a, t) := by
  rcases result with ⟨_ | x, u⟩
  · cases h
  · cases h
    exact congrArg (·, u) (hput x)

end Answers

variable [Backend B] {s : Service B} {q : Request}

/-- A call whose request is refused leaves the registers alone, but for the mark of an unknown
mode, and reports the cause. -/
theorem dispatch_of_error {e : Rejection} (hq : function.request r = some q)
    (h : s.perform q = (.error e, t)) :
    s.dispatch function r = (function.refusal r, t.emit (function.complaint e)) := by
  cases function with
  | setMode =>
    cases hq
    simp only [perform] at h
    simp only [dispatch]
    generalize s.setMode (r.get .al) = result at h
    rcases result with ⟨_ | _, u⟩
    · cases h
      rfl
    · cases h
  | moveCursor | readCursor | showPage | readCell | writeCells | writeCharacters | teletype
  | writeString =>
    cases hq
    exact answer_of_error h
  | setCursorShape | scrollUp | scrollDown | getMode =>
    cases hq
    cases h
  | setPalette => cases hq

/-- A call whose request is carried out answers what the request answers, and leaves the service
that the request leaves. -/
theorem dispatch_of_ok {a : Answer} (hq : function.request r = some q)
    (h : s.perform q = (.ok a, t)) : s.dispatch function r = (function.result r a, t) := by
  cases function with
  | setMode =>
    cases hq
    simp only [perform] at h
    simp only [dispatch]
    generalize s.setMode (r.get .al) = result at h
    rcases result with ⟨_ | _, u⟩
    · cases h
    · cases h
      rfl
  | moveCursor | readCursor | showPage | readCell | writeCells | writeCharacters | teletype
  | writeString =>
    cases hq
    exact answer_of_ok (fun _ => rfl) h
  | setCursorShape | scrollUp | scrollDown | getMode =>
    cases hq
    cases h
    rfl
  | setPalette => cases hq

/-- What each cell keeps, a row of them keeps, up to the one that is refused. -/
theorem teletypeAll_keeps {P : Service B → Prop} {page : UInt8}
    (h : ∀ {s} c, P s → P (s.teletype page c).2) (hs : P s) (cells : List Cell) :
    P (s.teletypeAll page cells).2 := by
  induction cells generalizing s with
  | nil => exact hs
  | cons c rest ih =>
    have hfirst := h c hs
    rw [teletypeAll]
    generalize s.teletype page c = result at hfirst
    rcases result with ⟨_ | _, t⟩
    · exact hfirst
    · exact ih hfirst

/-- What requests and reports keep, every call keeps. -/
theorem interrupt_keeps {P : Service B → Prop} (hemit : ∀ {s} e, P s → P (s.emit e))
    (hperform : ∀ {s} function q, Selector.ofCode? (r.get .ah) = some function →
      function.request r = some q → P s → P (s.perform q).2)
    (h : P s) : P (s.interrupt r).2 := by
  unfold interrupt
  split
  · exact hemit _ h
  · next function hfunction =>
    have hcalled : P (s.emit (.called function r.ax)) := hemit _ h
    generalize s.emit (.called function r.ax) = u at hcalled
    cases hq : function.request r with
    | none =>
      cases function <;> cases hq
      exact hcalled
    | some q =>
      have hdone := hperform function q hfunction hq hcalled
      rcases hresult : u.perform q with ⟨_ | _, v⟩
      · rw [hresult] at hdone
        rw [dispatch_of_error hq hresult]
        exact hemit _ hdone
      · rw [hresult] at hdone
        rw [dispatch_of_ok hq hresult]
        exact hdone

/-- Serves calls in order. -/
def serve (s : Service B) (calls : List RegisterImage) : Service B :=
  calls.foldl (fun s r => (s.interrupt r).2) s

/-- The registers that calls leave, one after the other. -/
def replies (s : Service B) : List RegisterImage → List RegisterImage
  | [] => []
  | r :: rest => (s.interrupt r).1 :: (s.interrupt r).2.replies rest

/-- What every call keeps is kept by any number of them. -/
theorem serve_keeps {P : Service B → Prop} (h : ∀ {s} r, P s → P (s.interrupt r).2) (hs : P s)
    (calls : List RegisterImage) : P (s.serve calls) := by
  induction calls generalizing s with
  | nil => exact hs
  | cons r rest ih => exact ih (h r hs)

end Service

end VgaFirmware
