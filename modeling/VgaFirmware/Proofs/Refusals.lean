import VgaFirmware.Proofs.ScreenMoves

/-!
# Refused requests

A request is refused for one of two causes, a mode that is not in the table or a page that does not
exist, and which of them holds is read off its arguments (`Request.cause`). A refusal comes before
anything else: it leaves the service exactly as it was (`Settles`). Writing a string depends on the
page on display, which always exists, so it is never refused.
-/

namespace VgaFirmware

/-! ## Causes -/

/-- A mode number that no mode of the table has. -/
def ModeSpec.cause (mode : UInt8) : Option Rejection :=
  if mode ∈ table.map (·.mode) then none else some (.unknownMode mode)

/-- A page number past the last page. -/
def Page.cause (page : UInt8) : Option Rejection :=
  if 7 < page.toNat then some (.noSuchPage page) else none

/-- Why a request is refused, if it is. -/
def Request.cause (settings : Settings) : Request → Option Rejection
  | .powerOn => ModeSpec.cause settings.initialMode
  | .setMode mode => ModeSpec.cause mode
  | .setCursorPosition page _ _ | .cursorPosition page | .setActivePage page
  | .writeCells page _ _ | .writeCharacters page _ _ | .teletype page _ | .readCell page =>
    Page.cause page
  | .teletypeAll page cells => if cells = [] then none else Page.cause page
  | .modeInfo | .setCursorShape _ | .cursorShape | .scroll .. | .writeString .. | .interrupt _ =>
    none

theorem ModeSpec.cause_of_ok {mode : UInt8} {spec : ModeSpec} (h : lookup mode = .ok spec) :
    cause mode = none := by
  obtain ⟨hmem, rfl⟩ := lookup_eq_ok h
  exact if_pos (List.mem_map_of_mem hmem)

theorem ModeSpec.cause_of_error {mode : UInt8} {e : Rejection} (h : lookup mode = .error e) :
    cause mode = some e := by
  have he : e = .unknownMode mode := by
    unfold lookup at h
    split at h <;> cases h
    rfl
  subst he
  refine if_neg fun hmem => ?_
  obtain ⟨spec, hspec, hmode⟩ := List.mem_map.mp hmem
  exact lookup_eq_error.mp h spec hspec hmode

theorem Page.cause_of_ok {b : UInt8} {page : Page} (h : ofByte b = .ok page) :
    cause b = none := by
  have hval := ofByte_eq_ok.mp h
  exact if_neg (by omega)

theorem Page.cause_of_error {b : UInt8} {e : Rejection} (h : ofByte b = .error e) :
    cause b = some e := by
  unfold ofByte at h
  split at h
  · cases h
  · cases h
    exact if_pos (by omega)

namespace Service

variable {B : Type}

/-- The outcome of a request: refused if there is a cause, with the service as it was, and carried
out if there is none. -/
def Settles (s : Service B) (cause : Option Rejection) {α : Type}
    (outcome : Except Rejection α × Service B) : Prop :=
  match cause with
  | some e => outcome = (.error e, s)
  | none => ∃ a, outcome.1 = .ok a

/-- Same settings, screen and hardware, and no bus cycle in between. Something may have been
reported. -/
structure Untouched (s t : Service B) : Prop where
  settings : t.settings = s.settings
  screen : t.screen = s.screen
  hardware : t.machine.hardware = s.machine.hardware
  cycles : t.machine.cycles = s.machine.cycles

namespace Settles

variable {s : Service B} {cause : Option Rejection} {α β : Type}
  {outcome : Except Rejection α × Service B}

theorem map (h : s.Settles cause outcome) (g : α → β) :
    s.Settles cause (outcome.map (·.map g) id) := by
  cases cause with
  | some e =>
    obtain rfl : outcome = (.error e, s) := h
    rfl
  | none =>
    obtain ⟨a, ha⟩ := h
    refine ⟨g a, ?_⟩
    rw [Prod.map_fst, ha]
    rfl

theorem error_iff (h : s.Settles cause outcome) (e : Rejection) :
    outcome.1 = .error e ↔ cause = some e := by
  cases cause with
  | some e' =>
    obtain rfl : outcome = (.error e', s) := h
    simp
  | none =>
    obtain ⟨a, ha⟩ := h
    simp [ha]

theorem eq_of_error (h : s.Settles cause outcome) {e : Rejection} (he : outcome.1 = .error e) :
    outcome = (.error e, s) := by
  obtain rfl := (h.error_iff e).mp he
  exact h

theorem eq_of_cause (h : s.Settles cause outcome) {e : Rejection} (hcause : cause = some e) :
    outcome = (.error e, s) :=
  h.eq_of_error ((h.error_iff e).mpr hcause)

theorem exists_ok (h : s.Settles cause outcome) (hcause : cause = none) :
    ∃ a, outcome.1 = .ok a := by
  subst hcause
  exact h

end Settles

theorem cause_of_cursorOf_error (s : Service B) {page : UInt8} {e : Rejection}
    (h : s.cursorOf page = .error e) : Page.cause page = some e := by
  unfold cursorOf at h
  cases hslot : Page.ofByte page with
  | error e' =>
    rw [hslot] at h
    cases h
    exact Page.cause_of_error hslot
  | ok slot =>
    rw [hslot] at h
    cases h

theorem cause_of_cursorOf_ok (s : Service B) {page : UInt8} {p : Position}
    (h : s.cursorOf page = .ok p) : Page.cause page = none := by
  unfold cursorOf at h
  cases hslot : Page.ofByte page with
  | error e =>
    rw [hslot] at h
    cases h
  | ok slot => exact Page.cause_of_ok hslot

/-- An operation that begins with the cursor of a page is refused where there is none. -/
theorem settles_of_cursorOf (s : Service B) {α : Type} {page : UInt8}
    {outcome : Except Rejection α × Service B}
    (herror : ∀ e, s.cursorOf page = .error e → outcome = (.error e, s))
    (hok : ∀ p, s.cursorOf page = .ok p → ∃ a, outcome.1 = .ok a) :
    s.Settles (Page.cause page) outcome := by
  cases h : s.cursorOf page with
  | error e =>
    rw [s.cause_of_cursorOf_error h]
    exact herror e h
  | ok p =>
    rw [s.cause_of_cursorOf_ok h]
    exact hok p h

variable [Backend B] (s : Service B)

/-! ## Operations -/

theorem settles_setMode (mode : UInt8) : s.Settles (ModeSpec.cause mode) (s.setMode mode) := by
  rcases s.setMode_cases mode with ⟨spec, hspec, hok, -⟩ | ⟨e, he, hrefused⟩
  · rw [ModeSpec.cause_of_ok hspec]
    exact ⟨(), hok⟩
  · rw [ModeSpec.cause_of_error he]
    exact hrefused

theorem settles_powerOn : s.Settles (ModeSpec.cause s.settings.initialMode) s.powerOn := by
  rcases s.powerOn_cases with ⟨spec, hspec, hok, -⟩ | ⟨e, he, hrefused⟩
  · rw [ModeSpec.cause_of_ok hspec]
    exact ⟨(), hok⟩
  · rw [ModeSpec.cause_of_error he]
    exact hrefused

theorem settles_setCursorPosition (page x y : UInt8) :
    s.Settles (Page.cause page) (s.setCursorPosition page x y) := by
  unfold setCursorPosition
  split
  · next e he =>
    rw [Page.cause_of_error he]
    rfl
  · next slot hslot =>
    rw [Page.cause_of_ok hslot]
    exact ⟨(), rfl⟩

theorem settles_cursorPosition (page : UInt8) :
    s.Settles (Page.cause page) (s.cursorPosition page) := by
  unfold cursorPosition
  split
  · next e he =>
    rw [Page.cause_of_error he]
    rfl
  · next slot hslot =>
    rw [Page.cause_of_ok hslot]
    exact ⟨_, rfl⟩

theorem settles_setActivePage (page : UInt8) :
    s.Settles (Page.cause page) (s.setActivePage page) := by
  unfold setActivePage
  split
  · next e he =>
    rw [Page.cause_of_error he]
    rfl
  · next slot hslot =>
    rw [Page.cause_of_ok hslot]
    exact ⟨(), rfl⟩

theorem settles_writeCells (page : UInt8) (c : Cell) (count : UInt16) :
    s.Settles (Page.cause page) (s.writeCells page c count) :=
  s.settles_of_cursorOf (fun e h => by simp only [writeCells, h])
    fun p h => ⟨(), by simp only [writeCells, h]⟩

theorem settles_writeCharacters (page chr : UInt8) (count : UInt16) :
    s.Settles (Page.cause page) (s.writeCharacters page chr count) :=
  s.settles_of_cursorOf (fun e h => by simp only [writeCharacters, h])
    fun p h => ⟨(), by simp only [writeCharacters, h]⟩

theorem settles_readCell (page : UInt8) : s.Settles (Page.cause page) (s.readCell page) :=
  s.settles_of_cursorOf (fun e h => by simp only [readCell, h])
    fun p h => by simp only [readCell, h]; exact ⟨_, rfl⟩

/-- The page was checked before anything was written, so the last step of teletype output, which
checks it again, is not refused. -/
theorem settles_teletype (page : UInt8) (c : Cell) :
    s.Settles (Page.cause page) (s.teletype page c) := by
  refine s.settles_of_cursorOf (fun e h => by simp only [teletype, h]) fun p h => ?_
  have hmove (t : Service B) (x y : UInt8) : ∃ a, (t.setCursorPosition page x y).1 = .ok a :=
    (t.settles_setCursorPosition page x y).exists_ok (s.cause_of_cursorOf_ok h)
  simp only [teletype, h]
  split
  · exact hmove _ _ _
  · split <;> exact hmove _ _ _

theorem settles_teletypeAll (page : UInt8) (cells : List Cell) :
    s.Settles (if cells = [] then none else Page.cause page) (s.teletypeAll page cells) := by
  induction cells generalizing s with
  | nil => exact ⟨(), rfl⟩
  | cons c rest ih =>
    have hfirst := s.settles_teletype page c
    rw [if_neg (List.cons_ne_nil c rest), teletypeAll]
    cases hpage : Page.cause page with
    | some e =>
      rw [hfirst.eq_of_cause hpage]
      rfl
    | none =>
      obtain ⟨a, ha⟩ := hfirst.exists_ok hpage
      rcases hresult : s.teletype page c with ⟨_ | _, t⟩
      · rw [hresult] at ha
        cases ha
      · have hrest := ih t
        rw [hpage, ite_self] at hrest
        exact hrest

theorem screen_stringLength (buffer : UInt32) : (s.stringLength buffer).2.screen = s.screen := by
  unfold stringLength
  simp only
  split <;> rfl

/-- Writing a string is not refused as long as the page on display exists. -/
theorem settles_writeString (hpage : s.screen.activePage.toNat ≤ 7) (options : StringOptions)
    (buffer : UInt32) (attr x y : UInt8) :
    s.Settles none (s.writeString options buffer attr x y) := by
  have hscreen := s.screen_stringLength buffer
  unfold writeString
  generalize s.stringLength buffer = result at hscreen
  obtain ⟨length, t⟩ := result
  obtain ⟨settings, screen, machine⟩ := t
  obtain rfl : screen = s.screen := hscreen
  simp only
  split
  · have hcause : Page.cause s.screen.activePage = none := if_neg (by omega)
    have hmove (t : Service B) (x y : UInt8) :
        ∃ a, (t.setCursorPosition s.screen.activePage x y).1 = .ok a :=
      (t.settles_setCursorPosition _ x y).exists_ok hcause
    obtain ⟨a, ha⟩ := hmove _ _ _
    refine ⟨length, ?_⟩
    rw [ha]
    rfl
  · exact ⟨length, rfl⟩

/-! ## Requests -/

/-- A request is refused exactly if it has a cause, and for that cause. -/
theorem settles_perform (hpage : s.screen.activePage.toNat ≤ 7) (q : Request) :
    s.Settles (q.cause s.settings) (s.perform q) := by
  cases q with
  | powerOn => exact s.settles_powerOn.map _
  | setMode mode => exact (s.settles_setMode mode).map _
  | setCursorPosition page x y => exact (s.settles_setCursorPosition page x y).map _
  | cursorPosition page => exact (s.settles_cursorPosition page).map _
  | setActivePage page => exact (s.settles_setActivePage page).map _
  | writeCells page c count => exact (s.settles_writeCells page c count).map _
  | writeCharacters page chr count => exact (s.settles_writeCharacters page chr count).map _
  | teletype page c => exact (s.settles_teletype page c).map _
  | teletypeAll page cells => exact (s.settles_teletypeAll page cells).map _
  | writeString options buffer attr x y =>
    exact (s.settles_writeString hpage options buffer attr x y).map _
  | readCell page => exact (s.settles_readCell page).map _
  | modeInfo | setCursorShape _ | cursorShape | scroll _ _ _ _ _ | interrupt _ => exact ⟨_, rfl⟩

/-- A call whose request is refused marks an unknown mode in AL, and does nothing else. -/
theorem interrupt_of_error (hpage : s.screen.activePage.toNat ≤ 7) {r : RegisterImage}
    {function : Selector} (hfunction : Selector.ofCode? (r.get .ah) = some function) {q : Request}
    (hq : function.request r = some q) {e : Rejection} (he : (s.perform q).1 = .error e) :
    (s.interrupt r).1 = function.refusal r ∧ s.Untouched (s.interrupt r).2 := by
  let t : Service B := s.emit (.called function r.ax)
  have hcause := ((s.settles_perform hpage q).error_iff e).mp he
  have hrefused : t.perform q = (.error e, t) := (t.settles_perform hpage q).eq_of_cause hcause
  have hcall : s.interrupt r = (function.refusal r, t.emit (function.complaint e)) := by
    simp only [interrupt, hfunction]
    exact dispatch_of_error hq hrefused
  rw [hcall]
  exact ⟨rfl, rfl, rfl, rfl, rfl⟩

theorem interrupt_of_unknown {r : RegisterImage} (h : Selector.ofCode? (r.get .ah) = none) :
    (s.interrupt r).1 = r ∧ s.Untouched (s.interrupt r).2 := by
  unfold interrupt
  rw [h]
  exact ⟨rfl, rfl, rfl, rfl, rfl⟩

end Service

/-- Refusals are exact and atomic, on every screen that a service goes through and on any hardware.
A request is refused exactly for its cause, and then the service is what it was: the screen, the
hardware and the record of the bus. A call whose request is refused leaves the registers alone, but
for 0xFF in AL if the mode is unknown; a call of a function that nobody provides leaves them as they
are; and neither touches screen, hardware or bus. -/
theorem Screen.Reached.refusals_atomic {settings : Settings} {d : Screen}
    (h : Reached settings d) {B : Type} [Backend B] (m : Machine B) :
    let s : Service B := ⟨settings, d, m⟩
    (∀ q e, (s.perform q).1 = .error e ↔ q.cause settings = some e) ∧
    (∀ q e, (s.perform q).1 = .error e → (s.perform q).2 = s) ∧
    (∀ r function q e, Selector.ofCode? (r.get .ah) = some function → function.request r = some q →
      (s.perform q).1 = .error e →
        (s.interrupt r).1 = (if function = .setMode then r.set .al 0xFF else r) ∧
        s.Untouched (s.interrupt r).2) ∧
    ∀ r, Selector.ofCode? (r.get .ah) = none →
      (s.interrupt r).1 = r ∧ s.Untouched (s.interrupt r).2 := by
  intro s
  have hpage : s.screen.activePage.toNat ≤ 7 := by
    obtain ⟨spec, hmode⟩ := h.inMode
    have := hmode.activePage
    change d.activePage.toNat ≤ 7
    omega
  refine ⟨fun q e => (s.settles_perform hpage q).error_iff e, fun q e he => ?_, ?_, ?_⟩
  · rw [(s.settles_perform hpage q).eq_of_error he]
  · intro r function q e hfunction hq he
    exact s.interrupt_of_error hpage hfunction hq he
  · exact fun r => s.interrupt_of_unknown

/-- With the last page on display a string is written, and the page after it is refused. -/
theorem Screen.Reached.refusals_atomic_last_page :
    let m : Machine (Board .byte) := .ofHardware (.powerOn .byte)
    let d := ((Service.mk .standard .initial m).perform (.setActivePage 7)).2.screen
    let s : Service (Board .byte) := ⟨.standard, d, m⟩
    let r : RegisterImage := ⟨0x0E41, 0x0807, 0, 0, 0, 0⟩
    Reached .standard d ∧
      (∀ e, (s.perform (.writeString ⟨true, true⟩ 0x500 0x1E 39 24)).1 ≠ .error e) ∧
      (s.perform (.teletype 8 ⟨0x41, 0x07⟩)).1 = .error (.noSuchPage 8) ∧
      (s.perform (.teletype 8 ⟨0x41, 0x07⟩)).2 = s ∧
      (s.interrupt r).1 = r ∧ s.Untouched (s.interrupt r).2 := by
  intro m d s r
  have h : Reached .standard d := Reached.initial.perform m _
  obtain ⟨hcause, hsame, hcall, -⟩ := h.refusals_atomic m
  have hpage : (s.perform (.teletype 8 ⟨0x41, 0x07⟩)).1 = .error (.noSuchPage 8) :=
    (hcause _ _).mpr rfl
  refine ⟨h, fun e he => ?_, hpage, hsame _ _ hpage, ?_⟩
  · exact Option.some_ne_none e ((hcause _ _).mp he).symm
  · exact hcall r .teletype (.teletype 8 ⟨0x41, 0x07⟩) (.noSuchPage 8) (by decide) (by decide) hpage

end VgaFirmware
