import VgaFirmware.Proofs.Calls
import VgaFirmware.Proofs.Likeness

/-!
# Services on boards that are alike

Services with the same screen, and with settings that agree but for the base of the timing
controller, on boards that have something in common (`Service.Like`). Whatever is asked of them
they answer the same, and they go on being alike (`Like.perform`, `Like.interrupt`), if a string
that they are to write reads the same.
-/

namespace VgaFirmware

/-- A search looks at every address before the one at which it ends. -/
theorem Backend.mem_scanned_of_findZero {B : Type} [Backend B] (b : B) (a : UInt32)
    (i count : Nat) {j : Nat} (h : i + j < (Backend.findZero b a i count).1.getD (i + count)) :
    .ofLinear (a + UInt32.ofNat j) ∈ Backend.scanned b a count := by
  induction count generalizing b a i j with
  | zero =>
    simp only [findZero, Option.getD_none] at h
    omega
  | succ count ih =>
    by_cases hv : (Backend.fetch b a).1 = 0
    · simp only [findZero, if_pos hv, Option.getD_some] at h
      omega
    · simp only [findZero, if_neg hv] at h
      simp only [scanned, if_neg hv]
      cases j with
      | zero =>
        rw [show UInt32.ofNat 0 = 0 from rfl, UInt32.add_zero]
        exact List.mem_cons_self
      | succ j =>
        have hnext := ih (Backend.fetch b a).2 (a + 1) (i + 1) (j := j) (by
          rw [Nat.add_right_comm i 1 count, Nat.add_right_comm i 1 j]
          exact h)
        rw [UInt32.add_assoc, UInt32.add_comm 1] at hnext
        rw [UInt32.ofNat_add]
        exact List.mem_cons_of_mem _ hnext

namespace Service

variable {bus : BusWidth} {L : Board.Likeness bus}

/-- Services that agree in settings, apart from the base, and in the screen, on boards that have
something in common. -/
structure Like (L : Board.Likeness bus) (s t : Service (Board bus)) : Prop where
  settings : t.settings = { s.settings with crtc := t.settings.crtc }
  screen : t.screen = s.screen
  machine : s.machine.Like L t.machine

/-- The same answers, from services that are alike. -/
def Agree {α : Type} (L : Board.Likeness bus) (p q : α × Service (Board bus)) : Prop :=
  q.1 = p.1 ∧ p.2.Like L q.2

theorem Agree.map {α β : Type} {p q : α × Service (Board bus)} (h : Agree L p q) (f : α → β) :
    Agree L (p.map f id) (q.map f id) :=
  ⟨congrArg f h.1, h.2⟩

/-- The addresses at which the end of the string is searched for that a request is to write. -/
def scannedBy (s : Service (Board bus)) : Request → List Address
  | .writeString _ buffer _ _ _ =>
    Backend.scanned s.machine.hardware buffer s.settings.scanLimit.toNat
  | _ => []

namespace Like

variable {s t : Service (Board bus)}

theorem scanLimit (h : s.Like L t) : t.settings.scanLimit = s.settings.scanLimit := by
  rw [h.settings]

theorem initialMode (h : s.Like L t) : t.settings.initialMode = s.settings.initialMode := by
  rw [h.settings]

theorem emit (h : s.Like L t) (e : Event) : (s.emit e).Like L (t.emit e) :=
  ⟨h.settings, h.screen, h.machine⟩

theorem setScreen (h : s.Like L t) (d : Screen) : (s.setScreen d).Like L (t.setScreen d) :=
  ⟨h.settings, rfl, h.machine⟩

/-- Work on the machines that keeps these alike. -/
theorem work (h : s.Like L t) {m n : Machine (Board bus)} (hwork : m.Like L n) :
    Like L ⟨s.settings, s.screen, m⟩ ⟨t.settings, t.screen, n⟩ :=
  ⟨h.settings, h.screen, hwork⟩

/-! ## Cursors and pages -/

theorem applyCursor (h : s.Like L t) (p : Position) :
    (s.applyCursor p).Like L (t.applyCursor p) := by
  unfold Service.applyCursor
  rw [h.screen]
  exact h.work (h.machine.writeRegPair (.crtc s.settings.crtc) t.settings.crtc 0x0E _)

theorem setCursorShape (h : s.Like L t) (shape : CursorShape) :
    (s.setCursorShape shape).Like L (t.setCursorShape shape) :=
  h.work (h.machine.setCursorShape _ _ shape)

theorem cursorShape (h : s.Like L t) : Agree L s.cursorShape t.cursorShape := by
  obtain ⟨hshape, hmachine⟩ := h.machine.cursorShape s.settings.crtc t.settings.crtc
  exact ⟨hshape, h.settings, h.screen, hmachine⟩

theorem setCursorPosition (h : s.Like L t) (page x y : UInt8) :
    Agree L (s.setCursorPosition page x y) (t.setCursorPosition page x y) := by
  unfold Service.setCursorPosition
  rw [h.screen]
  cases Page.ofByte page with
  | error e => exact ⟨rfl, h⟩
  | ok slot =>
    have hset := h.setScreen (s.screen.setCursor slot (s.screen.clamp ⟨x, y⟩))
    refine ⟨rfl, ?_⟩
    simp only
    split
    · exact hset.applyCursor _
    · exact hset

theorem cursorPosition (h : s.Like L t) (page : UInt8) :
    Agree L (s.cursorPosition page) (t.cursorPosition page) := by
  unfold Service.cursorPosition
  rw [h.screen]
  cases Page.ofByte page with
  | error e => exact ⟨rfl, h⟩
  | ok slot =>
    exact h.cursorShape.map fun shape => Except.ok (shape, s.screen.cursor slot)

theorem setActivePage (h : s.Like L t) (page : UInt8) :
    Agree L (s.setActivePage page) (t.setActivePage page) := by
  unfold Service.setActivePage
  rw [h.screen]
  cases Page.ofByte page with
  | error e => exact ⟨rfl, h⟩
  | ok slot =>
    have hstart := h.machine.writeRegPair (.crtc s.settings.crtc) t.settings.crtc 0x0C
      (s.screen.pageStart page)
    have hshow := (h.work hstart).setScreen { s.screen with activePage := page }
    exact ⟨rfl, (hshow.applyCursor (s.screen.cursor slot)).emit _⟩

/-! ## Text -/

theorem cursorOf (h : s.Like L t) (page : UInt8) : t.cursorOf page = s.cursorOf page := by
  rw [Service.cursorOf, h.screen, Service.cursorOf]

theorem scrollPage (h : s.Like L t) (page : UInt8) (direction : Direction)
    (count attr columns rows : UInt8) :
    (s.scrollPage page direction count attr columns rows).Like L
      (t.scrollPage page direction count attr columns rows) := by
  by_cases hcount : count = 0
  · simp only [Service.scrollPage, if_pos hcount]
    exact h
  · rw [s.scrollPage_eq hcount, t.scrollPage_eq hcount, h.screen]
    exact h.work (h.machine.edit _ (hardware_scrollBody _ direction count attr)
      fun hopen => L.scrollCells hopen _ direction count.toNat attr)

theorem writeCells (h : s.Like L t) (page : UInt8) (c : Cell) (count : UInt16) :
    Agree L (s.writeCells page c count) (t.writeCells page c count) := by
  unfold Service.writeCells
  rw [h.cursorOf, h.screen]
  cases s.cursorOf page with
  | error e => exact ⟨rfl, h⟩
  | ok p =>
    exact ⟨rfl, h.work (h.machine.edit _ (fun _ => rfl)
      fun hopen => L.fillWords hopen (s.screen.cellIndex p * 2) c.toWord count.toNat)⟩

theorem writeCharacters (h : s.Like L t) (page chr : UInt8) (count : UInt16) :
    Agree L (s.writeCharacters page chr count) (t.writeCharacters page chr count) := by
  unfold Service.writeCharacters
  rw [h.cursorOf, h.screen]
  cases s.cursorOf page with
  | error e => exact ⟨rfl, h⟩
  | ok p =>
    exact ⟨rfl, h.work (h.machine.edit _ (fun _ => rfl)
      fun hopen => L.fill hopen (s.screen.cellIndex p) chr count.toNat)⟩

theorem putCell (h : s.Like L t) (page : UInt8) (p : Position) (c : Cell) :
    (s.putCell page p c).Like L (t.putCell page p c) := by
  unfold Service.putCell
  rw [h.screen]
  exact h.work (h.machine.edit _ (fun _ => rfl)
    fun hopen => L.storeWord hopen (s.screen.cellIndex p * 2) c.toWord)

theorem teletype (h : s.Like L t) (page : UInt8) (c : Cell) :
    Agree L (s.teletype page c) (t.teletype page c) := by
  have hcursor := h.cursorOf page
  cases hp : s.cursorOf page with
  | error e =>
    rw [hp] at hcursor
    simp only [Service.teletype, hp, hcursor]
    exact ⟨rfl, h⟩
  | ok p =>
    rw [hp] at hcursor
    have hput := h.putCell page p c
    rw [s.teletype_eq hp, t.teletype_eq hcursor, h.screen]
    split
    · exact hput.setCursorPosition _ _ _
    · split
      · exact hput.setCursorPosition _ _ _
      · exact (hput.scrollPage _ _ _ _ _ _).setCursorPosition _ _ _

theorem teletypeAll (h : s.Like L t) (page : UInt8) (cells : List Cell) :
    Agree L (s.teletypeAll page cells) (t.teletypeAll page cells) := by
  induction cells generalizing s t with
  | nil => exact ⟨rfl, h⟩
  | cons c rest ih =>
    have hfirst := h.teletype page c
    simp only [Service.teletypeAll]
    generalize s.teletype page c = p at hfirst ⊢
    generalize t.teletype page c = q at hfirst ⊢
    obtain ⟨result, u⟩ := p
    obtain ⟨result', w⟩ := q
    obtain ⟨rfl, hrest⟩ := hfirst
    cases result' with
    | error e => exact ⟨rfl, hrest⟩
    | ok _ => exact ih hrest

theorem readCell (h : s.Like L t) (page : UInt8) : Agree L (s.readCell page) (t.readCell page) := by
  unfold Service.readCell
  rw [h.cursorOf, h.screen]
  cases s.cursorOf page with
  | error e => exact ⟨rfl, h⟩
  | ok p =>
    obtain ⟨hword, hmachine⟩ := h.machine.inspect (v := .cells)
      fun hopen => L.loadWord hopen (s.screen.cellIndex p * 2)
    exact ⟨congrArg (fun w => Except.ok (Cell.ofWord w)) hword, h.settings, h.screen, hmachine⟩

end Like

/-- All bytes of a string are looked at when its end is searched for. -/
theorem mem_scanned_of_stringLength (s : Service (Board bus)) (buffer : UInt32) {j : Nat}
    (h : j < (s.stringLength buffer).1.toNat) :
    .ofLinear (buffer + UInt32.ofNat j) ∈
      Backend.scanned s.machine.hardware buffer s.settings.scanLimit.toNat := by
  refine Backend.mem_scanned_of_findZero _ buffer 0 _ ?_
  rw [Nat.zero_add, Nat.zero_add]
  refine Nat.lt_of_lt_of_le h ?_
  simp only [stringLength, fst_query, Machine.fst_query]
  split
  · next length hlength =>
    rw [hlength, Option.getD_some, UInt16.toNat_ofNat']
    exact Nat.mod_le _ _
  · next hlength =>
    exact Nat.le_of_eq (by rw [hlength, Option.getD_none])

namespace Like

variable {s t : Service (Board bus)}

/-- A string that reads the same has the same length. -/
theorem stringLength (h : s.Like L t) {buffer : UInt32}
    (hscan : ∀ a ∈ Backend.scanned s.machine.hardware buffer s.settings.scanLimit.toNat,
      L.visible a) :
    Agree L (s.stringLength buffer) (t.stringLength buffer) := by
  obtain ⟨hzero, hboard⟩ := L.findZero h.machine buffer 0 hscan
  have hquery := h.work (m := ⟨_, s.machine.cycles, s.machine.events⟩)
    (n := ⟨_, t.machine.cycles, t.machine.events⟩) hboard
  unfold Service.stringLength
  rw [h.scanLimit]
  simp only [fst_query, Machine.fst_query, hzero]
  split
  · exact ⟨rfl, hquery⟩
  · exact ⟨rfl, hquery.emit _⟩

theorem putText (h : s.Like L t) (page : UInt8) (options : StringOptions) (index : UInt16)
    (buffer : UInt32) {length : UInt16} (attr : UInt8)
    (hread : ∀ j < length.toNat, L.visible (.ofLinear (buffer + UInt32.ofNat j))) :
    (s.putText page options index buffer length attr).Like L
      (t.putText page options index buffer length attr) := by
  unfold Service.putText
  rw [h.screen]
  exact h.work (h.machine.edit _ (hardware_putBody options index buffer length.toNat attr)
    fun hopen => L.putString hopen options index buffer attr hread)

theorem writeString (h : s.Like L t) (options : StringOptions) {buffer : UInt32}
    (attr x y : UInt8)
    (hscan : ∀ a ∈ Backend.scanned s.machine.hardware buffer s.settings.scanLimit.toNat,
      L.visible a) :
    Agree L (s.writeString options buffer attr x y) (t.writeString options buffer attr x y) := by
  have hread (j : Nat) (hj : j < (s.stringLength buffer).1.toNat) :=
    hscan _ (s.mem_scanned_of_stringLength buffer hj)
  obtain ⟨hlength, hlike⟩ := h.stringLength hscan
  unfold Service.writeString
  generalize s.stringLength buffer = p at hlength hlike hread ⊢
  generalize t.stringLength buffer = q at hlength hlike ⊢
  obtain ⟨length, u⟩ := p
  obtain ⟨length', w⟩ := q
  obtain rfl : length' = length := hlength
  have hlike : u.Like L w := hlike
  have hput := hlike.putText u.screen.activePage options (u.screen.cellIndex ⟨x, y⟩) buffer attr
    hread
  unfold Service.putText at hput
  simp only
  rw [hlike.screen] at hput ⊢
  split
  · exact (hput.setCursorPosition _ _ _).map (Except.map fun _ => length')
  · exact ⟨rfl, hput⟩

/-! ## Modes -/

theorem setMode (h : s.Like L t) (mode : UInt8) : Agree L (s.setMode mode) (t.setMode mode) := by
  unfold Service.setMode
  cases ModeSpec.lookup mode with
  | error e => exact ⟨rfl, h⟩
  | ok spec =>
    have hactivate := h.machine.activate h.settings spec
    have hscreen := (h.work hactivate).setScreen (s.screen.enter spec)
    simp only [h.screen]
    refine ⟨rfl, ?_⟩
    simp only
    split
    · exact (hscreen.applyCursor _).emit _
    · exact hscreen.emit _

end Like

/-- Services that differ in the base alone, and whose machines are brought up alike, are powered on
alike. -/
theorem agree_powerOn {s t : Service (Board bus)} {spec : ModeSpec}
    (hmode : ModeSpec.lookup s.settings.initialMode = .ok spec)
    (hsettings : t.settings = { s.settings with crtc := t.settings.crtc })
    (hscreen : t.screen = s.screen)
    (hmachine : (s.machine.bringUp s.settings).Like L (t.machine.bringUp t.settings)) :
    Agree L s.powerOn t.powerOn := by
  have h : (s.update (·.bringUp s.settings)).Like L (t.update (·.bringUp t.settings)) := by
    constructor
    · simpa only [settings_update] using hsettings
    · simpa only [screen_update] using hscreen
    · simpa only [machine_update] using hmachine
  have hinitial : t.settings.initialMode = s.settings.initialMode := h.initialMode
  have hset := h.setMode s.settings.initialMode
  simp only [powerOn, hinitial, hmode]
  generalize (s.update (·.bringUp s.settings)).setMode s.settings.initialMode = p at hset ⊢
  generalize (t.update (·.bringUp t.settings)).setMode s.settings.initialMode = q at hset ⊢
  obtain ⟨result, u⟩ := p
  obtain ⟨result', w⟩ := q
  obtain ⟨rfl, hlike⟩ := hset
  cases result' with
  | error e => exact ⟨rfl, hlike⟩
  | ok _ => exact ⟨rfl, Like.emit hlike _⟩

namespace Like

variable {s t : Service (Board bus)}

/-! ## Requests and calls -/

/-- A request that leaves the mode as it is is answered the same. -/
theorem perform (h : s.Like L t) {q : Request} (hq : q.keepsMode = true)
    (hscan : ∀ a ∈ s.scannedBy q, L.visible a) : Agree L (s.perform q) (t.perform q) := by
  cases q with
  | powerOn | setMode _ | interrupt _ => cases hq
  | modeInfo =>
    simp only [Service.perform, modeInfo, h.screen]
    exact ⟨rfl, h⟩
  | setCursorShape shape => exact ⟨rfl, h.setCursorShape shape⟩
  | cursorShape => exact h.cursorShape.map _
  | setCursorPosition page x y => exact (h.setCursorPosition page x y).map _
  | cursorPosition page => exact (h.cursorPosition page).map _
  | setActivePage page => exact (h.setActivePage page).map _
  | scroll direction count attr columns rows =>
    simp only [Service.perform, scroll, h.screen]
    exact ⟨rfl, h.scrollPage _ _ _ _ _ _⟩
  | writeCells page c count => exact (h.writeCells page c count).map _
  | writeCharacters page chr count => exact (h.writeCharacters page chr count).map _
  | teletype page c => exact (h.teletype page c).map _
  | teletypeAll page cells => exact (h.teletypeAll page cells).map _
  | writeString options buffer attr x y => exact (h.writeString options attr x y hscan).map _
  | readCell page => exact (h.readCell page).map _

/-- A call whose string, if it is to write one, reads the same is answered the same. -/
theorem interrupt (h : s.Like L t) {r : RegisterImage}
    (hscan : ∀ function q, Selector.ofCode? (r.get .ah) = some function →
      function.request r = some q → ∀ a ∈ s.scannedBy q, L.visible a) :
    Agree L (s.interrupt r) (t.interrupt r) := by
  unfold Service.interrupt
  split
  · exact ⟨rfl, h.emit _⟩
  · next function hfunction =>
    have hcalled := h.emit (.called function r.ax)
    cases hq : function.request r with
    | none =>
      cases function <;> cases hq
      exact ⟨rfl, hcalled⟩
    | some q =>
      have hdone : Agree L ((s.emit (.called function r.ax)).perform q)
          ((t.emit (.called function r.ax)).perform q) := by
        rcases Selector.request_cases hq with rfl | hmode
        · exact (hcalled.setMode _).map _
        · exact hcalled.perform hmode (hscan function q hfunction hq)
      rcases hs : (s.emit (.called function r.ax)).perform q with ⟨result, u⟩
      rcases ht : (t.emit (.called function r.ax)).perform q with ⟨result', w⟩
      rw [hs, ht] at hdone
      obtain ⟨rfl, hlike⟩ := hdone
      cases result' with
      | error e =>
        rw [dispatch_of_error hq hs, dispatch_of_error hq ht]
        exact ⟨rfl, Like.emit hlike _⟩
      | ok a =>
        rw [dispatch_of_ok hq hs, dispatch_of_ok hq ht]
        exact ⟨rfl, hlike⟩

/-- Where both read the same everywhere, any calls are answered the same. -/
theorem serve (h : s.Like L t) (hvisible : ∀ a, L.visible a) (calls : List RegisterImage) :
    t.replies calls = s.replies calls ∧ (s.serve calls).Like L (t.serve calls) := by
  induction calls generalizing s t with
  | nil => exact ⟨rfl, h⟩
  | cons r rest ih =>
    obtain ⟨hreply, hserved⟩ := h.interrupt (r := r) fun _ _ _ _ a _ => hvisible a
    obtain ⟨hreplies, hrest⟩ := ih hserved
    exact ⟨congrArg₂ List.cons hreply hreplies, hrest⟩

end Like

end Service

end VgaFirmware
