import VgaFirmware.Proofs.Calls
import VgaFirmware.Proofs.Lockstep

/-!
# Calls on a recorder

A service on a recorder behaves as one on a board. Started with the same settings and the same
memory outside the adapter's addresses, the two go through the same screens, registers and bus
cycles, call by call, and give the same answers; only the cells that are read back differ
(`onRecorder_faithful`).
-/

namespace VgaFirmware.Service

/-- A service on a recorder follows one on a board: same settings, same screen, and the machines
in lockstep. -/
structure Follows (s : Service (Board .word)) (t : Service Recorder) : Prop where
  settings : t.settings = s.settings
  screen : t.screen = s.screen
  machine : s.machine.Follows t.machine

namespace Follows

variable {s : Service (Board .word)} {t : Service Recorder}

theorem emit (h : s.Follows t) (e : Event) : (s.emit e).Follows (t.emit e) :=
  ⟨h.settings, h.screen, h.machine.emit e⟩

theorem setScreen (h : s.Follows t) (d : Screen) : (s.setScreen d).Follows (t.setScreen d) :=
  ⟨h.settings, rfl, h.machine⟩

/-- Work on the machines that keeps these in lockstep. -/
theorem work (h : s.Follows t) {m : Machine (Board .word)} {n : Machine Recorder}
    (hwork : m.Follows n) : Follows ⟨s.settings, s.screen, m⟩ ⟨t.settings, t.screen, n⟩ :=
  ⟨h.settings, h.screen, hwork⟩

/-! ## Cursors and pages -/

theorem applyCursor (h : s.Follows t) (p : Position) :
    (s.applyCursor p).Follows (t.applyCursor p) := by
  unfold Service.applyCursor
  rw [h.settings, h.screen]
  exact h.work (h.machine.setCursorLocation _ _)

theorem setCursorShape (h : s.Follows t) (shape : CursorShape) :
    (s.setCursorShape shape).Follows (t.setCursorShape shape) := by
  unfold Service.setCursorShape
  rw [h.settings]
  exact h.work (h.machine.setCursorShape _ shape)

theorem setCursorPosition (h : s.Follows t) (page x y : UInt8) :
    (t.setCursorPosition page x y).1 = (s.setCursorPosition page x y).1 ∧
      (s.setCursorPosition page x y).2.Follows (t.setCursorPosition page x y).2 := by
  unfold Service.setCursorPosition
  rw [h.screen]
  cases Page.ofByte page with
  | error e => exact ⟨rfl, h⟩
  | ok slot =>
    have hset := h.setScreen (s.screen.setCursor slot (s.screen.clamp ⟨x, y⟩))
    refine ⟨rfl, ?_⟩
    simp only
    split
    · exact hset.applyCursor _
    · exact hset

theorem cursorPosition (h : s.Follows t) (page : UInt8) :
    (t.cursorPosition page).1 = (s.cursorPosition page).1 ∧
      (s.cursorPosition page).2.Follows (t.cursorPosition page).2 := by
  obtain ⟨hshape, hmachine⟩ := h.machine.cursorShape s.settings.crtc
  unfold Service.cursorPosition Service.cursorShape
  rw [h.screen, h.settings]
  cases Page.ofByte page with
  | error e => exact ⟨rfl, h⟩
  | ok slot =>
    simp only [fst_query, hshape]
    exact ⟨trivial, h.settings, h.screen, hmachine⟩

theorem setActivePage (h : s.Follows t) (page : UInt8) :
    (t.setActivePage page).1 = (s.setActivePage page).1 ∧
      (s.setActivePage page).2.Follows (t.setActivePage page).2 := by
  unfold Service.setActivePage
  rw [h.screen, h.settings]
  cases Page.ofByte page with
  | error e => exact ⟨rfl, h⟩
  | ok slot =>
    have hstart := h.work (h.machine.setStartAddress s.settings.crtc (s.screen.pageStart page))
    exact ⟨rfl, ((hstart.setScreen _).applyCursor _).emit _⟩

/-! ## Text -/

theorem cursorOf (h : s.Follows t) (page : UInt8) : t.cursorOf page = s.cursorOf page := by
  rw [Service.cursorOf, h.screen, Service.cursorOf]

theorem scrollPage (h : s.Follows t) (page : UInt8) (direction : Direction)
    (count attr columns rows : UInt8) :
    (s.scrollPage page direction count attr columns rows).Follows
      (t.scrollPage page direction count attr columns rows) := by
  unfold Service.scrollPage
  rw [h.screen]
  split
  · exact h
  · refine h.work (h.machine.edit_planes _ _ _ fun hwork => ?_)
    exact ((hwork.update (fun _ => Region.accesses_scroll .refl _ _ _ _)
      fun _ => Region.accesses_scroll .refl _ _ _ _).selectPlane .attributes).update
        (fun _ => Region.accesses_scroll .refl _ _ _ _)
        fun _ => Region.accesses_scroll .refl _ _ _ _

theorem writeCells (h : s.Follows t) (page : UInt8) (c : Cell) (count : UInt16) :
    (t.writeCells page c count).1 = (s.writeCells page c count).1 ∧
      (s.writeCells page c count).2.Follows (t.writeCells page c count).2 := by
  unfold Service.writeCells
  rw [h.cursorOf, h.screen]
  cases s.cursorOf page with
  | error e => exact ⟨rfl, h⟩
  | ok p =>
    exact ⟨rfl, h.work (h.machine.edit_fillWords _ _ _ _)⟩

theorem writeCharacters (h : s.Follows t) (page chr : UInt8) (count : UInt16) :
    (t.writeCharacters page chr count).1 = (s.writeCharacters page chr count).1 ∧
      (s.writeCharacters page chr count).2.Follows (t.writeCharacters page chr count).2 := by
  unfold Service.writeCharacters
  rw [h.cursorOf, h.screen]
  cases s.cursorOf page with
  | error e => exact ⟨rfl, h⟩
  | ok p =>
    exact ⟨rfl, h.work (h.machine.edit_planes _ _ _ fun hwork => hwork.update
      (fun _ => .fill .refl _ _ _) fun _ => .fill .refl _ _ _)⟩

theorem teletype (h : s.Follows t) (page : UInt8) (c : Cell) :
    (t.teletype page c).1 = (s.teletype page c).1 ∧
      (s.teletype page c).2.Follows (t.teletype page c).2 := by
  unfold Service.teletype
  rw [h.cursorOf, h.screen]
  cases s.cursorOf page with
  | error e => exact ⟨rfl, h⟩
  | ok p =>
    have hput := h.work (h.machine.edit_storeWord (s.screen.pageStart page)
      (s.screen.cellIndex p * 2) c.toWord)
    simp only
    split
    · exact hput.setCursorPosition _ _ _
    · split
      · exact hput.setCursorPosition _ _ _
      · exact (hput.scrollPage _ _ _ _ _ _).setCursorPosition _ _ _

/-- A cell is read on both or on neither; what it holds may differ. -/
theorem readCell (h : s.Follows t) (page : UInt8) :
    (t.readCell page).1.map (fun _ => ()) = (s.readCell page).1.map (fun _ => ()) ∧
      (s.readCell page).2.Follows (t.readCell page).2 := by
  unfold Service.readCell
  rw [h.cursorOf, h.screen]
  cases s.cursorOf page with
  | error e => exact ⟨rfl, h⟩
  | ok p =>
    simp only [Except.map]
    exact ⟨trivial, h.work (h.machine.inspect_loadWord _ _)⟩

/-- A string has the same length on both if the search for its end stays clear of display
memory. -/
theorem stringLength (h : s.Follows t) {buffer : UInt32}
    (hscan : ∀ a ∈ Backend.scanned s.machine.hardware buffer s.settings.scanLimit.toNat,
      a.isDisplay = false) :
    (t.stringLength buffer).1 = (s.stringLength buffer).1 ∧
      (s.stringLength buffer).2.Follows (t.stringLength buffer).2 := by
  obtain ⟨hzero, hhardware⟩ := h.machine.hardware.findZero buffer 0 hscan
  have hquery := h.work (h.machine.work hhardware)
  unfold Service.stringLength
  rw [h.settings]
  simp only [fst_query, Machine.fst_query, hzero]
  split
  · exact ⟨rfl, hquery⟩
  · exact ⟨rfl, hquery.emit _⟩

theorem writeString (h : s.Follows t) (options : StringOptions) {buffer : UInt32}
    (attr x y : UInt8)
    (hscan : ∀ a ∈ Backend.scanned s.machine.hardware buffer s.settings.scanLimit.toNat,
      a.isDisplay = false) :
    (t.writeString options buffer attr x y).1 = (s.writeString options buffer attr x y).1 ∧
      (s.writeString options buffer attr x y).2.Follows
        (t.writeString options buffer attr x y).2 := by
  obtain ⟨hlength, hfollows⟩ := h.stringLength hscan
  unfold Service.writeString
  generalize s.stringLength buffer = u at hlength hfollows ⊢
  generalize t.stringLength buffer = w at hlength hfollows ⊢
  obtain ⟨length, u⟩ := u
  obtain ⟨length', w⟩ := w
  obtain rfl : length' = length := hlength
  have hfollows : u.Follows w := hfollows
  simp only
  rw [hfollows.screen]
  have hput := hfollows.work (hfollows.machine.edit_planes (.single .characters)
    (UInt8.ofNat Plane.characters.val) (u.screen.pageStart u.screen.activePage) fun hwork =>
    hwork.putString options (u.screen.cellIndex ⟨x, y⟩) buffer length'.toNat attr)
  split
  · obtain ⟨hmove, hmoved⟩ := hput.setCursorPosition _ _ _
    exact ⟨congrArg (Except.map fun _ => length') hmove, hmoved⟩
  · exact ⟨rfl, hput⟩

/-! ## Modes -/

theorem setMode (h : s.Follows t) (mode : UInt8) :
    (t.setMode mode).1 = (s.setMode mode).1 ∧
      (s.setMode mode).2.Follows (t.setMode mode).2 := by
  unfold Service.setMode
  cases ModeSpec.lookup mode with
  | error e => exact ⟨rfl, h⟩
  | ok spec =>
    have hscreen := (h.work (h.machine.activate s.settings spec)).setScreen (s.screen.enter spec)
    simp only [h.settings, h.screen]
    refine ⟨trivial, ?_⟩
    split
    · exact (hscreen.applyCursor _).emit _
    · exact hscreen.emit _

/-- Services whose machines are brought up in lockstep are powered on in lockstep. -/
theorem powerOn {spec : ModeSpec} (hmode : ModeSpec.lookup s.settings.initialMode = .ok spec)
    (hsettings : t.settings = s.settings) (hscreen : t.screen = s.screen)
    (hup : (s.machine.bringUp s.settings).Follows (t.machine.bringUp s.settings)) :
    t.powerOn.1 = s.powerOn.1 ∧ s.powerOn.2.Follows t.powerOn.2 := by
  have h : (s.update (·.bringUp s.settings)).Follows (t.update (·.bringUp s.settings)) := by
    constructor
    · rw [settings_update, settings_update, hsettings]
    · rw [screen_update, screen_update, hscreen]
    · rw [machine_update, machine_update]
      exact hup
  obtain ⟨hset, hfollows⟩ := h.setMode s.settings.initialMode
  simp only [Service.powerOn, hsettings, hmode]
  generalize (s.update (·.bringUp s.settings)).setMode s.settings.initialMode = p at *
  generalize (t.update (·.bringUp s.settings)).setMode s.settings.initialMode = q at *
  obtain ⟨result, u⟩ := p
  obtain ⟨result', w⟩ := q
  obtain rfl : result' = result := hset
  cases result' with
  | error e => exact ⟨rfl, hfollows⟩
  | ok _ => exact ⟨rfl, Follows.emit hfollows _⟩

/-! ## Calls -/

variable {α : Type} {function : Selector} {r : RegisterImage} {put : α → RegisterImage}
  {p : Except Rejection α × Service (Board .word)} {q : Except Rejection α × Service Recorder}

theorem answer (h : q.1 = p.1 ∧ p.2.Follows q.2) :
    (Service.answer function r q put).1 = (Service.answer function r p put).1 ∧
      (Service.answer function r p put).2.Follows (Service.answer function r q put).2 := by
  obtain ⟨result, u⟩ := p
  obtain ⟨result', w⟩ := q
  obtain ⟨rfl, hfollows⟩ := h
  cases result' with
  | error e => exact ⟨rfl, Follows.emit hfollows _⟩
  | ok a => exact ⟨rfl, hfollows⟩

/-- Answers that are put into AX alone differ in no other register. -/
theorem answer_ax (function : Selector) (r : RegisterImage) {put : α → RegisterImage}
    (h : q.1.map (fun _ => ()) = p.1.map (fun _ => ()) ∧ p.2.Follows q.2)
    (hput : ∀ a b, put b = { put a with ax := (put b).ax }) :
    (Service.answer function r q put).1 =
        { (Service.answer function r p put).1 with ax := (Service.answer function r q put).1.ax } ∧
      (Service.answer function r p put).2.Follows (Service.answer function r q put).2 := by
  obtain ⟨result, u⟩ := p
  obtain ⟨result', w⟩ := q
  obtain ⟨hresult, hfollows⟩ := h
  cases result with
  | error e =>
    cases result' with
    | error e' =>
      obtain rfl : e' = e := Except.error.inj hresult
      exact ⟨rfl, Follows.emit hfollows _⟩
    | ok a' => cases hresult
  | ok a =>
    cases result' with
    | error e' => cases hresult
    | ok a' => exact ⟨hput a a', hfollows⟩

end Follows

/-! ## Runs -/

section

variable {B : Type} [Backend B]

/-- If a call is to write a string, the search for its end stays outside the adapter's
addresses. -/
def ScansMemory (s : Service B) (r : RegisterImage) : Prop :=
  Selector.ofCode? (r.get .ah) = some .writeString →
    ∀ a ∈ Backend.scanned s.machine.hardware (r.es.toUInt32 * 16 + r.bp.toUInt32)
      s.settings.scanLimit.toNat, a.isDisplay = false

/-- So do the searches of all calls that are served in order. -/
def ScansMemoryAll (s : Service B) : List RegisterImage → Prop
  | [] => True
  | r :: rest => s.ScansMemory r ∧ (s.interrupt r).2.ScansMemoryAll rest

end

variable {s : Service (Board .word)} {t : Service Recorder}

/-- A function other than the one that reads a cell answers the same on both. -/
theorem Follows.dispatch (h : s.Follows t) {function : Selector} (hfunction : function ≠ .readCell)
    {r : RegisterImage}
    (hscan : function = .writeString →
      ∀ a ∈ Backend.scanned s.machine.hardware (r.es.toUInt32 * 16 + r.bp.toUInt32)
        s.settings.scanLimit.toNat, a.isDisplay = false) :
    (t.dispatch function r).1 = (s.dispatch function r).1 ∧
      (s.dispatch function r).2.Follows (t.dispatch function r).2 := by
  cases function with
  | setMode =>
    obtain ⟨hset, hfollows⟩ := h.setMode (r.get .al)
    simp only [Service.dispatch]
    generalize s.setMode (r.get .al) = p at *
    generalize t.setMode (r.get .al) = q at *
    obtain ⟨result, u⟩ := p
    obtain ⟨result', w⟩ := q
    obtain rfl : result' = result := hset
    cases result' with
    | error e => exact ⟨rfl, Follows.emit hfollows _⟩
    | ok _ => exact ⟨rfl, hfollows⟩
  | setCursorShape => exact ⟨rfl, h.setCursorShape _⟩
  | moveCursor => exact answer (h.setCursorPosition _ _ _)
  | readCursor => exact answer (h.cursorPosition _)
  | showPage => exact answer (h.setActivePage _)
  | scrollUp =>
    simp only [Service.dispatch, Service.scroll, h.screen]
    exact ⟨trivial, h.scrollPage _ _ _ _ _ _⟩
  | scrollDown =>
    simp only [Service.dispatch, Service.scroll, h.screen]
    exact ⟨trivial, h.scrollPage _ _ _ _ _ _⟩
  | readCell => exact absurd rfl hfunction
  | writeCells => exact answer (h.writeCells _ _ _)
  | writeCharacters => exact answer (h.writeCharacters _ _ _)
  | setPalette => exact ⟨rfl, h⟩
  | teletype => exact answer (h.teletype _ _)
  | getMode =>
    simp only [Service.dispatch, Service.modeInfo, h.screen]
    exact ⟨trivial, h⟩
  | writeString => exact answer (h.writeString _ _ _ _ (hscan rfl))

/-- What a call does to the service is the same on both, and so are the registers that it
answers, but for AX after a cell has been read. -/
theorem Follows.interrupt (h : s.Follows t) {r : RegisterImage} (hscan : s.ScansMemory r) :
    (s.interrupt r).2.Follows (t.interrupt r).2 ∧
      (t.interrupt r).1 = { (s.interrupt r).1 with ax := (t.interrupt r).1.ax } ∧
      (Selector.ofCode? (r.get .ah) ≠ some .readCell → (t.interrupt r).1 = (s.interrupt r).1) := by
  unfold Service.interrupt
  cases hcode : Selector.ofCode? (r.get .ah) with
  | none => exact ⟨h.emit _, rfl, fun _ => rfl⟩
  | some function =>
    have hcalled := h.emit (.called function r.ax)
    by_cases hfunction : function = .readCell
    · subst hfunction
      obtain ⟨hax, hfollows⟩ := answer_ax .readCell r (hcalled.readCell (r.get .bh))
        (fun a b => (rfl : (r.set .ah b.attr).set .al b.chr =
          { (r.set .ah a.attr).set .al a.chr with ax := ((r.set .ah b.attr).set .al b.chr).ax }))
      exact ⟨hfollows, hax, fun hne => absurd rfl hne⟩
    · obtain ⟨hanswer, hfollows⟩ := hcalled.dispatch hfunction fun e => hscan (by rw [hcode, e])
      refine ⟨hfollows, ?_, fun _ => hanswer⟩
      rw [hanswer]

theorem Follows.serve (h : s.Follows t) {calls : List RegisterImage}
    (hscan : s.ScansMemoryAll calls) : (s.serve calls).Follows (t.serve calls) := by
  induction calls generalizing s t with
  | nil => exact h
  | cons r rest ih => exact ih (h.interrupt hscan.1).1 hscan.2

/-! ## From power-on -/

section

variable (settings : Settings) (window : UInt16) {ram ram' : Ram} {spec : ModeSpec}

/-- A service on a board that was just switched on. -/
def onBoard (ram : Ram) : Service (Board .word) := Service.start settings ⟨window, ram, .powerOn⟩

/-- A service on a recorder that was just switched on. -/
def onRecorder (ram : Ram) : Service Recorder :=
  Service.start settings (Recorder.fresh window ram)

theorem onBoard_follows (hmode : ModeSpec.lookup settings.initialMode = .ok spec)
    (hram : ∀ a : Address, a.isDisplay = false → ram'.get a = ram.get a) :
    (onRecorder settings window ram').powerOn.1 = (onBoard settings window ram).powerOn.1 ∧
      (onBoard settings window ram).powerOn.2.Follows
        (onRecorder settings window ram').powerOn.2 :=
  Follows.powerOn hmode rfl rfl
    (.bringUp (Machine.follows_fresh window hram settings.crtc.miscOutput))

/-- What is recorded is what a board would have seen. Power-on in a known mode succeeds on both,
and after any calls whose strings are not searched for in display memory, screen, window,
registers, bus cycles, events, and the memory outside the adapter's addresses are the same. A
further call has the same answer, but for AX after a cell has been read. -/
theorem onRecorder_faithful (hmode : ModeSpec.lookup settings.initialMode = .ok spec)
    (hram : ∀ a : Address, a.isDisplay = false → ram'.get a = ram.get a) :
    let s := (onBoard settings window ram).powerOn
    let t := (onRecorder settings window ram').powerOn
    s.1 = .ok () ∧ t.1 = .ok () ∧
    ∀ calls, s.2.ScansMemoryAll calls →
      let s := s.2.serve calls
      let t := t.2.serve calls
      let b := s.machine.hardware
      let c := t.machine.hardware
      t.screen = s.screen ∧ c.window = b.window ∧
      (∀ a : Address, a.isDisplay = false → c.ram.get a = b.ram.get a) ∧
      (∀ i : UInt8, i.toNat ≤ 4 → c.sequencer.read i = b.adapter.sequencer.read i) ∧
      (∀ i : UInt8, i.toNat ≤ 8 → c.graphics.read i = b.adapter.graphics.read i) ∧
      (∀ i : UInt8, i.toNat ≤ 24 → c.crtc.read i = b.adapter.crtc.read i) ∧
      t.machine.cycles = s.machine.cycles ∧ t.machine.events = s.machine.events ∧
      ∀ r, s.ScansMemory r →
        let x := (s.interrupt r).1
        let y := (t.interrupt r).1
        y = { x with ax := y.ax } ∧
          (Selector.ofCode? (r.get .ah) ≠ some .readCell → y = x) := by
  intro s t
  obtain ⟨hresult, hfollows⟩ := onBoard_follows settings window hmode hram
  have hok : s.1 = .ok () := congrArg Prod.fst (powerOn_eq _ hmode)
  refine ⟨hok, hresult.trans hok, fun calls hscan => ?_⟩
  have h := hfollows.serve hscan
  have hb := h.machine.hardware
  exact ⟨h.screen, hb.window, hb.ram, fun i hi => hb.sequencer i (Nat.lt_succ_of_le hi),
    fun i hi => hb.graphics i (Nat.lt_succ_of_le hi),
    fun i hi => hb.crtc i (Nat.lt_succ_of_le hi), h.machine.cycles, h.machine.events,
    fun r hr => (h.interrupt hr).2⟩

/-- A call that is to write the string at the bottom of memory searches there. -/
theorem scansMemory_low {B : Type} [Backend B] (s : Service B) {r : RegisterImage} (hes : r.es = 0)
    (hbp : r.bp = 0) : s.ScansMemory r := by
  intro _ a ha
  rw [hes, hbp] at ha
  exact Backend.isDisplay_of_scanned_low (Nat.le_of_lt s.settings.scanLimit.toNat_lt) ha

/-- Teletype output and a string of two characters in low memory, with display memory not the same
on both. -/
theorem onRecorder_faithful_string :
    let settings := Settings.standard
    let ram := (Ram.blank.set 0 0x48).set 1 0x69
    let ram' := ram.set 0xB8000 0x55
    let s := (onBoard settings 0 ram).powerOn.2
    let t := (onRecorder settings 0 ram').powerOn.2
    let calls : List RegisterImage := [⟨0x0E41, 0x0007, 0, 0, 0, 0⟩, ⟨0x1301, 0x0007, 0, 0, 0, 0⟩]
    ModeSpec.lookup settings.initialMode = .ok (.text 0x01 .narrow 0x0800) ∧
      (∀ a : Address, a.isDisplay = false → ram'.get a = ram.get a) ∧
      ram.get 0 = 0x48 ∧ ram.get 1 = 0x69 ∧ ram.get 2 = 0 ∧ s.ScansMemoryAll calls ∧
      (t.serve calls).screen = (s.serve calls).screen ∧
      (t.serve calls).machine.cycles = (s.serve calls).machine.cycles := by
  intro settings ram ram' s t calls
  have hmode : ModeSpec.lookup settings.initialMode = .ok (.text 0x01 .narrow 0x0800) := rfl
  have hram (a : Address) (ha : a.isDisplay = false) : ram'.get a = ram.get a := by
    refine (ram.get_set _ a _).trans (if_neg ?_)
    rintro rfl
    cases ha
  have hscan : s.ScansMemoryAll calls :=
    ⟨scansMemory_low _ rfl rfl, scansMemory_low _ rfl rfl, trivial⟩
  obtain ⟨-, -, hcalls⟩ := onRecorder_faithful settings 0 hmode hram
  obtain ⟨hscreen, -, -, -, -, -, hcycles, -, -⟩ := hcalls calls hscan
  refine ⟨hmode, hram, ?_, ?_, ?_, hscan, hscreen, by simpa only [s, t] using hcycles⟩
  all_goals simp [ram, Ram.get_set]

end

end VgaFirmware.Service
