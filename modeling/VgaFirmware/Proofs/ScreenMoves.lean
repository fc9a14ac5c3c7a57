import Mathlib.Logic.Relation
import VgaFirmware.Proofs.Calls
import VgaFirmware.Proofs.Usable

/-!
# How requests change the screen

Apart from entering a mode, a request changes the screen in two ways only: it stores a cursor at
the nearest position on the screen, or it shows a page that exists (`Screen.Move`). Entering a mode
brings every cursor onto the new screen. So a screen is always in one of the modes of the table,
whatever the hardware answers (`Screen.Reached.consistent`).
-/

namespace VgaFirmware

namespace Screen

/-- A change of the screen within a mode. -/
inductive Move (d : Screen) : Screen → Prop where
  /-- A cursor is stored. -/
  | cursor (slot : Page) (p : Position) : Move d (d.setCursor slot (d.clamp p))
  /-- A page is shown. -/
  | page {page : UInt8} (h : page.toNat < 8) : Move d { d with activePage := page }

/-- Any number of changes within a mode. -/
def Moves : Screen → Screen → Prop := Relation.ReflTransGen Move

/-- A change of the screen. -/
inductive Change (d : Screen) : Screen → Prop where
  | move {e : Screen} (h : d.Move e) : Change d e
  /-- A mode is entered. -/
  | enter {spec : ModeSpec} (h : ModeSpec.lookup spec.mode = .ok spec) : Change d (d.enter spec)

/-- Any number of changes. -/
def Changes : Screen → Screen → Prop := Relation.ReflTransGen Change

variable {d e : Screen} {spec : ModeSpec}

theorem Moves.changes (h : d.Moves e) : d.Changes e :=
  Relation.ReflTransGen.mono (fun _ _ => .move) _ _ h

theorem InMode.move (h : d.InMode spec) (hmove : d.Move e) : e.InMode spec := by
  cases hmove with
  | cursor slot p => exact h.setCursor slot p
  | page hpage => exact h.showPage hpage

theorem InMode.change (h : d.InMode spec) (hchange : d.Change e) : ∃ spec, e.InMode spec := by
  cases hchange with
  | move hmove => exact ⟨spec, h.move hmove⟩
  | enter hspec => exact ⟨_, d.inMode_enter hspec⟩

theorem InMode.changes (h : d.InMode spec) (hchanges : d.Changes e) : ∃ spec, e.InMode spec := by
  induction hchanges with
  | refl => exact ⟨spec, h⟩
  | tail _ hchange ih =>
    obtain ⟨spec, hmode⟩ := ih
    exact hmode.change hchange

theorem Changes.of_enter {mode : UInt8} (h : ModeSpec.lookup mode = .ok spec)
    (he : e = d.enter spec) : d.Changes e := by
  obtain ⟨-, rfl⟩ := ModeSpec.lookup_eq_ok h
  exact he ▸ .single (.enter h)

end Screen

namespace Service

variable {B : Type}

/-- Same settings, and the screen has changed within its mode at most. -/
structure Steady (s t : Service B) : Prop where
  settings : t.settings = s.settings
  screen : s.screen.Moves t.screen

namespace Steady

variable {s t u : Service B}

theorem of_screen (hsettings : t.settings = s.settings) (hscreen : t.screen = s.screen) :
    Steady s t :=
  ⟨hsettings, hscreen ▸ .refl⟩

theorem refl (s : Service B) : Steady s s := of_screen rfl rfl

theorem trans (h : Steady s t) (g : Steady t u) : Steady s u :=
  ⟨g.settings.trans h.settings, .trans h.screen g.screen⟩

end Steady

variable [Backend B] (s : Service B)

theorem steady_setCursorPosition (page x y : UInt8) :
    s.Steady (s.setCursorPosition page x y).2 := by
  unfold setCursorPosition
  split
  · exact .refl s
  · next slot _ =>
    have hmove : s.screen.Moves (s.screen.setCursor slot (s.screen.clamp ⟨x, y⟩)) :=
      .single (.cursor slot ⟨x, y⟩)
    simp only
    split <;> exact ⟨rfl, hmove⟩

theorem steady_setActivePage (page : UInt8) : s.Steady (s.setActivePage page).2 := by
  unfold setActivePage
  split
  · exact .refl s
  · next slot hslot =>
    have hpage : page.toNat < 8 := Page.ofByte_eq_ok.mp hslot ▸ slot.isLt
    exact ⟨rfl, .single (.page hpage)⟩

theorem steady_cursorPosition (page : UInt8) : s.Steady (s.cursorPosition page).2 := by
  unfold cursorPosition
  split <;> exact .of_screen rfl rfl

theorem steady_scrollPage (page : UInt8) (direction : Direction) (count attr columns rows : UInt8) :
    s.Steady (s.scrollPage page direction count attr columns rows) := by
  unfold scrollPage
  split <;> exact .of_screen rfl rfl

theorem steady_writeCells (page : UInt8) (c : Cell) (count : UInt16) :
    s.Steady (s.writeCells page c count).2 := by
  unfold writeCells
  split <;> exact .of_screen rfl rfl

theorem steady_writeCharacters (page chr : UInt8) (count : UInt16) :
    s.Steady (s.writeCharacters page chr count).2 := by
  unfold writeCharacters
  split <;> exact .of_screen rfl rfl

theorem steady_readCell (page : UInt8) : s.Steady (s.readCell page).2 := by
  unfold readCell
  split <;> exact .of_screen rfl rfl

theorem steady_stringLength (buffer : UInt32) : s.Steady (s.stringLength buffer).2 := by
  unfold stringLength
  simp only
  split <;> exact .of_screen rfl rfl

theorem steady_teletype (page : UInt8) (c : Cell) : s.Steady (s.teletype page c).2 := by
  unfold teletype
  split
  · exact .refl s
  · next p _ =>
    have hput : s.Steady (s.update fun m => m.edit .cells (s.screen.pageStart page) fun m =>
        m.update (Backend.storeWord · (s.screen.cellIndex p * 2) c.toWord)) := .of_screen rfl rfl
    simp only
    split
    · exact hput.trans (steady_setCursorPosition _ _ _ _)
    · split
      · exact hput.trans (steady_setCursorPosition _ _ _ _)
      · exact (hput.trans (steady_scrollPage _ _ _ _ _ _ _)).trans
          (steady_setCursorPosition _ _ _ _)

theorem steady_teletypeAll (page : UInt8) (cells : List Cell) :
    s.Steady (s.teletypeAll page cells).2 :=
  teletypeAll_keeps (P := fun t => s.Steady t) (fun c ht => ht.trans (steady_teletype _ page c))
    (.refl s) cells

theorem steady_writeString (options : StringOptions) (buffer : UInt32) (attr x y : UInt8) :
    s.Steady (s.writeString options buffer attr x y).2 := by
  have hlength := s.steady_stringLength buffer
  unfold writeString
  generalize s.stringLength buffer = result at hlength
  obtain ⟨length, t⟩ := result
  simp only
  split
  · refine (hlength.trans ?_).trans (steady_setCursorPosition _ _ _ _)
    exact .of_screen rfl rfl
  · exact hlength.trans (.of_screen rfl rfl)

/-- A request that leaves the mode as it is leaves the settings, too, and moves the screen within
its mode. -/
theorem steady_perform {q : Request} (h : q.keepsMode = true) : s.Steady (s.perform q).2 := by
  cases q with
  | powerOn | setMode _ | interrupt _ => cases h
  | modeInfo => exact .refl s
  | setCursorShape _ | cursorShape => exact .of_screen rfl rfl
  | setCursorPosition page x y => exact s.steady_setCursorPosition page x y
  | cursorPosition page => exact s.steady_cursorPosition page
  | setActivePage page => exact s.steady_setActivePage page
  | scroll direction count attr columns rows => exact s.steady_scrollPage _ _ _ _ _ _
  | writeCells page c count => exact s.steady_writeCells page c count
  | writeCharacters page chr count => exact s.steady_writeCharacters page chr count
  | teletype page c => exact s.steady_teletype page c
  | teletypeAll page cells => exact s.steady_teletypeAll page cells
  | writeString options buffer attr x y => exact s.steady_writeString options buffer attr x y
  | readCell page => exact s.steady_readCell page

/-! ## Modes -/

/-- Setting a mode enters it, or refuses it and leaves everything as it was. -/
theorem setMode_cases (mode : UInt8) :
    (∃ spec, ModeSpec.lookup mode = .ok spec ∧ (s.setMode mode).1 = .ok () ∧
      (s.setMode mode).2.settings = s.settings ∧
      (s.setMode mode).2.screen = s.screen.enter spec) ∨
    ∃ e, ModeSpec.lookup mode = .error e ∧ s.setMode mode = (.error e, s) := by
  cases h : ModeSpec.lookup mode with
  | error e =>
    refine .inr ⟨e, rfl, ?_⟩
    simp only [setMode, h]
  | ok spec =>
    refine .inl ⟨spec, rfl, ?_, ?_, ?_⟩
    all_goals simp only [setMode, h]
    all_goals split <;> rfl

/-- Power-on ends with setting the initial mode. -/
theorem powerOn_cases :
    (∃ spec, ModeSpec.lookup s.settings.initialMode = .ok spec ∧ s.powerOn.1 = .ok () ∧
      s.powerOn.2.settings = s.settings ∧ s.powerOn.2.screen = s.screen.enter spec) ∨
    ∃ e, ModeSpec.lookup s.settings.initialMode = .error e ∧ s.powerOn = (.error e, s) := by
  rcases (s.update (·.bringUp s.settings)).setMode_cases s.settings.initialMode with
    ⟨spec, hspec, hok, hsettings, hscreen⟩ | ⟨e, he, -⟩
  · refine .inl ⟨spec, hspec, ?_⟩
    rw [settings_update] at hsettings
    rw [screen_update] at hscreen
    simp only [powerOn, hspec]
    generalize (s.update (·.bringUp s.settings)).setMode s.settings.initialMode = result
      at hok hsettings hscreen
    rcases result with ⟨_ | _, t⟩
    · cases hok
    · exact ⟨rfl, hsettings, hscreen⟩
  · refine .inr ⟨e, he, ?_⟩
    simp only [powerOn, he]

theorem settings_setMode (mode : UInt8) : (s.setMode mode).2.settings = s.settings := by
  rcases s.setMode_cases mode with ⟨-, -, -, hsettings, -⟩ | ⟨e, -, hrefused⟩
  · exact hsettings
  · rw [hrefused]

theorem settings_powerOn : s.powerOn.2.settings = s.settings := by
  rcases s.powerOn_cases with ⟨-, -, -, hsettings, -⟩ | ⟨e, -, hrefused⟩
  · exact hsettings
  · rw [hrefused]

theorem changes_setMode (mode : UInt8) : s.screen.Changes (s.setMode mode).2.screen := by
  rcases s.setMode_cases mode with ⟨spec, hspec, -, -, hscreen⟩ | ⟨e, -, hrefused⟩
  · exact .of_enter hspec hscreen
  · rw [hrefused]
    exact .refl

theorem changes_powerOn : s.screen.Changes s.powerOn.2.screen := by
  rcases s.powerOn_cases with ⟨spec, hspec, -, -, hscreen⟩ | ⟨e, -, hrefused⟩
  · exact .of_enter hspec hscreen
  · rw [hrefused]
    exact .refl

theorem changes_interrupt (r : RegisterImage) : s.screen.Changes (s.interrupt r).2.screen := by
  refine interrupt_keeps (P := fun t => s.screen.Changes t.screen) (fun e h => h) ?_ .refl
  intro t function q _ hrequest h
  rcases Selector.request_cases hrequest with rfl | hq
  · exact h.trans (t.changes_setMode _)
  · exact h.trans (t.steady_perform hq).screen.changes

/-- Every request changes the screen by moves and by entering modes. -/
theorem changes_perform (q : Request) : s.screen.Changes (s.perform q).2.screen := by
  cases hq : q.keepsMode with
  | true => exact (s.steady_perform hq).screen.changes
  | false =>
    cases q with
    | powerOn => exact s.changes_powerOn
    | setMode mode => exact s.changes_setMode mode
    | interrupt r => exact s.changes_interrupt r
    | _ => cases hq

end Service

/-! ## Screens that a service goes through -/

/-- The screens that a service with some settings goes through. Each request may meet hardware of
its own, in any state. -/
inductive Screen.Reached (settings : Settings) : Screen → Prop where
  | initial : Reached settings .initial
  | perform {d : Screen} (h : Reached settings d) {B : Type} [Backend B] (m : Machine B)
      (q : Request) : Reached settings ((Service.mk settings d m).perform q).2.screen

namespace Screen.Reached

variable {settings : Settings} {d : Screen}

/-- A screen is always in a mode. -/
theorem inMode (h : Reached settings d) : ∃ spec, d.InMode spec := by
  induction h with
  | initial => exact ⟨_, inMode_initial⟩
  | perform _ m q ih =>
    obtain ⟨spec, hmode⟩ := ih
    exact hmode.changes ((Service.mk settings _ m).changes_perform q)

/-- Whatever requests a service is given and whatever its hardware answers, the screen is in a mode
of the table and has the geometry of that mode, the page on display exists, and all eight stored
cursors are on the screen. -/
theorem consistent (h : Reached settings d) :
    ∃ spec ∈ ModeSpec.table, ModeSpec.lookup d.mode = .ok spec ∧ d.columns = spec.columns ∧
      d.rows = spec.rows ∧ d.pageSize = spec.pageSize ∧ d.activePage.toNat ≤ 7 ∧
      ∀ page, (d.cursor page).x < d.columns ∧ (d.cursor page).y < d.rows := by
  obtain ⟨spec, hmode⟩ := h.inMode
  have hpage := hmode.activePage
  exact ⟨spec, (ModeSpec.lookup_eq_ok hmode.lookup).1, hmode.lookup, hmode.columns, hmode.rows,
    hmode.pageSize, by omega, fun page => ⟨hmode.cursor_x page, hmode.cursor_y page⟩⟩

/-- A cursor at the bottom right of a large screen comes back onto a small one. -/
theorem consistent_smaller :
    let m : Machine (Board .word) := .ofHardware (.powerOn .word)
    let d₁ := ((Service.mk .standard .initial m).perform (.setMode 0x12)).2.screen
    let d₂ := ((Service.mk .standard d₁ m).perform (.setCursorPosition 7 79 59)).2.screen
    let d₃ := ((Service.mk .standard d₂ m).perform (.setMode 0x00)).2.screen
    Reached .standard d₃ ∧ d₃.columns = 40 ∧
      ∀ page, (d₃.cursor page).x < d₃.columns ∧ (d₃.cursor page).y < d₃.rows := by
  intro m d₁ d₂ d₃
  have h : Reached .standard d₃ := ((Reached.initial.perform m _).perform m _).perform m _
  have hspec : ModeSpec.lookup 0x00 = .ok (.text 0x00 .narrow 0x0800) := rfl
  have hscreen : d₃ = d₂.enter (.text 0x00 .narrow 0x0800) :=
    (Service.mk .standard d₂ m).screen_setMode hspec
  obtain ⟨-, -, -, -, -, -, -, hcursors⟩ := h.consistent
  exact ⟨h, congrArg columns hscreen, hcursors⟩

end Screen.Reached

end VgaFirmware
