import VgaFirmware.Proofs.ScreenMoves
import VgaFirmware.Proofs.Upkeep

/-!
# Stored cursors

Within a mode a request stores the cursor of one page at most (`Request.cursorPage`), and leaves
geometry and all other cursors alone (`sameCursor_perform`). So a cursor that was placed on a page
is still there after any calls that set no mode and do not store the cursor of that page
(`cursor_returned`).
-/

namespace VgaFirmware

/-- The page whose cursor a request stores, if it stores one while a page is on display. -/
def Request.cursorPage (active : UInt8) : Request → Option UInt8
  | .setCursorPosition page _ _ | .teletype page _ | .teletypeAll page _ => some page
  | .writeString options _ _ _ _ => if options.moveCursor then some active else none
  | _ => none

/-- Same geometry, and the same stored cursor of a page. -/
structure Screen.SameCursor (slot : Page) (d e : Screen) : Prop where
  columns : e.columns = d.columns
  rows : e.rows = d.rows
  cursor : e.cursor slot = d.cursor slot

namespace Screen.SameCursor

variable {slot : Page} {d e f : Screen}

theorem refl (slot : Page) (d : Screen) : SameCursor slot d d := ⟨rfl, rfl, rfl⟩

theorem of_eq (h : e = d) : SameCursor slot d e := h ▸ refl slot d

theorem trans (h : SameCursor slot d e) (g : SameCursor slot e f) : SameCursor slot d f where
  columns := g.columns.trans h.columns
  rows := g.rows.trans h.rows
  cursor := g.cursor.trans h.cursor

theorem setCursor (d : Screen) {other : Page} (h : slot ≠ other) (p : Position) :
    SameCursor slot d (d.setCursor other p) where
  columns := rfl
  rows := rfl
  cursor := by rw [cursor_setCursor, if_neg h]

end Screen.SameCursor

namespace Service

variable {bus : BusWidth} (s : Service (Board bus)) {slot : Page} {page : UInt8}

/-! ## Requests -/

theorem sameCursor_setCursorPosition (h : page.toNat ≠ slot.val) (x y : UInt8) :
    s.screen.SameCursor slot (s.setCursorPosition page x y).2.screen := by
  unfold setCursorPosition
  split
  · exact .refl _ _
  · next other hother =>
    have hne : slot ≠ other := fun e => h (e ▸ (Page.ofByte_eq_ok.mp hother).symm)
    have hset := Screen.SameCursor.setCursor s.screen hne (s.screen.clamp ⟨x, y⟩)
    simp only
    split <;> exact hset

theorem sameCursor_setActivePage (page : UInt8) :
    s.screen.SameCursor slot (s.setActivePage page).2.screen := by
  unfold setActivePage
  split
  · exact .refl _ _
  · exact ⟨rfl, rfl, rfl⟩

theorem sameCursor_teletype (h : page.toNat ≠ slot.val) (c : Cell) :
    s.screen.SameCursor slot (s.teletype page c).2.screen :=
  teletype_keeps (P := fun t => s.screen.SameCursor slot t.screen)
    (fun ht quiet => ht.trans (.of_eq quiet.screen))
    (fun x y ht => ht.trans (sameCursor_setCursorPosition _ h x y)) (.refl _ _) c

theorem sameCursor_writeString {options : StringOptions}
    (h : options.moveCursor = true → s.screen.activePage.toNat ≠ slot.val) (buffer : UInt32)
    (attr x y : UInt8) :
    s.screen.SameCursor slot (s.writeString options buffer attr x y).2.screen := by
  have hlength := (s.quiet_stringLength buffer).screen
  unfold writeString
  generalize s.stringLength buffer = result at hlength
  obtain ⟨length, t⟩ := result
  have hlength : t.screen = s.screen := hlength
  have hput := (t.quiet_putText t.screen.activePage options (t.screen.cellIndex ⟨x, y⟩) buffer
    length attr).screen.trans hlength
  simp only
  split
  · next hmove =>
    have hactive : t.screen.activePage.toNat ≠ slot.val := hlength ▸ h hmove
    exact (Screen.SameCursor.of_eq hput).trans (sameCursor_setCursorPosition _ hactive _ _)
  · exact .of_eq hput

/-- Within a mode a request leaves geometry and cursors alone, but for the cursor that it
stores. -/
theorem sameCursor_perform {q : Request} (hmode : q.keepsMode = true)
    (h : ∀ page, q.cursorPage s.screen.activePage = some page → page.toNat ≠ slot.val) :
    s.screen.SameCursor slot (s.perform q).2.screen := by
  cases q with
  | powerOn | setMode _ | interrupt _ => cases hmode
  | modeInfo => exact .refl _ _
  | setCursorShape _ | cursorShape => exact .of_eq rfl
  | setCursorPosition page x y => exact s.sameCursor_setCursorPosition (h page rfl) x y
  | cursorPosition page => exact .of_eq (s.quiet_cursorPosition page).screen
  | setActivePage page => exact s.sameCursor_setActivePage page
  | scroll direction count attr columns rows =>
    exact .of_eq (s.quiet_scrollPage _ direction count attr columns rows).screen
  | writeCells page c count => exact .of_eq (s.quiet_writeCells page c count).screen
  | writeCharacters page chr count => exact .of_eq (s.quiet_writeCharacters page chr count).screen
  | teletype page c => exact s.sameCursor_teletype (h page rfl) c
  | teletypeAll page cells =>
    exact teletypeAll_keeps (P := fun t => s.screen.SameCursor slot t.screen)
      (fun c ht => ht.trans (sameCursor_teletype _ (h page rfl) c)) (.refl _ _) cells
  | writeString options buffer attr x y =>
    exact s.sameCursor_writeString (fun hmove => h _ (if_pos hmove)) buffer attr x y
  | readCell page => exact .of_eq (s.quiet_readCell page).screen

/-! ## Calls -/

/-- A call that sets no mode and does not store the cursor of a page: it neither places that cursor
nor types on the page, nor moves the cursor behind a string while the page is on display. -/
def SparesCursor (page : UInt8) (s : Service (Board bus)) (r : RegisterImage) : Prop :=
  match Selector.ofCode? (r.get .ah) with
  | some .setMode => ∀ spec, ModeSpec.lookup (r.get .al) ≠ .ok spec
  | some .moveCursor | some .teletype => r.get .bh ≠ page
  | some .writeString => r.get .al &&& 0x01 = 0 ∨ s.screen.activePage ≠ page
  | _ => True

/-- So are all calls that are served in order. -/
def SparesCursorAll (page : UInt8) (s : Service (Board bus)) : List RegisterImage → Prop
  | [] => True
  | r :: rest => SparesCursor page s r ∧ SparesCursorAll page (s.interrupt r).2 rest

variable {s} {r : RegisterImage}

/-- The request of such a call is refused, or leaves the mode and that cursor alone. -/
theorem SparesCursor.perform (h : SparesCursor page s r) (hslot : slot.val = page.toNat)
    {function : Selector} {q : Request} (hfunction : Selector.ofCode? (r.get .ah) = some function)
    (hq : function.request r = some q) :
    s.screen.SameCursor slot (s.perform q).2.screen := by
  have hne {other : UInt8} (hother : other ≠ page) : other.toNat ≠ slot.val := fun e =>
    hother (UInt8.toNat_inj.mp (e.trans hslot))
  simp only [SparesCursor, hfunction] at h
  cases function with
  | setMode =>
    cases hq
    rcases s.setMode_cases (r.get .al) with ⟨spec, hspec, -⟩ | ⟨e, -, hrefused⟩
    · exact absurd hspec (h spec)
    · refine .of_eq ?_
      rw [Service.perform, hrefused]
      rfl
  | moveCursor | teletype =>
    cases hq
    refine s.sameCursor_perform rfl fun other hother => ?_
    cases hother
    exact hne h
  | writeString =>
    cases hq
    refine s.sameCursor_perform rfl fun other hother => ?_
    simp only [Request.cursorPage, StringOptions.ofByte, bne_iff_ne, ne_eq] at hother
    split at hother
    · next hmove =>
      cases hother
      exact hne (h.resolve_left hmove)
    · cases hother
  | setPalette => cases hq
  | _ =>
    cases hq
    exact s.sameCursor_perform rfl fun other hother => by cases hother

theorem SparesCursor.interrupt (h : SparesCursor page s r) (hslot : slot.val = page.toNat) :
    s.screen.SameCursor slot (s.interrupt r).2.screen := by
  unfold Service.interrupt
  split
  · exact .refl _ _
  · next function hfunction =>
    cases hq : function.request r with
    | none =>
      cases function <;> cases hq
      exact .refl _ _
    | some q =>
      -- the event before the request leaves the screen alone, so the condition still holds
      have hcalled : SparesCursor page (s.emit (.called function r.ax)) r := h
      have hdone := hcalled.perform hslot hfunction hq
      rcases hresult : (s.emit (.called function r.ax)).perform q with ⟨_ | _, t⟩
      · rw [hresult] at hdone
        rw [dispatch_of_error hq hresult]
        exact hdone
      · rw [hresult] at hdone
        rw [dispatch_of_ok hq hresult]
        exact hdone

theorem SparesCursorAll.serve {calls : List RegisterImage} (h : SparesCursorAll page s calls)
    (hslot : slot.val = page.toNat) : s.screen.SameCursor slot (s.serve calls).screen := by
  induction calls generalizing s with
  | nil => exact .refl _ _
  | cons r rest ih => exact (h.1.interrupt hslot).trans (ih h.2)

/-- The call that places the cursor of a page stores it at the nearest position on the screen. -/
theorem screen_moveCursor (s : Service (Board bus)) (hr : r.get .ah = 0x02)
    (hslot : slot.val = (r.get .bh).toNat) :
    (s.interrupt r).2.screen =
      s.screen.setCursor slot (s.screen.clamp ⟨r.get .dl, r.get .dh⟩) := by
  have hfunction : Selector.ofCode? (r.get .ah) = some .moveCursor := by rw [hr]; rfl
  simp only [interrupt, hfunction, dispatch, setCursorPosition, Page.ofByte_eq_ok.mpr hslot]
  split <;> rfl

/-- The call that reads the cursor of a page answers with the one that is stored. -/
theorem fst_readCursor (s : Service (Board bus)) (hr : r.get .ah = 0x03)
    (hslot : slot.val = (r.get .bh).toNat) :
    let a := (s.interrupt r).1
    a.ax = 0 ∧ a.get .dl = (s.screen.cursor slot).x ∧ a.get .dh = (s.screen.cursor slot).y := by
  have hfunction : Selector.ofCode? (r.get .ah) = some .readCursor := by rw [hr]; rfl
  simp only [interrupt, hfunction, dispatch, cursorPosition, Page.ofByte_eq_ok.mpr hslot, answer]
  refine ⟨rfl, ?_, RegisterImage.get_set_self _ _ _⟩
  rw [RegisterImage.get_set_ne _ _ (by decide), RegisterImage.get_set_self]
  rfl

/-- No cursor is lost. Once a call has placed the cursor of a page, it stays where it was stored, at
the nearest position on the screen, for as long as no call sets a mode or stores the cursor of that
page: whatever else is called, a call that reads the cursor gives it back. -/
theorem cursor_returned (s : Service (Board bus)) {r₁ r₂ : RegisterImage} (h₁ : r₁.get .ah = 0x02)
    (h₂ : r₂.get .ah = 0x03) (hpage : (r₁.get .bh).toNat ≤ 7) (hsame : r₂.get .bh = r₁.get .bh)
    {calls : List RegisterImage} (h : SparesCursorAll (r₁.get .bh) (s.interrupt r₁).2 calls) :
    let t := (s.interrupt r₁).2.serve calls
    let a := (t.interrupt r₂).1
    t.screen.columns = s.screen.columns ∧ t.screen.rows = s.screen.rows ∧ a.ax = 0 ∧
      (a.get .dl).toNat = min (r₁.get .dl).toNat (s.screen.columns.toNat - 1) ∧
      (a.get .dh).toNat = min (r₁.get .dh).toNat (s.screen.rows.toNat - 1) := by
  intro t a
  let slot : Page := ⟨(r₁.get .bh).toNat, Nat.lt_succ_of_le hpage⟩
  have hplaced := s.screen_moveCursor h₁ (rfl : slot.val = _)
  have hkept : Screen.SameCursor slot _ t.screen := h.serve rfl
  rw [hplaced] at hkept
  have hslot : slot.val = (r₂.get .bh).toNat := congrArg UInt8.toNat hsame.symm
  obtain ⟨hax, hx, hy⟩ := t.fst_readCursor h₂ hslot
  have hcursor : t.screen.cursor slot = s.screen.clamp ⟨r₁.get .dl, r₁.get .dh⟩ := by
    rw [hkept.cursor, Screen.cursor_setCursor, if_pos rfl]
  rw [hcursor] at hx hy
  refine ⟨hkept.columns, hkept.rows, hax, ?_, ?_⟩
  · rw [hx, Screen.clamp, Byte.toNat_least, Byte.toNat_down]
  · rw [hy, Screen.clamp, Byte.toNat_least, Byte.toNat_down]

/-- Typing and a page switch, a string that does not move the cursor of the page on display, and a
mode that there is not. -/
theorem cursor_returned_beyond_screen :
    let s := poweredOn 0x03
    let r₁ : RegisterImage := ⟨0x0200, 0x0500, 0, 0x0AC8, 0, 0⟩
    let r₂ : RegisterImage := ⟨0x0300, 0x0500, 0, 0, 0, 0⟩
    let calls : List RegisterImage :=
      [⟨0x0E41, 0x0007, 0, 0, 0, 0⟩, ⟨0x0505, 0, 0, 0, 0, 0⟩, ⟨0x1302, 0x0007, 0, 0, 0, 0⟩,
        ⟨0x0042, 0, 0, 0, 0, 0⟩]
    let a := (((s.interrupt r₁).2.serve calls).interrupt r₂).1
    r₁.get .ah = 0x02 ∧ r₂.get .ah = 0x03 ∧ (r₁.get .bh).toNat ≤ 7 ∧ r₂.get .bh = r₁.get .bh ∧
      SparesCursorAll (r₁.get .bh) (s.interrupt r₁).2 calls ∧
      (a.get .dl).toNat = 79 ∧ (a.get .dh).toNat = 10 := by
  intro s r₁ r₂ calls a
  have htype (t : Service (Board .word)) : SparesCursor 0x05 t ⟨0x0E41, 0x0007, 0, 0, 0, 0⟩ :=
    (by decide : (0x00 : UInt8) ≠ 0x05)
  have hunknown (t : Service (Board .word)) : SparesCursor 0x05 t ⟨0x0042, 0, 0, 0, 0, 0⟩ :=
    (nofun : ∀ spec, ModeSpec.lookup 0x42 ≠ .ok spec)
  have hpage : r₁.get .bh = 0x05 := by decide
  have hspares : SparesCursorAll (r₁.get .bh) (s.interrupt r₁).2 calls := by
    rw [hpage]
    exact ⟨htype _, trivial, .inl rfl, hunknown _, trivial⟩
  have hplace : r₁.get .ah = 0x02 := by decide
  have hread : r₂.get .ah = 0x03 := by decide
  obtain ⟨-, -, -, hx, hy⟩ :=
    cursor_returned s hplace hread (by decide) (by decide) hspares
  rw [screen_poweredOn 0x03 rfl] at hx hy
  exact ⟨hplace, hread, by decide, by decide, hspares, hx.trans (by decide),
    hy.trans (by decide)⟩

end Service

end VgaFirmware
