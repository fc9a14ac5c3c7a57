import VgaFirmware.Proofs.PageOperations

/-!
# Independent pages

In a text mode, operations on different pages do not notice each other. Along an interleaving of
operations on two pages, the state stays alike on each of the pages to the run of the operations
on that page alone (`answers_interleaving`), so all interleavings give the same answers and end in
the same state (`Started.performAll_interleaving`).
-/

namespace VgaFirmware

/-! ## Interleavings -/

/-- The third list has the elements of the first and of the second, each in their order. -/
inductive Interleaving {α : Type} : List α → List α → List α → Prop where
  | nil : Interleaving [] [] []
  | left (x : α) {xs ys zs : List α} (h : Interleaving xs ys zs) :
      Interleaving (x :: xs) ys (x :: zs)
  | right (y : α) {xs ys zs : List α} (h : Interleaving xs ys zs) :
      Interleaving xs (y :: ys) (y :: zs)

namespace Interleaving

variable {α : Type} {xs ys zs : List α}

theorem any_eq (h : Interleaving xs ys zs) (f : α → Bool) :
    zs.any f = (xs.any f || ys.any f) := by
  induction h with
  | nil => rfl
  | left x _ ih => rw [List.any_cons, List.any_cons, ih, Bool.or_assoc]
  | right y _ ih => rw [List.any_cons, List.any_cons, ih, Bool.or_left_comm]

theorem mem_or (h : Interleaving xs ys zs) {z : α} (hz : z ∈ zs) : z ∈ xs ∨ z ∈ ys := by
  induction h with
  | nil => exact .inl hz
  | left x _ ih =>
    rcases List.mem_cons.mp hz with rfl | hz
    · exact .inl List.mem_cons_self
    · exact (ih hz).imp_left (List.mem_cons_of_mem _)
  | right y _ ih =>
    rcases List.mem_cons.mp hz with rfl | hz
    · exact .inr List.mem_cons_self
    · exact (ih hz).imp_right (List.mem_cons_of_mem _)

end Interleaving

/-! ## Requests on a page -/

namespace Request

/-- Teletype output, moving the cursor, or reading a cell, on the page. -/
def onPage (page : UInt8) : Request → Bool
  | teletype p _ | setCursorPosition p _ _ | readCell p => p == page
  | _ => false

/-- Works in a view, as all of these do but moving the cursor. -/
def opensView : Request → Bool
  | teletype _ _ | readCell _ => true
  | _ => false

theorem onPage_cases {page : UInt8} {r : Request} (h : r.onPage page = true) :
    (∃ c, r = .teletype page c) ∨ (∃ x y, r = .setCursorPosition page x y) ∨
      r = .readCell page := by
  cases r with
  | teletype p c =>
    obtain rfl : p = page := eq_of_beq h
    exact .inl ⟨c, rfl⟩
  | setCursorPosition p x y =>
    obtain rfl : p = page := eq_of_beq h
    exact .inr (.inl ⟨x, y, rfl⟩)
  | readCell p =>
    obtain rfl : p = page := eq_of_beq h
    exact .inr (.inr rfl)
  | _ => cases h

end Request

namespace Service

/-- What a service answers to requests, one after the other. -/
def answers {B : Type} [Backend B] (s : Service B) : List Request → List (Except Rejection Answer)
  | [] => []
  | r :: rest => (s.perform r).1 :: (s.perform r).2.answers rest

variable {bus : BusWidth} {window : UInt16} {spec : ModeSpec} {s s' t u : Service (Board bus)}
  {page : UInt8} {pages : UInt8 → Prop}

/-- A request on a page touches that page alone. -/
theorem Usable.perform (h : s.Usable window spec) (paged : s.screen.Paged)
    (hpage : page.toNat < 8) {r : Request} (hr : r.onPage page = true) :
    (s.perform r).2.Usable window spec ∧ Touches (· = page) r.opensView s (s.perform r).2 := by
  let slot : Page := ⟨page.toNat, hpage⟩
  have hslot : slot.val = page.toNat := rfl
  rcases Request.onPage_cases hr with ⟨c, rfl⟩ | ⟨x, y, rfl⟩ | rfl
  · obtain ⟨w, p, t, hdraw, hmove, ht, -⟩ := h.teletype_eq paged hslot c
    have husable := (kept_usable window spec).teletype h page c
    simp only [Service.perform, ht] at husable ⊢
    exact ⟨husable, hdraw.touches.trans (hmove.touches rfl)⟩
  · obtain ⟨t, ht, hmove⟩ := h.exists_setCursorPosition hslot x y
    have husable := h.setCursorPosition page x y
    simp only [Service.perform, ht] at husable ⊢
    exact ⟨husable, hmove.touches rfl⟩
  · obtain ⟨t, ht, hdraw, -⟩ := h.readCell_eq paged hslot
    have husable := h.quiet (s.quiet_readCell page)
    simp only [Service.perform, ht] at husable ⊢
    exact ⟨husable, hdraw.touches⟩

/-- What a request on a page does to that page, and what it answers, depends on nothing else. -/
theorem AlikeOn.perform (h : AlikeOn page s s') (hs : s.Usable window spec)
    (hs' : s'.Usable window spec) (paged : s.screen.Paged) (hpage : page.toNat < 8) {r : Request}
    (hr : r.onPage page = true) :
    (s'.perform r).1 = (s.perform r).1 ∧ AlikeOn page (s.perform r).2 (s'.perform r).2 := by
  let slot : Page := ⟨page.toNat, hpage⟩
  have hslot : slot.val = page.toNat := rfl
  rcases Request.onPage_cases hr with ⟨c, rfl⟩ | ⟨x, y, rfl⟩ | rfl
  · obtain ⟨hfirst, halike⟩ := h.teletype hs hs' paged hslot c
    exact ⟨congrArg (Except.map fun _ => Answer.done) hfirst, halike⟩
  · obtain ⟨hfirst, halike⟩ := h.setCursorPosition hs hs' hslot x y
    exact ⟨congrArg (Except.map fun _ => Answer.done) hfirst, halike⟩
  · obtain ⟨hfirst, halike⟩ := h.readCell hs hs' paged hslot
    exact ⟨congrArg (Except.map Answer.cell) hfirst, halike⟩

/-- Requests on some pages touch these pages alone. -/
theorem Usable.performAll (h : s.Usable window spec) (paged : s.screen.Paged)
    (hpages : ∀ p, pages p → p.toNat < 8) (rs : List Request)
    (hrs : ∀ r ∈ rs, ∃ page, pages page ∧ r.onPage page = true) :
    (s.performAll rs).Usable window spec ∧
      Touches pages (rs.any Request.opensView) s (s.performAll rs) := by
  induction rs generalizing s with
  | nil => exact ⟨h, .refl _ s⟩
  | cons r rest ih =>
    obtain ⟨page, hpage, hr⟩ := hrs r List.mem_cons_self
    obtain ⟨hstep, htouch⟩ := h.perform paged (hpages page hpage) hr
    have htouch := htouch.mono fun p hp => hp ▸ hpage
    obtain ⟨hrest, hall⟩ := ih hstep (htouch.layout.paged paged)
      fun r hr => hrs r (List.mem_cons_of_mem _ hr)
    exact ⟨hrest, htouch.trans hall⟩

/-- States that come from the same one and are alike on all pages touched since are the same, but
for the latches. -/
theorem Touches.eq_of_alikeOn {views : Bool} (ht : Touches pages views s t)
    (hu : Touches pages views s u) (halike : ∀ page, pages page → AlikeOn page t u) :
    u.screen = t.screen ∧ u.machine.hardware.ram = t.machine.hardware.ram ∧
      u.machine.hardware.window = t.machine.hardware.window ∧
      u.machine.hardware.adapter =
        { t.machine.hardware.adapter with latches := u.machine.hardware.adapter.latches } := by
  have hscreen : u.screen = t.screen := by
    refine (ht.layout.symm.trans hu.layout).eq_of_cursor fun slot => ?_
    have hslot : slot.val = (UInt8.ofNat slot.val).toNat := by
      have := slot.isLt
      rw [UInt8.toNat_ofNat']
      omega
    by_cases hpage : pages (UInt8.ofNat slot.val)
    · exact (halike _ hpage).cursor_slot hslot
    · have hcursor := (hu.cursor _ hpage).trans (ht.cursor _ hpage).symm
      rw [u.cursorOf_eq _ slot hslot, t.cursorOf_eq _ slot hslot] at hcursor
      exact Except.ok.inj hcursor
  have hbytes (l : Place) : u.machine.hardware.byteAt l = t.machine.hardware.byteAt l := by
    by_cases hon : ∃ page, pages page ∧ s.screen.OnPage page l
    · obtain ⟨page, hpage, hl⟩ := hon
      rw [← ht.layout.onPage] at hl
      exact Board.byteAt_of_pageCell (halike page hpage).cells hl
    · have hoff (page : UInt8) (hpage : pages page) : ¬ s.screen.OnPage page l :=
        fun hl => hon ⟨page, hpage, hl⟩
      exact (hu.frame l hoff).trans (ht.frame l hoff).symm
  have hcrtc : u.machine.hardware.adapter.crtc = t.machine.hardware.adapter.crtc := by
    by_cases hactive : pages s.screen.activePage
    · exact (halike _ hactive).crtc ht.layout.activePage.symm
    · exact (hu.crtc hactive).trans (ht.crtc hactive).symm
  have hplanes : u.machine.hardware.adapter.planes = t.machine.hardware.adapter.planes :=
    PlaneMemory.ext fun p off => hbytes (.plane p off)
  refine ⟨hscreen, Ram.ext fun a => hbytes (.memory a),
    hu.devices.window.trans ht.devices.window.symm, ?_⟩
  exact ht.devices.adapter_eq hu.devices hcrtc hplanes

variable {p q : UInt8} {xs ys zs : List Request} {v : Service (Board bus)}

/-- A run along an interleaving gives the answers of the two runs that it interleaves, and stays
alike to each of them on its own page. -/
theorem answers_interleaving (hp : p.toNat < 8) (hq : q.toNat < 8) (hne : p ≠ q)
    (hxs : ∀ r ∈ xs, r.onPage p = true) (hys : ∀ r ∈ ys, r.onPage q = true)
    (hzs : Interleaving xs ys zs) (hs : s.Usable window spec) (paged : s.screen.Paged)
    (hu : u.Usable window spec) (hv : v.Usable window spec) (hsu : AlikeOn p s u)
    (hsv : AlikeOn q s v) :
    Interleaving (xs.zip (u.answers xs)) (ys.zip (v.answers ys)) (zs.zip (s.answers zs)) ∧
      AlikeOn p (s.performAll zs) (u.performAll xs) ∧
      AlikeOn q (s.performAll zs) (v.performAll ys) := by
  induction hzs generalizing s u v with
  | nil => exact ⟨.nil, hsu, hsv⟩
  | left x _ ih =>
    have hx := hxs x List.mem_cons_self
    obtain ⟨hs', htouch⟩ := hs.perform paged hp hx
    obtain ⟨hu', -⟩ := hu.perform (hsu.layout.paged paged) hp hx
    obtain ⟨hsame, hsu'⟩ := hsu.perform hs hu paged hp hx
    have hstays := htouch.alikeOn paged (fun _ e => e ▸ hp) hq hne.symm
    obtain ⟨hanswers, hend⟩ := ih (fun r hr => hxs r (List.mem_cons_of_mem _ hr)) hys hs'
      (htouch.layout.paged paged) hu' hv hsu' (hstays.symm.trans hsv)
    refine ⟨?_, hend⟩
    simp only [answers, List.zip_cons_cons, hsame]
    exact hanswers.left _
  | right y _ ih =>
    have hy := hys y List.mem_cons_self
    obtain ⟨hs', htouch⟩ := hs.perform paged hq hy
    obtain ⟨hv', -⟩ := hv.perform (hsv.layout.paged paged) hq hy
    obtain ⟨hsame, hsv'⟩ := hsv.perform hs hv paged hq hy
    have hstays := htouch.alikeOn paged (fun _ e => e ▸ hq) hp hne
    obtain ⟨hanswers, hend⟩ := ih hxs (fun r hr => hys r (List.mem_cons_of_mem _ hr)) hs'
      (htouch.layout.paged paged) hu hv' (hstays.symm.trans hsu) hsv'
    refine ⟨?_, hend⟩
    simp only [answers, List.zip_cons_cons, hsame]
    exact hanswers.right _

/-- Text pages are independent. Whatever state calls have led to, if it is in a text mode then
requests to two different pages may come in any interleaving: each of them is answered as if all
requests to the one page came before all those to the other, and in the end screen, planes,
memory, window and registers are the same, only the latches are not. -/
theorem Started.performAll_interleaving (h : s.Started window) (hmode : s.screen.mode.toNat ≤ 3)
    (hp : p.toNat ≤ 7) (hq : q.toNat ≤ 7) (hne : p ≠ q)
    (hxs : ∀ r ∈ xs, r.onPage p = true) (hys : ∀ r ∈ ys, r.onPage q = true)
    (hzs : Interleaving xs ys zs) :
    let t := s.performAll zs
    let u := (s.performAll xs).performAll ys
    Interleaving (xs.zip (s.answers xs)) (ys.zip ((s.performAll xs).answers ys))
      (zs.zip (s.answers zs)) ∧
    t.screen = u.screen ∧
    t.machine.hardware.ram = u.machine.hardware.ram ∧
    t.machine.hardware.window = u.machine.hardware.window ∧
    t.machine.hardware.adapter =
      { u.machine.hardware.adapter with latches := t.machine.hardware.adapter.latches } := by
  obtain ⟨spec, hs⟩ := h.usable
  have paged := hs.screen.paged (ModeSpec.isText_of_le hs.screen.lookup hmode)
  have hp := Nat.lt_succ_of_le hp
  have hq := Nat.lt_succ_of_le hq
  let pages (page : UInt8) : Prop := page = p ∨ page = q
  have hpages (page : UInt8) (h : pages page) : page.toNat < 8 :=
    h.elim (fun e => e ▸ hp) (fun e => e ▸ hq)
  -- first the one page, then the other
  obtain ⟨hfirst, hxtouch⟩ := hs.performAll paged (fun x (e : x = p) => e ▸ hp) xs
    fun r hr => ⟨p, rfl, hxs r hr⟩
  obtain ⟨-, hytouch⟩ := hfirst.performAll (hxtouch.layout.paged paged)
    (fun x (e : x = q) => e ▸ hq) ys fun r hr => ⟨q, rfl, hys r hr⟩
  have hutouch := (hxtouch.mono fun _ e => .inl e).trans
    (hytouch.mono fun x (e : x = q) => (.inr e : pages x))
  rw [← hzs.any_eq] at hutouch
  -- both in any order
  obtain ⟨-, hztouch⟩ := hs.performAll paged hpages zs fun r hr =>
    (hzs.mem_or hr).elim (fun hr => ⟨p, .inl rfl, hxs r hr⟩) fun hr => ⟨q, .inr rfl, hys r hr⟩
  have hkept := hxtouch.alikeOn paged (fun _ e => e ▸ hp) hq hne.symm
  obtain ⟨hanswers, hontop, honq⟩ := answers_interleaving hp hq hne hxs hys hzs hs paged hs hfirst
    (.refl p s) hkept
  have honp := hontop.trans
    (hytouch.alikeOn (hxtouch.layout.paged paged) (fun _ e => e ▸ hq) hp hne)
  refine ⟨hanswers, hutouch.eq_of_alikeOn hztouch ?_⟩
  rintro page (rfl | rfl)
  · exact honp.symm
  · exact honq.symm

theorem Started.performAll_interleaving_text :
    let s := poweredOn 0x03
    let xs : List Request := [.teletype 0 ⟨0x41, 0x07⟩, .readCell 0]
    let ys : List Request := [.setCursorPosition 1 79 24, .teletype 1 ⟨0x42, 0x17⟩]
    let zs : List Request := [.setCursorPosition 1 79 24, .teletype 0 ⟨0x41, 0x07⟩,
      .teletype 1 ⟨0x42, 0x17⟩, .readCell 0]
    s.Started 0 ∧ s.screen.mode.toNat ≤ 3 ∧ (0 : UInt8).toNat ≤ 7 ∧ (1 : UInt8).toNat ≤ 7 ∧
      (0 : UInt8) ≠ 1 ∧ (∀ r ∈ xs, r.onPage 0 = true) ∧ (∀ r ∈ ys, r.onPage 1 = true) ∧
      Interleaving xs ys zs ∧
      (s.performAll zs).screen = ((s.performAll xs).performAll ys).screen ∧
      (s.performAll zs).machine.hardware.ram =
        ((s.performAll xs).performAll ys).machine.hardware.ram := by
  intro s xs ys zs
  have h : s.Started 0 := (reachable_poweredOn 0x03 rfl).started
  have hmode : s.screen.mode.toNat ≤ 3 := by
    rw [show s.screen = _ from screen_poweredOn 0x03 rfl]
    decide
  have hxs : ∀ r ∈ xs, r.onPage 0 = true := by decide
  have hys : ∀ r ∈ ys, r.onPage 1 = true := by decide
  have hzs : Interleaving xs ys zs := .right _ (.left _ (.right _ (.left _ .nil)))
  obtain ⟨-, hscreen, hram, -⟩ := h.performAll_interleaving hmode (p := 0) (q := 1) (by decide)
    (by decide) (by decide) hxs hys hzs
  exact ⟨h, hmode, by decide, by decide, by decide, hxs, hys, hzs, hscreen, hram⟩

end Service

end VgaFirmware
