import VgaFirmware.Proofs.BringUp
import VgaFirmware.Proofs.Recording

/-!
# Likenesses of boards

What two boards have in common need not be all that they hold. A `Board.Likeness` is what they have
in common if that lasts: through register cycles and through accesses inside views, which answer
the same on both. Then it lasts through all that the service does to a machine, on either base of
the timing controller, and no operation tells the boards apart.
-/

namespace VgaFirmware

variable {bus : BusWidth}

/-- Changes the attribute controller and the colour table only. -/
def Board.recolour (b : Board bus) (f : AttributeController → AttributeController)
    (g : Dac → Dac) : Board bus :=
  b.updateAdapter fun a => { a with attributes := f a.attributes, dac := g a.dac }

/-- What two boards have in common that lasts. -/
structure Board.Likeness (bus : BusWidth) where
  /-- In common while no view is open. -/
  outside : Board bus → Board bus → Prop
  /-- In common while a view of the page at an address is open. -/
  inside : View → UInt16 → Board bus → Board bus → Prop
  /-- Addresses of the caller's memory that read the same. -/
  visible : Address → Prop
  crtc {b c : Board bus} : outside b c → ∀ i, c.adapter.crtc.read i = b.adapter.crtc.read i
  selectIndexed {b c : Board bus} : outside b c → ∀ i k,
    outside (b.updateAdapter (·.selectIndexed i k)) (c.updateAdapter (·.selectIndexed i k))
  writeIndexed {b c : Board bus} : outside b c → ∀ i v k,
    outside (b.updateAdapter (·.writeIndexed i v k)) (c.updateAdapter (·.writeIndexed i v k))
  recolour {b c : Board bus} : outside b c → ∀ f g, outside (b.recolour f g) (c.recolour f g)
  openView {b c : Board bus} : outside b c → ∀ v start,
    inside v start (b.openView v start) (c.openView v start)
  closeView {b c b' c' : Board bus} {v : View} {start : UInt16} : outside b c →
    inside v start b' c' → outside (b'.closeView b.saved) (c'.closeView c.saved)
  selectPlane {b c : Board bus} {p : Plane} {start : UInt16} : inside (.plane p) start b c → ∀ q,
    inside (.plane q) start (b.selectPlane q) (c.selectPlane q)
  load {b c : Board bus} {v : View} {start : UInt16} : inside v start b c → ∀ off,
    (Backend.load c off).1 = (Backend.load b off).1 ∧
      inside v start (Backend.load b off).2 (Backend.load c off).2
  store {b c : Board bus} {v : View} {start : UInt16} : inside v start b c → ∀ off x,
    inside v start (Backend.store b off x) (Backend.store c off x)
  fetch {b c : Board bus} : outside b c → ∀ a, visible (.ofLinear a) →
    (Backend.fetch c a).1 = (Backend.fetch b a).1 ∧
      outside (Backend.fetch b a).2 (Backend.fetch c a).2
  fetchInside {b c : Board bus} {v : View} {start : UInt16} : inside v start b c →
    ∀ a, visible (.ofLinear a) → (Backend.fetch c a).1 = (Backend.fetch b a).1 ∧
      inside v start (Backend.fetch b a).2 (Backend.fetch c a).2

namespace Board.Likeness

variable (L : Likeness bus) {b c : Board bus} {v : View} {start : UInt16}

/-! ## Transfers -/

theorem loadWord (h : L.inside v start b c) (off : UInt16) :
    (Backend.loadWord c off).1 = (Backend.loadWord b off).1 ∧
      L.inside v start (Backend.loadWord b off).2 (Backend.loadWord c off).2 := by
  obtain ⟨hlow, h₁⟩ := L.load h off
  obtain ⟨hhigh, h₂⟩ := L.load h₁ (off + 1)
  exact ⟨congrArg₂ Word.ofBytes hlow hhigh, h₂⟩

theorem storeWord (h : L.inside v start b c) (off w : UInt16) :
    L.inside v start (Backend.storeWord b off w) (Backend.storeWord c off w) :=
  L.store (L.store h off _) (off + 1) _

theorem copy (h : L.inside v start b c) (dst src : UInt16) (count : Nat) :
    L.inside v start (Backend.copy b dst src count) (Backend.copy c dst src count) := by
  induction count generalizing b c dst src with
  | zero => exact h
  | succ count ih =>
    obtain ⟨hbyte, hload⟩ := L.load h src
    simp only [Backend.copy]
    rw [hbyte]
    exact ih (L.store hload dst _) (dst + 1) (src + 1)

theorem fill (h : L.inside v start b c) (dst : UInt16) (x : UInt8) (count : Nat) :
    L.inside v start (Backend.fill b dst x count) (Backend.fill c dst x count) := by
  induction count generalizing b c dst with
  | zero => exact h
  | succ count ih => exact ih (L.store h dst x) (dst + 1)

theorem fillWords (h : L.inside v start b c) (dst w : UInt16) (count : Nat) :
    L.inside v start (Backend.fillWords b dst w count) (Backend.fillWords c dst w count) := by
  induction count generalizing b c dst with
  | zero => exact h
  | succ count ih => exact ih (L.storeWord h dst w) (dst + 2)

/-- Bytes that read the same are copied from the caller's memory. -/
theorem copyIn (h : L.inside v start b c) (dst : UInt16) (src : UInt32) {count : Nat}
    (hsrc : ∀ j < count, L.visible (.ofLinear (src + UInt32.ofNat j))) :
    L.inside v start (Backend.copyIn b dst src count) (Backend.copyIn c dst src count) := by
  induction count generalizing b c dst src with
  | zero => exact h
  | succ count ih =>
    have hfirst := hsrc 0 (Nat.zero_lt_succ count)
    obtain ⟨hbyte, hfetch⟩ := L.fetchInside h src (by simpa using hfirst)
    simp only [Backend.copyIn]
    rw [hbyte]
    refine ih (L.store hfetch dst _) (dst + 1) (src + 1) fun j hj => ?_
    have hnext := hsrc (j + 1) (Nat.succ_lt_succ hj)
    rwa [Nat.add_comm, UInt32.ofNat_add, ← UInt32.add_assoc] at hnext

/-- A search for a zero finds the same if the addresses at which it looks read the same. -/
theorem findZero (h : L.outside b c) (a : UInt32) (i : Nat) {count : Nat}
    (hscan : ∀ x ∈ Backend.scanned b a count, L.visible x) :
    (Backend.findZero c a i count).1 = (Backend.findZero b a i count).1 ∧
      L.outside (Backend.findZero b a i count).2 (Backend.findZero c a i count).2 := by
  induction count generalizing b c a i with
  | zero => exact ⟨rfl, h⟩
  | succ count ih =>
    obtain ⟨hbyte, hfetch⟩ := L.fetch h a (hscan _ List.mem_cons_self)
    by_cases hv : (Backend.fetch b a).1 = 0
    · simp only [Backend.findZero, hbyte, if_pos hv]
      exact ⟨trivial, hfetch⟩
    · simp only [Backend.findZero, hbyte, if_neg hv]
      refine ih hfetch (a + 1) (i + 1) fun x hx => hscan x ?_
      simp only [Backend.scanned, if_neg hv]
      exact List.mem_cons_of_mem _ hx

/-! ## Work inside a view -/

theorem clear (h : L.inside v start b c) (r : Region) (first count : Nat) (x : UInt8) :
    L.inside v start (r.clear b first count x) (r.clear c first count x) :=
  List.foldl_rel (r := L.inside v start) h fun row _ _ _ h => L.fill h (r.rowStart row) x r.columns

theorem copyRows (h : L.inside v start b c) (r : Region) (dst src : Nat → Nat) (rows : List Nat) :
    L.inside v start (rows.foldl (fun b row => r.copyRow b (dst row) (src row)) b)
      (rows.foldl (fun b row => r.copyRow b (dst row) (src row)) c) :=
  List.foldl_rel (r := L.inside v start) h fun _ _ _ _ h => L.copy h _ _ r.columns

theorem scroll (h : L.inside v start b c) (r : Region) (direction : Direction) (count : Nat)
    (x : UInt8) :
    L.inside v start (r.scroll b direction count x) (r.scroll c direction count x) := by
  unfold Region.scroll
  split
  · exact L.clear h r 0 r.rows x
  · cases direction with
    | up => exact L.clear (L.copyRows h r id (· + count) _) r _ count x
    | down => exact L.clear (L.copyRows h r (· + count) id _) r 0 count x

theorem scrollCells (h : L.inside (.plane .characters) start b c) (r : Region)
    (direction : Direction) (count : Nat) (attr : UInt8) :
    L.inside (.plane .attributes) start (b.scrollCells r direction count attr)
      (c.scrollCells r direction count attr) :=
  L.scroll (L.selectPlane (L.scroll h r direction count 0) .attributes) r direction count attr

/-- A string that reads the same is put into the same cells; where it writes attributes, the view
ends up on their plane. -/
theorem putString (h : L.inside (.plane .characters) start b c) (options : StringOptions)
    (index : UInt16) (buffer : UInt32) {length : Nat} (attr : UInt8)
    (hread : ∀ j < length, L.visible (.ofLinear (buffer + UInt32.ofNat j))) :
    L.inside (.plane (if options.writeAttribute then .attributes else .characters)) start
      (b.putString options index buffer length attr)
      (c.putString options index buffer length attr) := by
  have hcopy := L.copyIn h index buffer hread
  unfold Board.putString
  split
  · exact L.fill (L.selectPlane hcopy .attributes) index attr (length + 1)
  · exact hcopy

theorem fontStore (h : L.inside v start b c) :
    L.inside v start (Font.store b) (Font.store c) :=
  List.foldl_rel (r := L.inside v start) h fun _ _ _ _ h =>
    List.foldl_rel (r := L.inside v start) h fun _ _ _ _ h => L.store h _ _

/-- Work that keeps up what boards have in common inside a view does so from outside. -/
theorem within (h : L.outside b c) (v : View) (start : UInt16) {f : Board bus → Board bus}
    {w : View} (hf : ∀ {b c}, L.inside v start b c → L.inside w start (f b) (f c)) :
    L.outside (b.within v start f) (c.within v start f) :=
  L.closeView h (hf (L.openView h v start))

end Board.Likeness

/-! ## Machines -/

/-- The hardware of two machines has something in common. -/
def Machine.Like (L : Board.Likeness bus) (m n : Machine (Board bus)) : Prop :=
  L.outside m.hardware n.hardware

/-- The same bank, behind another base if it is that of the timing controller. -/
def Controller.rebase (base : CrtcBase) : Controller → Controller
  | .crtc _ => .crtc base
  | c => c

theorem Adapter.writeIndexed_rebase (a : Adapter) (i v : UInt8) (c : Controller)
    (base : CrtcBase) : a.writeIndexed i v (c.rebase base) = a.writeIndexed i v c := by
  cases c <;> rfl

namespace Machine.Like

variable {L : Board.Likeness bus} {m n : Machine (Board bus)}

/-! ## Register cycles -/

theorem writeReg (h : m.Like L n) (c : Controller) (base : CrtcBase) (i v : UInt8) :
    (m.writeReg c i v).Like L (n.writeReg (c.rebase base) i v) := by
  unfold Machine.Like
  simp only [hardware_writeReg, Adapter.writeIndexed_rebase]
  exact L.writeIndexed h i v c

theorem writeRegSplit (h : m.Like L n) (c : Controller) (base : CrtcBase) (i v : UInt8) :
    (m.writeRegSplit c i v).Like L (n.writeRegSplit (c.rebase base) i v) := by
  unfold Machine.Like
  simp only [hardware_writeRegSplit, Adapter.writeIndexed_rebase]
  exact L.writeIndexed h i v c

theorem writeRegPair (h : m.Like L n) (c : Controller) (base : CrtcBase) (i : UInt8)
    (w : UInt16) : (m.writeRegPair c i w).Like L (n.writeRegPair (c.rebase base) i w) :=
  (h.writeRegSplit c base i _).writeRegSplit c base (i + 1) _

/-- A timing register reads the same. -/
theorem readTiming (h : m.Like L n) (base base' : CrtcBase) (i : UInt8) :
    (n.readReg (.crtc base') i).1 = (m.readReg (.crtc base) i).1 ∧
      (m.readReg (.crtc base) i).2.Like L (n.readReg (.crtc base') i).2 := by
  unfold Machine.Like
  simp only [fst_readReg, hardware_readReg]
  exact ⟨L.crtc h i, L.selectIndexed h i (.crtc base)⟩

theorem setCursorShape (h : m.Like L n) (base base' : CrtcBase) (shape : CursorShape) :
    (m.setCursorShape base shape).Like L (n.setCursorShape base' shape) :=
  (h.writeRegSplit (.crtc base) base' _ _).writeRegSplit (.crtc base) base' _ _

theorem cursorShape (h : m.Like L n) (base base' : CrtcBase) :
    (n.cursorShape base').1 = (m.cursorShape base).1 ∧
      (m.cursorShape base).2.Like L (n.cursorShape base').2 := by
  obtain ⟨hfirst, h₁⟩ := h.readTiming base base' 0x0A
  obtain ⟨hlast, h₂⟩ := h₁.readTiming base base' 0x0B
  refine ⟨?_, h₂⟩
  simp only [Machine.cursorShape, hfirst, hlast]

/-! ## Views -/

/-- Editing inside a view does on both what the work does to their boards. -/
theorem edit (h : m.Like L n) {v w : View} {start : UInt16}
    {body : Machine (Board bus) → Machine (Board bus)} (work : Board bus → Board bus)
    (hbody : ∀ m, (body m).hardware = work m.hardware)
    (hwork : ∀ {b c}, L.inside v start b c → L.inside w start (work b) (work c)) :
    (m.edit v start body).Like L (n.edit v start body) := by
  unfold Machine.Like
  rw [m.hardware_edit v start work hbody, n.hardware_edit v start work hbody]
  exact L.within h v start hwork

/-- A look inside a view that finds the same. -/
theorem inspect {α : Type} (h : m.Like L n) {v : View} {start : UInt16}
    {look : Board bus → α × Board bus}
    (hlook : ∀ {b c}, L.inside v start b c →
      (look c).1 = (look b).1 ∧ L.inside v start (look b).2 (look c).2) :
    (n.inspect v start (·.query look)).1 = (m.inspect v start (·.query look)).1 ∧
      (m.inspect v start (·.query look)).2.Like L (n.inspect v start (·.query look)).2 := by
  unfold Machine.Like
  simp only [fst_inspect_query, hardware_inspect_query]
  exact ⟨(hlook (L.openView h v start)).1, L.within h v start fun hopen => (hlook hopen).2⟩

/-! ## Setting a mode -/

theorem loadFont (h : m.Like L n) : m.loadFont.Like L n.loadFont :=
  h.edit Font.store (fun _ => rfl) L.fontStore

theorem clearPlanes (h : m.Like L n) : m.clearPlanes.Like L n.clearPlanes := by
  have hfill (count : Nat) : (m.edit (.planes .all 0) 0 (·.update (Backend.fill · 0 0 count))).Like
      L (n.edit (.planes .all 0) 0 (·.update (Backend.fill · 0 0 count))) :=
    h.edit (Backend.fill · 0 0 count) (fun _ => rfl) fun hopen => L.fill hopen 0 0 count
  exact hfill 0x10000

theorem programMode (h : m.Like L n) (base base' : CrtcBase) (spec : ModeSpec) :
    (m.programMode base spec).Like L (n.programMode base' spec) := by
  have hmask := h.writeReg .sequencer base' 2 spec.mapMask.toByte
  have hrest {m n} (h : Machine.Like L m n) := ((((((h.writeReg .sequencer base' 4
    spec.memoryMode.bits).writeReg .graphics base' 5 spec.graphicsMode.bits).writeReg .graphics
    base' 6 spec.graphicsMisc.bits).writeReg (.crtc base) base' 0x01 spec.columns).writeReg
    (.crtc base) base' 0x12 spec.rows).writeReg (.crtc base) base' 0x0C 0).writeReg (.crtc base)
    base' 0x0D 0
  unfold Machine.programMode
  cases spec.characterMap with
  | none => exact hrest hmask
  | some map => exact hrest (hmask.writeReg .sequencer base' 3 map)

/-- Settings that agree but for the base have the same effect. -/
theorem activate (h : m.Like L n) {settings settings' : Settings}
    (hsettings : settings' = { settings with crtc := settings'.crtc }) (spec : ModeSpec) :
    (m.activate settings spec).Like L (n.activate settings' spec) := by
  have hmode := h.programMode settings.crtc settings'.crtc spec
  have hclear : settings'.clearPlanes = settings.clearPlanes := by rw [hsettings]
  have hreload : settings'.reloadFont = settings.reloadFont := by rw [hsettings]
  unfold Machine.activate
  rw [hclear, hreload]
  split <;> split
  · exact hmode.clearPlanes.loadFont
  · exact hmode.clearPlanes
  · exact hmode.loadFont
  · exact hmode

/-! ## Power-on -/

theorem writePort (h : m.Like L n) (port : UInt16) (v : UInt8)
    (hport : port ∈ [0x3C0, 0x3C8, 0x3C9]) :
    (m.writePort port v).Like L (n.writePort port v) := by
  simp only [List.mem_cons, List.not_mem_nil, or_false] at hport
  rcases hport with rfl | rfl | rfl
  · exact L.recolour h (·.push v) id
  · exact L.recolour h id (·.seekWrite v)
  · exact L.recolour h id (·.push v)

/-- Whichever base it is read at, the status port makes the attribute controller expect an
index. -/
theorem readStatus (h : m.Like L n) (base base' : CrtcBase) :
    (m.readPort base.statusPort).2.Like L (n.readPort base'.statusPort).2 := by
  have hstatus := L.recolour h (·.reset) id
  cases base <;> cases base' <;> exact hstatus

theorem writeAttribute (h : m.Like L n) (i v : UInt8) :
    (m.writeAttribute i v).Like L (n.writeAttribute i v) :=
  (h.writePort 0x3C0 i (by decide)).writePort 0x3C0 v (by decide)

theorem resetAttributes (h : m.Like L n) (base base' : CrtcBase) :
    (m.resetAttributes base).Like L (n.resetAttributes base') := by
  have hpalette := List.foldl_rel (l := List.range 16) (r := Machine.Like L)
    (h.readStatus base base') fun i _ _ _ h => h.writeAttribute (UInt8.ofNat i) (UInt8.ofNat i)
  exact (hpalette.writeAttribute 0x10 0x08).writePort 0x3C0 0x20 (by decide)

theorem pushColour (h : m.Like L n) (c : Colour) : (m.pushColour c).Like L (n.pushColour c) :=
  ((h.writePort 0x3C9 c.red (by decide)).writePort 0x3C9 c.green (by decide)).writePort 0x3C9
    c.blue (by decide)

theorem writeColours (h : m.Like L n) (first : UInt8) (colours : List Colour) :
    (m.writeColours first colours).Like L (n.writeColours first colours) :=
  List.foldl_rel (r := Machine.Like L) (h.writePort 0x3C8 first (by decide)) fun c _ _ _ h =>
    h.pushColour c

/-- From the point on at which the write path has been reset. -/
theorem bringUp {settings settings' : Settings}
    (hsettings : settings' = { settings with crtc := settings'.crtc })
    (h : (m.resetPath settings.crtc).Like L (n.resetPath settings'.crtc)) :
    (m.bringUp settings).Like L (n.bringUp settings') := by
  have hshape : settings'.cursorShape = settings.cursorShape := by rw [hsettings]
  have hcursor := (h.loadFont.writeReg (.crtc settings.crtc) settings'.crtc 0x09
    0x07).setCursorShape settings.crtc settings'.crtc settings.cursorShape
  rw [bringUp_eq, bringUp_eq, resetShape, resetShape, hshape]
  exact (hcursor.resetAttributes settings.crtc settings'.crtc).writeColours 0 Palette.initial

end Machine.Like

end VgaFirmware
