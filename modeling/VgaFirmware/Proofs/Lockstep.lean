import VgaFirmware.Proofs.Recording

/-!
# Machines in lockstep

A machine on a recorder follows one on a board when their hardware does and their records are
equal (`Machine.Follows`). Every register that the service ever reads has the same value on both,
so they go on following each other through register cycles (`Follows.readReg`), through views
(`Follows.edit`), and through all that setting a mode and power-on do.
-/

namespace VgaFirmware

namespace Recorder

variable (n : Machine Recorder) {c : Controller} {i : UInt8}

theorem hardware_writeReg (h : c.has i = true) (v : UInt8) :
    (n.writeReg c i v).hardware = n.hardware.writeIndexed i v c := by
  change (n.hardware.writePort c.indexPort (Word.low (Word.ofBytes i v))).writePort c.valuePort
    (Word.high (Word.ofBytes i v)) = _
  rw [Word.low_ofBytes, Word.high_ofBytes, writePort_indexPort, writePort_valuePort _ h]

theorem hardware_writeRegSplit (h : c.has i = true) (v : UInt8) :
    (n.writeRegSplit c i v).hardware = n.hardware.writeIndexed i v c := by
  change (n.hardware.writePort c.indexPort i).writePort c.valuePort v = _
  rw [writePort_indexPort, writePort_valuePort _ h]

theorem fst_readReg (h : c.has i = true) :
    (n.readReg c i).1 = n.hardware.readIndexed i c := by
  change (n.hardware.writePort c.indexPort i).readPort c.valuePort = _
  rw [writePort_indexPort, readPort_valuePort _ h]

theorem hardware_readReg (c : Controller) (i : UInt8) :
    (n.readReg c i).2.hardware = n.hardware.selectIndexed i c :=
  n.hardware.writePort_indexPort c i

end Recorder

theorem Machine.cycles_readReg {B : Type} [Backend B] (m : Machine B) (c : Controller)
    (i : UInt8) :
    (m.readReg c i).2.cycles =
      (m.cycles.push (.writeByte c.indexPort i)).push (.readByte c.valuePort (m.readReg c i).1) :=
  rfl

/-- A machine on a recorder follows one on a board, and their records are equal. -/
structure Machine.Follows (m : Machine (Board .word)) (n : Machine Recorder) : Prop where
  hardware : Recorder.Follows m.hardware n.hardware
  cycles : n.cycles = m.cycles
  events : n.events = m.events

/-- Moreover, the window lies over the adapter. -/
structure Machine.Shadows (m : Machine (Board .word)) (n : Machine Recorder) : Prop
    extends Machine.Follows m n where
  shielded : m.hardware.Shielded

namespace Machine.Follows

variable {m : Machine (Board .word)} {n : Machine Recorder}

/-! ## Cycles -/

theorem emit (h : m.Follows n) (e : Event) : (m.emit e).Follows (n.emit e) :=
  ⟨h.hardware, h.cycles, congrArg (·.push e) h.events⟩

theorem setWindow (h : m.Follows n) (segment : UInt16) :
    (m.setWindow segment).Follows (n.setWindow segment) where
  hardware := { h.hardware with window := rfl }
  cycles := congrArg (·.push (.moveWindow segment)) h.cycles
  events := h.events

/-- Ports behind which a recorder has nothing. -/
theorem writePort (h : m.Follows n) (port : UInt16) (v : UInt8)
    (hport : port ∈ [0x3C0, 0x3C2, 0x3C8, 0x3C9]) :
    (m.writePort port v).Follows (n.writePort port v) := by
  have hcycles : (n.writePort port v).cycles = (m.writePort port v).cycles :=
    congrArg (·.push (.writeByte port v)) h.cycles
  simp only [List.mem_cons, List.not_mem_nil, or_false] at hport
  have hb := h.hardware
  rcases hport with rfl | rfl | rfl | rfl
  all_goals
    exact ⟨⟨hb.window, hb.sequencer, hb.graphics, hb.crtc, hb.ram, hb.unprotected⟩, hcycles,
      h.events⟩

theorem readStatus (h : m.Follows n) (base : CrtcBase) :
    (m.readPort base.statusPort).2.Follows (n.readPort base.statusPort).2 := by
  have hb := h.hardware
  have hcycles (port : UInt16) : n.cycles.push (.readByte port 0) =
      m.cycles.push (.readByte port 0) := congrArg (·.push (.readByte port 0)) h.cycles
  cases base
  all_goals
    exact ⟨⟨hb.window, hb.sequencer, hb.graphics, hb.crtc, hb.ram, hb.unprotected⟩, hcycles _,
      h.events⟩

/-- Work on the hardware that leaves no record. -/
theorem work (h : m.Follows n) {b : Board .word} {r : Recorder} (hwork : Recorder.Follows b r) :
    Machine.Follows ⟨b, m.cycles, m.events⟩ ⟨r, n.cycles, n.events⟩ :=
  ⟨hwork, h.cycles, h.events⟩

variable {c : Controller} {i : UInt8}

theorem writeReg (h : m.Follows n) (hi : c.has i = true) (v : UInt8) :
    (m.writeReg c i v).Follows (n.writeReg c i v) where
  hardware := by
    rw [hardware_writeReg, Recorder.hardware_writeReg n hi]
    exact h.hardware.writeIndexed hi v
  cycles := congrArg (·.push (.writeWord c.indexPort (Word.ofBytes i v))) h.cycles
  events := h.events

theorem writeRegSplit (h : m.Follows n) (hi : c.has i = true) (v : UInt8) :
    (m.writeRegSplit c i v).Follows (n.writeRegSplit c i v) where
  hardware := by
    rw [hardware_writeRegSplit, Recorder.hardware_writeRegSplit n hi]
    exact h.hardware.writeIndexed hi v
  cycles := congrArg (fun cycles =>
    (cycles.push (.writeByte c.indexPort i)).push (.writeByte c.valuePort v)) h.cycles
  events := h.events

/-- A register reads the same on both, so reading it leaves the same record. -/
theorem readReg (h : m.Follows n) (hi : c.has i = true) :
    (n.readReg c i).1 = (m.readReg c i).1 ∧ (m.readReg c i).2.Follows (n.readReg c i).2 := by
  have hvalue : (n.readReg c i).1 = (m.readReg c i).1 := by
    rw [fst_readReg, Recorder.fst_readReg n hi]
    exact h.hardware.readIndexed hi
  refine ⟨hvalue, ?_, ?_, h.events⟩
  · rw [hardware_readReg, Recorder.hardware_readReg]
    exact h.hardware.selectIndexed c i
  · rw [cycles_readReg, cycles_readReg, hvalue, h.cycles]

theorem writeRegPair (h : m.Follows n) (hi : c.has i = true) (hsucc : c.has (i + 1) = true)
    (w : UInt16) : (m.writeRegPair c i w).Follows (n.writeRegPair c i w) :=
  (h.writeRegSplit hi _).writeRegSplit hsucc _

theorem foldl {α : Type} (h : m.Follows n)
    {f : Machine (Board .word) → α → Machine (Board .word)}
    {g : Machine Recorder → α → Machine Recorder}
    (hf : ∀ {m n} x, Machine.Follows m n → (f m x).Follows (g n x)) (xs : List α) :
    (xs.foldl f m).Follows (xs.foldl g n) := by
  induction xs generalizing m n with
  | nil => exact h
  | cons x xs ih => exact ih (hf x h)

/-! ## Views -/

theorem capture (h : m.Follows n) :
    n.capture.1 = m.capture.1 ∧ m.capture.2.Follows n.capture.2 := by
  obtain ⟨hmask, h₁⟩ := h.readReg (c := .sequencer) (i := 2) rfl
  obtain ⟨hmode, h₂⟩ := h₁.readReg (c := .sequencer) (i := 4) rfl
  obtain ⟨hmap, h₃⟩ := h₂.readReg (c := .graphics) (i := 4) rfl
  obtain ⟨hgraphics, h₄⟩ := h₃.readReg (c := .graphics) (i := 5) rfl
  obtain ⟨hmisc, h₅⟩ := h₄.readReg (c := .graphics) (i := 6) rfl
  refine ⟨?_, h₅⟩
  simp only [Machine.capture, hmask, hmode, hmap, hgraphics, hmisc]

theorem program (h : m.Follows n) (r : ViewRegisters) : (m.program r).Follows (n.program r) :=
  ((((h.writeReg rfl _).writeReg rfl _).writeReg rfl _).writeReg rfl _).writeReg rfl _

theorem restore (h : m.Follows n) (r : ViewRegisters) : (m.restore r).Follows (n.restore r) :=
  ((((h.writeRegSplit rfl _).writeRegSplit rfl _).writeRegSplit rfl _).writeRegSplit rfl
    _).writeRegSplit rfl _

theorem openView (h : m.Follows n) (v : View) (start : UInt16) :
    (n.openView v start).1 = (m.openView v start).1 ∧
      (m.openView v start).2.Follows (n.openView v start).2 := by
  obtain ⟨hregisters, h₁⟩ := h.capture
  have hwindow : n.capture.2.window = m.capture.2.window := h₁.hardware.window
  refine ⟨?_, ?_⟩
  · change Saved.mk n.capture.1 n.capture.2.window = Saved.mk m.capture.1 m.capture.2.window
    rw [hregisters, hwindow]
  · have h₂ := ((h₁.program (v.registers ⟨m.capture.1.graphicsMisc⟩)).setWindow
      (v.segment start)).emit (.viewOpened v (v.segment start))
    change Machine.Follows _ (((n.capture.2.program (v.registers
      ⟨n.capture.1.graphicsMisc⟩)).setWindow (v.segment start)).emit _)
    rw [hregisters]
    exact h₂

theorem closeView (h : m.Follows n) (s : Saved) : (m.closeView s).Follows (n.closeView s) :=
  ((h.setWindow s.window).restore s.registers).emit .viewClosed

/-- Work inside a view keeps machines in lockstep if it does so from the opening of the view. -/
theorem edit (h : m.Follows n) {v : View} {start : UInt16}
    {f : Machine (Board .word) → Machine (Board .word)} {g : Machine Recorder → Machine Recorder}
    (hwork : ∀ {m n}, Machine.Follows m n → m.hardware.window = v.segment start →
      (f m).Follows (g n)) :
    (m.edit v start f).Follows (n.edit v start g) := by
  obtain ⟨hsaved, hopen⟩ := h.openView v start
  have hclose := (hwork hopen rfl).closeView (m.openView v start).1
  change Machine.Follows _ ((g (n.openView v start).2).closeView (n.openView v start).1)
  rw [hsaved]
  exact hclose

/-- In the cells view what is written beyond display memory is the same. -/
theorem edit_fillWords (h : m.Follows n) (start dst w : UInt16) (count : Nat) :
    (m.edit .cells start (·.update (Backend.fillWords · dst w count))).Follows
      (n.edit .cells start (·.update (Backend.fillWords · dst w count))) :=
  h.edit fun hwork _ => hwork.work (hwork.hardware.fillWords dst w count)

theorem edit_storeWord (h : m.Follows n) (start off w : UInt16) :
    (m.edit .cells start (·.update (Backend.storeWord · off w))).Follows
      (n.edit .cells start (·.update (Backend.storeWord · off w))) :=
  h.edit fun hwork _ => hwork.work (hwork.hardware.storeWord off w)

/-- What a look inside a view finds may differ, but all else does not. -/
theorem inspect {α : Type} (h : m.Follows n) {v : View} {start : UInt16}
    {f : Machine (Board .word) → α × Machine (Board .word)}
    {g : Machine Recorder → α × Machine Recorder}
    (hwork : ∀ {m n}, Machine.Follows m n → (f m).2.Follows (g n).2) :
    (m.inspect v start f).2.Follows (n.inspect v start g).2 := by
  obtain ⟨hsaved, hopen⟩ := h.openView v start
  have hclose := (hwork hopen).closeView (m.openView v start).1
  simp only [Machine.inspect, hsaved]
  exact hclose

theorem inspect_loadWord (h : m.Follows n) (start off : UInt16) :
    (m.inspect .cells start (·.query (Backend.loadWord · off))).2.Follows
      (n.inspect .cells start (·.query (Backend.loadWord · off))).2 :=
  h.inspect fun hwork => hwork.work (hwork.hardware.loadWord off)

/-- In a view of planes the window lies over the adapter. -/
theorem edit_planes (h : m.Follows n) (write : MapMask) (read : UInt8) (start : UInt16)
    {f : Machine (Board .word) → Machine (Board .word)} {g : Machine Recorder → Machine Recorder}
    (hwork : ∀ {m n}, Machine.Shadows m n → (f m).Shadows (g n)) :
    (m.edit (.planes write read) start f).Follows (n.edit (.planes write read) start g) := by
  refine h.edit fun hopen hwindow => (hwork ⟨hopen, fun off => ?_⟩).toFollows
  rw [hwindow]
  exact Board.isDisplay_planes write read start off

end Machine.Follows

namespace Machine.Shadows

variable {m : Machine (Board .word)} {n : Machine Recorder}

/-- What goes through the window is of no consequence. -/
theorem update (h : m.Shadows n) {f : Board .word → Board .word} {g : Recorder → Recorder}
    (hf : ∀ b, Backend.Accesses b (f b)) (hg : ∀ r, Backend.Accesses r (g r)) :
    (m.update f).Shadows (n.update g) where
  hardware := h.hardware.of_accesses h.shielded (hf _) (hg _)
  cycles := h.cycles
  events := h.events
  shielded := (h.shielded.accesses (hf _)).1

theorem selectPlane (h : m.Shadows n) (p : Plane) :
    (m.selectPlane p).Shadows (n.selectPlane p) where
  toFollows := (h.toFollows.writeReg rfl _).writeReg rfl _
  shielded := by
    rw [hardware_selectPlane]
    exact h.shielded.selectPlane p

/-- Writes a string in one plane, and then a colour in another if asked to. -/
theorem putString (h : m.Shadows n) (options : StringOptions) (index : UInt16) (buffer : UInt32)
    (length : Nat) (attr : UInt8) :
    Machine.Shadows
      (if options.writeAttribute then
        ((m.update (Backend.copyIn · index buffer length)).selectPlane .attributes).update
          (Backend.fill · index attr (length + 1))
      else m.update (Backend.copyIn · index buffer length))
      (if options.writeAttribute then
        ((n.update (Backend.copyIn · index buffer length)).selectPlane .attributes).update
          (Backend.fill · index attr (length + 1))
      else n.update (Backend.copyIn · index buffer length)) := by
  have hcopy := h.update (f := (Backend.copyIn · index buffer length))
    (g := (Backend.copyIn · index buffer length)) (fun _ => .copyIn .refl _ _ _)
    fun _ => .copyIn .refl _ _ _
  split
  · exact (hcopy.selectPlane .attributes).update (fun _ => .fill .refl _ _ _)
      fun _ => .fill .refl _ _ _
  · exact hcopy

end Machine.Shadows

namespace Machine.Follows

variable {m : Machine (Board .word)} {n : Machine Recorder}

/-! ## Setting a mode -/

theorem setCursorShape (h : m.Follows n) (base : CrtcBase) (shape : CursorShape) :
    (m.setCursorShape base shape).Follows (n.setCursorShape base shape) :=
  (h.writeRegSplit rfl _).writeRegSplit rfl _

theorem cursorShape (h : m.Follows n) (base : CrtcBase) :
    (n.cursorShape base).1 = (m.cursorShape base).1 ∧
      (m.cursorShape base).2.Follows (n.cursorShape base).2 := by
  obtain ⟨hfirst, h₁⟩ := h.readReg (c := .crtc base) (i := 0x0A) rfl
  obtain ⟨hlast, h₂⟩ := h₁.readReg (c := .crtc base) (i := 0x0B) rfl
  refine ⟨?_, h₂⟩
  simp only [Machine.cursorShape, hfirst, hlast]

theorem setStartAddress (h : m.Follows n) (base : CrtcBase) (start : UInt16) :
    (m.setStartAddress base start).Follows (n.setStartAddress base start) :=
  h.writeRegPair rfl rfl start

theorem setCursorLocation (h : m.Follows n) (base : CrtcBase) (index : UInt16) :
    (m.setCursorLocation base index).Follows (n.setCursorLocation base index) :=
  h.writeRegPair rfl rfl index

theorem loadFont (h : m.Follows n) : m.loadFont.Follows n.loadFont :=
  h.edit_planes _ _ _ fun hwork => hwork.update Font.accesses_store Font.accesses_store

theorem clearPlanes (h : m.Follows n) : m.clearPlanes.Follows n.clearPlanes :=
  h.edit_planes _ _ _ fun hwork =>
    hwork.update (fun _ => .fill .refl _ _ _) fun _ => .fill .refl _ _ _

theorem programMode (h : m.Follows n) (base : CrtcBase) (spec : ModeSpec) :
    (m.programMode base spec).Follows (n.programMode base spec) := by
  have hmask := h.writeReg (c := .sequencer) (i := 2) rfl spec.mapMask.toByte
  have hrest {m n} (h : Machine.Follows m n) := ((((((h.writeReg (c := .sequencer) (i := 4) rfl
    spec.memoryMode.bits).writeReg (c := .graphics) (i := 5) rfl
    spec.graphicsMode.bits).writeReg (c := .graphics) (i := 6) rfl
    spec.graphicsMisc.bits).writeReg (c := .crtc base) (i := 0x01) rfl
    spec.columns).writeReg (c := .crtc base) (i := 0x12) rfl
    spec.rows).writeReg (c := .crtc base) (i := 0x0C) rfl 0).writeReg (c := .crtc base)
    (i := 0x0D) rfl 0
  unfold Machine.programMode
  cases spec.characterMap with
  | none => exact hrest hmask
  | some map => exact hrest (hmask.writeReg rfl map)

theorem activate (h : m.Follows n) (settings : Settings) (spec : ModeSpec) :
    (m.activate settings spec).Follows (n.activate settings spec) := by
  have hmode := h.programMode settings.crtc spec
  unfold Machine.activate
  split <;> split
  · exact hmode.clearPlanes.loadFont
  · exact hmode.clearPlanes
  · exact hmode.loadFont
  · exact hmode

/-! ## Power-on -/

theorem writeAttribute (h : m.Follows n) (i v : UInt8) :
    (m.writeAttribute i v).Follows (n.writeAttribute i v) :=
  (h.writePort 0x3C0 i (by decide)).writePort 0x3C0 v (by decide)

theorem resetAttributes (h : m.Follows n) (base : CrtcBase) :
    (m.resetAttributes base).Follows (n.resetAttributes base) := by
  have hpalette := (h.readStatus base).foldl
    (fun i h => h.writeAttribute (UInt8.ofNat i) (UInt8.ofNat i)) (List.range 16)
  exact (hpalette.writeAttribute 0x10 0x08).writePort 0x3C0 0x20 (by decide)

theorem pushColour (h : m.Follows n) (c : Colour) : (m.pushColour c).Follows (n.pushColour c) :=
  ((h.writePort 0x3C9 c.red (by decide)).writePort 0x3C9 c.green (by decide)).writePort 0x3C9 c.blue
    (by decide)

theorem writeColours (h : m.Follows n) (first : UInt8) (colours : List Colour) :
    (m.writeColours first colours).Follows (n.writeColours first colours) :=
  (h.writePort 0x3C8 first (by decide)).foldl (fun c h => h.pushColour c) colours

/-- From the point on at which the bit mask is written. -/
theorem bringUp {settings : Settings}
    (h : ((m.writePort 0x3C2 settings.crtc.miscOutput).writeReg .graphics 8 0xFF).Follows
      ((n.writePort 0x3C2 settings.crtc.miscOutput).writeReg .graphics 8 0xFF)) :
    (m.bringUp settings).Follows (n.bringUp settings) := by
  have hpath := ((h.writeReg (c := .graphics) (i := 0) rfl 0).writeReg (c := .graphics) (i := 1)
    rfl 0).writeReg (c := .graphics) (i := 3) rfl 0
  have hcursor := (hpath.loadFont.writeReg (c := .crtc settings.crtc) (i := 0x09) rfl
    0x07).setCursorShape settings.crtc settings.cursorShape
  exact (hcursor.resetAttributes settings.crtc).writeColours 0 Palette.initial

end Machine.Follows

/-- A recorder that was just switched on, with its window and memory. -/
def Recorder.fresh (window : UInt16) (ram : Ram) : Recorder :=
  { Recorder.powerOn with window := window, ram := ram }

/-- Fresh hardware differs in the bit mask alone, so it is in lockstep once that is written. -/
theorem Machine.follows_fresh (window : UInt16) {ram ram' : Ram}
    (hram : ∀ a : Address, a.isDisplay = false → ram'.get a = ram.get a) (misc : UInt8) :
    Machine.Follows
      (((ofHardware (⟨window, ram, .powerOn⟩ : Board .word)).writePort 0x3C2 misc).writeReg
        .graphics 8 0xFF)
      (((ofHardware (Recorder.fresh window ram')).writePort 0x3C2 misc).writeReg
        .graphics 8 0xFF) := by
  refine ⟨?_, rfl, rfl⟩
  rw [hardware_writeReg, Recorder.hardware_writeReg _ rfl]
  refine ⟨rfl, fun i _ => ?_, fun i hi => ?_, fun i _ => ?_, hram, ?_⟩
  · exact (RegisterBank.read_blank i).trans (RegisterBank.read_blank i).symm
  · change ((RegisterBank.blank 16).write 8 0xFF).read i =
      (((RegisterBank.blank 9).write 8 0xFF).write 8 0xFF).read i
    simp [RegisterBank.read_write]
  · exact (RegisterBank.read_blank i).trans (RegisterBank.read_blank i).symm
  · change (RegisterBank.blank 25).read 0x11 &&& 0x80 = 0
    rw [RegisterBank.read_blank]
    rfl

end VgaFirmware
