import VgaFirmware.Machine.Board
import VgaFirmware.Machine.Timing
import VgaFirmware.Proofs.Transfer

/-!
# Registers of a board

A register write is an index write and a value write, in one bus cycle or in two; on a board
the outcome is the same (`hardware_writeReg`, `hardware_writeRegSplit`). Memory accesses leave
every register as it is (`SameRegisters`).
-/

namespace VgaFirmware

namespace RegisterBank

variable {n : Nat}

@[simp] theorem read_write_self (b : RegisterBank n) (i v : UInt8) :
    (b.write i v).read i = if i.toNat < n then v else b.read i := by
  simp [read_write]

theorem read_write_of_ne (b : RegisterBank n) {i j : UInt8} (v : UInt8) (h : j ≠ i) :
    (b.write i v).read j = b.read j := by
  simp [read_write, h]

theorem write_select (b : RegisterBank n) (i j v : UInt8) :
    (b.select i).write j v = (b.write j v).select i := rfl

theorem select_select (b : RegisterBank n) (i j : UInt8) : (b.select i).select j = b.select j :=
  rfl

end RegisterBank

namespace Adapter

/-! ## Indexed registers -/

/-- Selects a register of a bank. -/
def selectIndexed (a : Adapter) (i : UInt8) : Controller → Adapter
  | .sequencer => { a with sequencer := a.sequencer.select i }
  | .graphics => { a with graphics := a.graphics.select i }
  | .crtc _ => { a with crtc := a.crtc.select i }

/-- The register of a bank. -/
def readIndexed (a : Adapter) (i : UInt8) : Controller → UInt8
  | .sequencer => a.sequencer.read i
  | .graphics => a.graphics.read i
  | .crtc _ => a.crtc.read i

/-- Selects a register of a bank and writes it. -/
def writeIndexed (a : Adapter) (i v : UInt8) : Controller → Adapter
  | .sequencer => { a with sequencer := (a.sequencer.write i v).select i }
  | .graphics => { a with graphics := (a.graphics.write i v).select i }
  | .crtc _ => { a with crtc := a.crtc.select i }.writeCrtc v

theorem writePort_indexPort (a : Adapter) (c : Controller) (i : UInt8) :
    a.writePort c.indexPort i = a.selectIndexed i c := by
  match c with
  | .sequencer | .graphics | .crtc .mono | .crtc .colour => rfl

theorem writePort_valuePort (a : Adapter) (c : Controller) (i v : UInt8) :
    (a.selectIndexed i c).writePort c.valuePort v = a.writeIndexed i v c := by
  match c with
  | .sequencer | .graphics | .crtc .mono | .crtc .colour => rfl

theorem readPort_valuePort (a : Adapter) (c : Controller) (i : UInt8) :
    (a.selectIndexed i c).readPort c.valuePort = (a.readIndexed i c, a.selectIndexed i c) := by
  match c with
  | .sequencer | .graphics | .crtc .mono | .crtc .colour => rfl

/-- The first eight timing registers can be written. -/
def Unprotected (a : Adapter) : Prop := a.crtc.read 0x11 &&& 0x80 = 0

theorem writeCrtc_eq (a : Adapter) (v : UInt8) :
    a.writeCrtc v = { a with crtc := (a.writeCrtc v).crtc } := by
  unfold writeCrtc
  split <;> rfl

/-- Protected or not, a write leaves the other timing registers alone. -/
theorem read_writeCrtc_of_ne (a : Adapter) (v : UInt8) {j : UInt8} (hj : j ≠ a.crtc.index) :
    (a.writeCrtc v).crtc.read j = a.crtc.read j := by
  unfold writeCrtc
  split
  · rfl
  · exact RegisterBank.read_write_of_ne a.crtc v hj

theorem Unprotected.crtc_writeCrtc {a : Adapter} (h : a.Unprotected) (v : UInt8) :
    (a.writeCrtc v).crtc = a.crtc.write a.crtc.index v := by
  unfold writeCrtc
  split
  · rename_i hp
    exact absurd h hp.2
  · rfl

@[simp] theorem planes_writeIndexed (a : Adapter) (i v : UInt8) (c : Controller) :
    (a.writeIndexed i v c).planes = a.planes := by
  cases c with
  | sequencer | graphics => rfl
  | crtc base =>
    rw [writeIndexed, writeCrtc_eq]

end Adapter

namespace Board

variable {bus : BusWidth}

@[simp] theorem adapter_updateAdapter (b : Board bus) (f : Adapter → Adapter) :
    (b.updateAdapter f).adapter = f b.adapter := rfl

@[simp] theorem ram_updateAdapter (b : Board bus) (f : Adapter → Adapter) :
    (b.updateAdapter f).ram = b.ram := rfl

@[simp] theorem window_updateAdapter (b : Board bus) (f : Adapter → Adapter) :
    (b.updateAdapter f).window = b.window := rfl

@[simp] theorem fst_queryAdapter {α : Type} (b : Board bus) (f : Adapter → α × Adapter) :
    (b.queryAdapter f).1 = (f b.adapter).1 := rfl

@[simp] theorem adapter_queryAdapter {α : Type} (b : Board bus) (f : Adapter → α × Adapter) :
    (b.queryAdapter f).2.adapter = (f b.adapter).2 := rfl

@[simp] theorem ram_queryAdapter {α : Type} (b : Board bus) (f : Adapter → α × Adapter) :
    (b.queryAdapter f).2.ram = b.ram := rfl

theorem updateAdapter_updateAdapter (b : Board bus) (f g : Adapter → Adapter) :
    (b.updateAdapter f).updateAdapter g = b.updateAdapter (g ∘ f) := rfl

end Board

/-! ## Boards that agree on their registers -/

/-- Same window and same registers, but for those of the timing controller that are listed. -/
structure Board.SameRegisters {bus : BusWidth} (moved : List UInt8) (b c : Board bus) : Prop where
  window : c.window = b.window
  sequencer : ∀ i, c.adapter.sequencer.read i = b.adapter.sequencer.read i
  graphics : ∀ i, c.adapter.graphics.read i = b.adapter.graphics.read i
  crtc : ∀ i, i ∉ moved → c.adapter.crtc.read i = b.adapter.crtc.read i

namespace Board.SameRegisters

variable {bus : BusWidth} {moved : List UInt8} {b c d : Board bus}

theorem refl (moved : List UInt8) (b : Board bus) : SameRegisters moved b b :=
  ⟨rfl, fun _ => rfl, fun _ => rfl, fun _ _ => rfl⟩

theorem trans (h : SameRegisters moved b c) (g : SameRegisters moved c d) :
    SameRegisters moved b d where
  window := g.window.trans h.window
  sequencer i := (g.sequencer i).trans (h.sequencer i)
  graphics i := (g.graphics i).trans (h.graphics i)
  crtc i hi := (g.crtc i hi).trans (h.crtc i hi)

theorem mono {more : List UInt8} (h : SameRegisters moved b c) (hsub : moved ⊆ more) :
    SameRegisters more b c where
  window := h.window
  sequencer := h.sequencer
  graphics := h.graphics
  crtc i hi := h.crtc i fun hm => hi (hsub hm)

theorem unprotected (h : SameRegisters moved b c) (hi : 0x11 ∉ moved)
    (hb : b.adapter.Unprotected) : c.adapter.Unprotected := by
  rw [Adapter.Unprotected, h.crtc _ hi]
  exact hb

/-- Writing one timing register. -/
theorem writeIndexed (b : Board bus) (base : CrtcBase) (i v : UInt8) :
    SameRegisters [i] b (b.updateAdapter (·.writeIndexed i v (.crtc base))) where
  window := rfl
  sequencer j := by rw [adapter_updateAdapter, Adapter.writeIndexed, Adapter.writeCrtc_eq]
  graphics j := by rw [adapter_updateAdapter, Adapter.writeIndexed, Adapter.writeCrtc_eq]
  crtc j hj := Adapter.read_writeCrtc_of_ne _ v (by simpa using hj)

/-- Selecting a register changes none. -/
theorem selectIndexed (b : Board bus) (i : UInt8) (c : Controller) :
    SameRegisters [] b (b.updateAdapter (·.selectIndexed i c)) := by
  cases c <;> exact ⟨rfl, fun _ => rfl, fun _ => rfl, fun _ _ => rfl⟩

end Board.SameRegisters

/-- Same memory, that of the planes and the caller's. -/
structure Board.SameMemory {bus : BusWidth} (b c : Board bus) : Prop where
  ram : c.ram = b.ram
  planes : c.adapter.planes = b.adapter.planes

namespace Board.SameMemory

variable {bus : BusWidth} {b c d : Board bus}

theorem refl (b : Board bus) : SameMemory b b := ⟨rfl, rfl⟩

theorem symm (h : SameMemory b c) : SameMemory c b := ⟨h.ram.symm, h.planes.symm⟩

theorem trans (h : SameMemory b c) (g : SameMemory c d) : SameMemory b d :=
  ⟨g.ram.trans h.ram, g.planes.trans h.planes⟩

theorem writeIndexed (b : Board bus) (i v : UInt8) (c : Controller) :
    SameMemory b (b.updateAdapter (·.writeIndexed i v c)) :=
  ⟨rfl, b.adapter.planes_writeIndexed i v c⟩

theorem selectIndexed (b : Board bus) (i : UInt8) (c : Controller) :
    SameMemory b (b.updateAdapter (·.selectIndexed i c)) := by
  cases c <;> exact ⟨rfl, rfl⟩

end Board.SameMemory

/-! ## Memory accesses -/

namespace Adapter

/-- A host read fills the latches at most. -/
theorem hostRead_eq (a : Adapter) (address : Nat) :
    (a.hostRead address).2 = { a with latches := (a.hostRead address).2.latches } := by
  unfold hostRead
  split <;> rfl

/-- A host write reaches latches and planes only. -/
theorem hostWrite_eq (a : Adapter) (address : Nat) (v : UInt8) :
    a.hostWrite address v =
      { a with
        latches := (a.hostWrite address v).latches
        planes := (a.hostWrite address v).planes } := by
  unfold hostWrite
  split
  · split <;> rfl
  · rfl
  · rfl

end Adapter

namespace Board

variable {bus : BusWidth} {b c : Board bus}

theorem sameRegisters_read (b : Board bus) (a : Address) : SameRegisters [] b (b.read a).2 := by
  unfold read
  split
  · have h := b.adapter.hostRead_eq a.val
    refine ⟨rfl, fun i => ?_, fun i => ?_, fun i _ => ?_⟩
    all_goals rw [adapter_queryAdapter, h]
  · exact .refl _ _

theorem sameRegisters_write (b : Board bus) (a : Address) (v : UInt8) :
    SameRegisters [] b (b.write a v) := by
  unfold write
  split
  · have h := b.adapter.hostWrite_eq a.val v
    refine ⟨rfl, fun i => ?_, fun i => ?_, fun i _ => ?_⟩
    all_goals rw [adapter_updateAdapter, h]
  · exact ⟨rfl, fun _ => rfl, fun _ => rfl, fun _ _ => rfl⟩

/-- Memory accesses leave every register as it is. -/
theorem sameRegisters_of_accesses (h : Backend.Accesses b c) : SameRegisters [] b c :=
  h.keeps (fun c _ hc => hc.trans (c.sameRegisters_read _))
    (fun c _ v hc => hc.trans (c.sameRegisters_write _ v))
    (fun c _ hc => hc.trans (c.sameRegisters_read _)) (.refl _ _)

end Board

/-! ## Register cycles -/

namespace Machine

variable {bus : BusWidth} (m : Machine (Board bus))

@[simp] theorem hardware_writePort (port : UInt16) (v : UInt8) :
    (m.writePort port v).hardware = m.hardware.updateAdapter (·.writePort port v) := rfl

@[simp] theorem hardware_readPort (port : UInt16) :
    (m.readPort port).2.hardware = m.hardware.updateAdapter fun a => (a.readPort port).2 := rfl

theorem hardware_writePortWord (port w : UInt16) :
    (m.writePortWord port w).hardware = m.hardware.updateAdapter (·.writePortWord port w) := by
  cases bus <;> rfl

theorem hardware_writeReg (c : Controller) (i v : UInt8) :
    (m.writeReg c i v).hardware = m.hardware.updateAdapter (·.writeIndexed i v c) := by
  rw [writeReg, hardware_writePortWord]
  congr 1
  funext a
  rw [Adapter.writePortWord, Word.low_ofBytes, Word.high_ofBytes, Adapter.writePort_indexPort]
  exact a.writePort_valuePort c i v

theorem hardware_writeRegSplit (c : Controller) (i v : UInt8) :
    (m.writeRegSplit c i v).hardware = m.hardware.updateAdapter (·.writeIndexed i v c) := by
  rw [writeRegSplit, hardware_writePort, hardware_writePort, Board.updateAdapter_updateAdapter]
  congr 1
  funext a
  rw [Function.comp_apply, Adapter.writePort_indexPort]
  exact a.writePort_valuePort c i v

theorem fst_readReg (c : Controller) (i : UInt8) :
    (m.readReg c i).1 = m.hardware.adapter.readIndexed i c := by
  have h : (m.readReg c i).1 =
      ((m.hardware.adapter.writePort c.indexPort i).readPort c.valuePort).1 := rfl
  rw [h, Adapter.writePort_indexPort, Adapter.readPort_valuePort]

theorem hardware_readReg (c : Controller) (i : UInt8) :
    (m.readReg c i).2.hardware = m.hardware.updateAdapter (·.selectIndexed i c) := by
  have h : (m.readReg c i).2.hardware = m.hardware.updateAdapter fun a =>
      ((a.writePort c.indexPort i).readPort c.valuePort).2 := rfl
  rw [h]
  congr 1
  funext a
  rw [Adapter.writePort_indexPort, Adapter.readPort_valuePort]

@[simp] theorem hardware_setWindow (segment : UInt16) :
    (m.setWindow segment).hardware = { m.hardware with window := segment } := rfl

/-! ## Cursor and start address -/

variable (base : CrtcBase)

theorem sameRegisters_writeRegSplit (i v : UInt8) :
    m.hardware.SameRegisters [i] (m.writeRegSplit (.crtc base) i v).hardware := by
  rw [hardware_writeRegSplit]
  exact .writeIndexed _ _ _ _

theorem sameRegisters_writeReg (i v : UInt8) :
    m.hardware.SameRegisters [i] (m.writeReg (.crtc base) i v).hardware := by
  rw [hardware_writeReg]
  exact .writeIndexed _ _ _ _

theorem sameMemory_writeRegSplit (c : Controller) (i v : UInt8) :
    m.hardware.SameMemory (m.writeRegSplit c i v).hardware := by
  rw [hardware_writeRegSplit]
  exact .writeIndexed _ _ _ _

theorem sameRegisters_readReg (c : Controller) (i : UInt8) :
    m.hardware.SameRegisters [] (m.readReg c i).2.hardware := by
  rw [hardware_readReg]
  exact .selectIndexed _ _ _

theorem sameMemory_readReg (c : Controller) (i : UInt8) :
    m.hardware.SameMemory (m.readReg c i).2.hardware := by
  rw [hardware_readReg]
  exact .selectIndexed _ _ _

theorem sameRegisters_writeRegPair (i : UInt8) (w : UInt16) :
    m.hardware.SameRegisters [i, i + 1] (m.writeRegPair (.crtc base) i w).hardware := by
  have h₁ := m.sameRegisters_writeRegSplit base i (Word.high w)
  have h₂ := (m.writeRegSplit (.crtc base) i (Word.high w)).sameRegisters_writeRegSplit base
    (i + 1) (Word.low w)
  exact (h₁.mono (by simp)).trans (h₂.mono (by simp))

theorem sameMemory_writeRegPair (i : UInt8) (w : UInt16) :
    m.hardware.SameMemory (m.writeRegPair (.crtc base) i w).hardware :=
  (m.sameMemory_writeRegSplit _ i _).trans (sameMemory_writeRegSplit _ _ (i + 1) _)

theorem crtc_writeRegSplit (h : m.hardware.adapter.Unprotected) (i v : UInt8) :
    (m.writeRegSplit (.crtc base) i v).hardware.adapter.crtc =
      (m.hardware.adapter.crtc.write i v).select i := by
  rw [hardware_writeRegSplit]
  exact Adapter.Unprotected.crtc_writeCrtc
    (a := { m.hardware.adapter with crtc := m.hardware.adapter.crtc.select i }) h v

/-- A pair of timing registers holds the word that was written to it. -/
theorem read_writeRegPair (h : m.hardware.adapter.Unprotected) {i : UInt8} (w : UInt16)
    (hi : i.toNat < 24) (hne : 0x11 ≠ i) :
    let crtc := (m.writeRegPair (.crtc base) i w).hardware.adapter.crtc
    Word.ofBytes (crtc.read (i + 1)) (crtc.read i) = w := by
  have hsucc : (i + 1).toNat = i.toNat + 1 := by
    simp only [UInt8.toNat_add, UInt8.reduceToNat]
    omega
  have hlow : i ≠ i + 1 := fun e => by
    have e := congrArg UInt8.toNat e
    omega
  have hfree := (m.sameRegisters_writeRegSplit base i (Word.high w)).unprotected
    (by simpa using hne) h
  have hcrtc := crtc_writeRegSplit _ base hfree (i + 1) (Word.low w)
  rw [m.crtc_writeRegSplit base h] at hcrtc
  rw [writeRegPair, hcrtc]
  have hi' : i.toNat < 25 := by omega
  have hsucc' : (i + 1).toNat < 25 := by omega
  simp only [RegisterBank.read_select, RegisterBank.read_write, hlow, hi', hsucc', false_and,
    true_and, if_true, if_false, Word.ofBytes_low_high]

theorem sameRegisters_setCursorShape (shape : CursorShape) :
    m.hardware.SameRegisters [0x0A, 0x0B] (m.setCursorShape base shape).hardware := by
  have h₁ := m.sameRegisters_writeRegSplit base 0x0A shape.first
  have h₂ := (m.writeRegSplit (.crtc base) 0x0A shape.first).sameRegisters_writeRegSplit base
    0x0B (shape.last &&& 0x1F)
  exact (h₁.mono (by simp)).trans (h₂.mono (by simp))

theorem sameMemory_setCursorShape (shape : CursorShape) :
    m.hardware.SameMemory (m.setCursorShape base shape).hardware :=
  (m.sameMemory_writeRegSplit _ 0x0A _).trans (sameMemory_writeRegSplit _ _ 0x0B _)

theorem sameRegisters_cursorShape :
    m.hardware.SameRegisters [] (m.cursorShape base).2.hardware :=
  (m.sameRegisters_readReg _ 0x0A).trans (sameRegisters_readReg _ _ 0x0B)

theorem sameMemory_cursorShape : m.hardware.SameMemory (m.cursorShape base).2.hardware :=
  (m.sameMemory_readReg _ 0x0A).trans (sameMemory_readReg _ _ 0x0B)

theorem startAddress_setStartAddress (h : m.hardware.adapter.Unprotected) (start : UInt16) :
    (m.setStartAddress base start).hardware.adapter.startAddress = start :=
  m.read_writeRegPair base h start (by decide) (by decide)

theorem cursorLocation_setCursorLocation (h : m.hardware.adapter.Unprotected) (index : UInt16) :
    (m.setCursorLocation base index).hardware.adapter.cursorLocation = index :=
  m.read_writeRegPair base h index (by decide) (by decide)

end Machine

end VgaFirmware
