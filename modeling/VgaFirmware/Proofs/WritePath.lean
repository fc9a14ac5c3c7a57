import VgaFirmware.Proofs.Window

/-!
# What the write path does to host bytes

In a view of planes the write mode is fixed, but bit mask, raster operation, rotation and
set/reset are as somebody left them (`Adapter.writePath`). `WriteControl.clears_iff` says when a
zero clears a plane whatever it held, `WriteControl.Passes` when a byte arrives as it is.
-/

namespace VgaFirmware

theorem UInt8.rotateRight_zero (x : UInt8) : (⟨x.toBitVec.rotateRight 0⟩ : UInt8) = x := by
  apply UInt8.toBitVec_inj.mp
  ext i hi
  simp [BitVec.getElem_rotateRight, hi]

theorem BitVec.getElem_full {i : Nat} (hi : i < 8) : (0xFF#8)[i] = true := by
  revert hi i
  decide

theorem blend_full (value old : UInt8) : blend 0xFF value old = value := by
  apply UInt8.toBitVec_inj.mp
  ext i hi
  simp [blend, BitVec.getElem_full hi]

namespace WriteControl

/-- A host zero clears a plane, whatever the plane holds. -/
def Clears (c : WriteControl) (p : Plane) : Prop :=
  c.bitMask = 0xFF ∧ (c.op = .replace ∨ c.op = .and) ∧
    ¬ (c.enableSetReset.has p = true ∧ c.setReset.has p = true)

/-- A host byte arrives in a plane as it is. -/
def Passes (c : WriteControl) (p : Plane) : Prop :=
  c.bitMask = 0xFF ∧ c.op = .replace ∧ c.rotate = 0 ∧ c.enableSetReset.has p = false

instance (c : WriteControl) (p : Plane) : Decidable (c.Clears p) :=
  inferInstanceAs (Decidable (_ ∧ _))

instance (c : WriteControl) (p : Plane) : Decidable (c.Passes p) :=
  inferInstanceAs (Decidable (_ ∧ _))

variable {c : WriteControl} {p : Plane}

theorem result_hostData (hmode : c.mode = .hostData) (v : UInt8) (p : Plane) (latch : UInt8) :
    c.result v p latch =
      blend c.bitMask (c.op.apply
        (if c.enableSetReset.has p then spread (c.setReset.has p) else c.rotated v) latch)
          latch := by
  simp only [result, hmode]

theorem rotated_zero (c : WriteControl) : c.rotated 0 = 0 := by
  apply UInt8.toBitVec_inj.mp
  ext i hi
  simp [rotated, BitVec.getElem_rotateRight]

theorem result_zero (hmode : c.mode = .hostData) (p : Plane) (latch : UInt8) :
    c.result 0 p latch = blend c.bitMask
      (c.op.apply (spread (c.enableSetReset.has p && c.setReset.has p)) latch) latch := by
  rw [result_hostData hmode, rotated_zero]
  cases c.enableSetReset.has p <;> rfl

theorem clears_iff (hmode : c.mode = .hostData) :
    c.Clears p ↔ ∀ latch, c.result 0 p latch = 0 := by
  have hones : ∀ op : RasterOp, ∀ mask : BitVec 8, ∀ on : Bool,
      blend ⟨mask⟩ (op.apply (spread on) 0xFF) 0xFF = 0 →
        blend ⟨mask⟩ (op.apply (spread on) 0) 0 = 0 →
          mask = 0xFF#8 ∧ (op = .replace ∨ op = .and) ∧ on = false := by
    intro op
    cases op <;> decide
  constructor
  · rintro ⟨hmask, hop, hset⟩ latch
    have hoff : (c.enableSetReset.has p && c.setReset.has p) = false := by
      simpa [Bool.and_eq_true] using hset
    rw [result_zero hmode, hmask, blend_full, hoff]
    rcases hop with hop | hop <;> simp [hop, RasterOp.apply, spread]
  · intro h
    have hclear := h 0xFF
    have hkeep := h 0
    rw [result_zero hmode] at hclear hkeep
    obtain ⟨hmask, hop, hset⟩ := hones c.op c.bitMask.toBitVec _ hclear hkeep
    exact ⟨UInt8.toBitVec_inj.mp hmask, hop, by simpa [Bool.and_eq_true] using hset⟩

theorem Passes.result (h : c.Passes p) (hmode : c.mode = .hostData) (v latch : UInt8) :
    c.result v p latch = v := by
  obtain ⟨hmask, hop, hrotate, hset⟩ := h
  rw [result_hostData hmode, hmask, blend_full, hop, hset, rotated, hrotate]
  exact UInt8.rotateRight_zero v

theorem Passes.clears (h : c.Passes p) : c.Clears p := by
  obtain ⟨hmask, hop, -, hset⟩ := h
  exact ⟨hmask, .inl hop, fun g => Bool.false_ne_true (hset.symm.trans g.1)⟩

/-- One byte is enough to tell, if each rotation changes it. -/
theorem Clears.passes (h : c.Clears p) (hmode : c.mode = .hostData) (hlt : c.rotate < 8)
    {v : UInt8} (hv : v ≠ 0)
    (hrotations : ∀ k < 8, (⟨v.toBitVec.rotateRight k⟩ : UInt8) = v → k = 0)
    (hresult : c.result v p 0 = v) : c.Passes p := by
  obtain ⟨hmask, hop, hset⟩ := h
  rw [result_hostData hmode, hmask, blend_full] at hresult
  cases hon : c.enableSetReset.has p with
  | true =>
    have hoff : c.setReset.has p = false := by simpa [hon] using hset
    have hzero : c.op.apply (spread false) 0 = 0 := by
      rcases hop with hop | hop <;> simp [hop, RasterOp.apply, spread]
    rw [hon, hoff] at hresult
    exact absurd (hresult.symm.trans hzero) hv
  | false =>
    rw [hon] at hresult
    rcases hop with hop | hop
    · rw [hop] at hresult
      exact ⟨hmask, hop, hrotations _ hlt hresult, hon⟩
    · have hzero : c.op.apply (c.rotated v) 0 = 0 := by simp [hop, RasterOp.apply]
      exact absurd (hresult.symm.trans hzero) hv

end WriteControl

namespace Adapter

/-- The settings of the write path, as they count in a view of planes. -/
def writePath (a : Adapter) : WriteControl := { a.writeControl with mode := .hostData }

theorem mode_writePath (a : Adapter) : a.writePath.mode = .hostData := rfl

theorem rotate_writePath_lt (a : Adapter) : a.writePath.rotate < 8 := Nat.mod_lt _ (by decide)

/-- Where no plane enables set/reset, nothing is rotated and no bit is masked, every byte passes. -/
theorem passes_writePath (a : Adapter) (henable : a.graphics.read 1 = 0)
    (hrotate : a.graphics.read 3 = 0) (hmask : a.graphics.read 8 = 0xFF) (p : Plane) :
    a.writePath.Passes p := by
  refine ⟨hmask, ?_, ?_, ?_⟩
  · change RasterOp.ofBits (a.graphics.read 3 >>> 3) = .replace
    rw [hrotate]
    rfl
  · change (a.graphics.read 3).toNat % 8 = 0
    rw [hrotate]
    rfl
  · change (PlaneSet.ofByte (a.graphics.read 1)).has p = false
    rw [henable]
    revert p
    decide

end Adapter

namespace Board

variable {bus : BusWidth} {b c : Board bus}

theorem Inside.writePath (h : Inside b c) : c.adapter.writePath = b.adapter.writePath := by
  have h₀ := h.graphics 0 (by decide) (by decide) (by decide)
  have h₁ := h.graphics 1 (by decide) (by decide) (by decide)
  have h₃ := h.graphics 3 (by decide) (by decide) (by decide)
  have h₈ := h.graphics 8 (by decide) (by decide) (by decide)
  simp only [Adapter.writePath, Adapter.writeControl, h₀, h₁, h₃, h₈]

/-- A plain write path lets every byte pass. -/
theorem Plain.passes (h : b.Plain) : ∀ p, b.adapter.writePath.Passes p :=
  b.adapter.passes_writePath h.enableSetReset h.rotate h.bitMask

end Board

end VgaFirmware
