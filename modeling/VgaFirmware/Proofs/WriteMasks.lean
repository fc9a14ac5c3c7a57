import VgaFirmware.Proofs.FlatMemory
import VgaFirmware.Proofs.Footprint

/-!
# What a host write may change

A host write reaches one offset of the planes that the map mask opens (`Writes.selected`). There it
changes the bits of the mask of its write mode (`WriteControl.reach`), in whatever way the data came
about, and no others (`hostWrite_masked`).
-/

namespace VgaFirmware

/-- Outside the mask a blend is the old byte. -/
theorem blend_and_not (mask value old : UInt8) :
    blend mask value old &&& ~~~mask = old &&& ~~~mask := by
  apply UInt8.toBitVec_inj.mp
  ext i hi
  simp only [blend, UInt8.toBitVec_and, UInt8.toBitVec_or, UInt8.toBitVec_not, BitVec.getElem_and,
    BitVec.getElem_or, BitVec.getElem_not]
  cases mask.toBitVec[i] <;> simp

namespace WriteControl

/-- The bits of a plane that a host byte may change. -/
def reach (c : WriteControl) (value : UInt8) : UInt8 :=
  match c.mode with
  | .hostData | .hostColour => c.bitMask
  | .latched => 0xFF
  | .maskedColour => c.bitMask &&& c.rotated value

theorem result_latched {c : WriteControl} (h : c.mode = .latched) (value : UInt8) (p : Plane)
    (latch : UInt8) : c.result value p latch = latch := by
  simp only [result, h]

/-- Whatever the source of the data, the latch shows outside the mask. -/
theorem result_and_not_reach (c : WriteControl) (value : UInt8) (p : Plane) (latch : UInt8) :
    c.result value p latch &&& ~~~c.reach value = latch &&& ~~~c.reach value := by
  cases h : c.mode with
  | latched => rw [result_latched h]
  | hostData | hostColour | maskedColour =>
    simp only [result, reach, h]
    exact blend_and_not _ _ _

end WriteControl

/-- Two stores hold the same bits outside a mask. -/
def PlaneMemory.SameOutside (mask : UInt8) (m n : PlaneMemory) : Prop :=
  ∀ p off, n.get p off &&& ~~~mask = m.get p off &&& ~~~mask

/-- Number of addresses that are folded onto one offset. -/
def Addressing.fold : Addressing → Nat
  | chained => 4
  | oddEven => 2
  | planar => 1

namespace Adapter

variable {a : Adapter} {address : UInt32}

theorem Writes.decodes {p : Plane} {off : UInt16} (h : a.Writes address.toNat p off) :
    a.Decodes address := by
  by_contra houtside
  rw [Writes, target_of_not_decodes houtside] at h
  exact h

/-- An address selects one offset, and one plane if it is folded. -/
theorem Writes.selected {p : Plane} {off : UInt16} (h : a.Writes address.toNat p off) :
    let o := address.toNat - a.graphicsMisc.aperture.base
    a.mapMask.has p = true ∧ off = UInt16.ofNat (o / a.addressing.fold) ∧
      (a.addressing ≠ .planar → p.val = o % a.addressing.fold) := by
  intro o
  have htarget := target_of_decodes h.decodes
  rw [Writes, htarget] at h
  cases haddressing : a.addressing with
  | chained | oddEven =>
    rw [haddressing] at h
    obtain ⟨rfl, rfl, hmask⟩ := h
    exact ⟨hmask, rfl, fun _ => rfl⟩
  | planar =>
    rw [haddressing] at h
    obtain ⟨hmask, rfl⟩ := h
    refine ⟨hmask, ?_, fun hplanar => absurd rfl hplanar⟩
    rw [Addressing.fold, Nat.div_one]

theorem hostWrite_of_planar (h : a.addressing = .planar) (haddress : a.Decodes address)
    (v : UInt8) :
    a.hostWrite address.toNat v =
      a.writeColumn (UInt16.ofNat (address.toNat - a.graphicsMisc.aperture.base)) v := by
  rw [hostWrite, target_of_decodes haddress, h]
  rfl

theorem hostRead_of_planar (h : a.addressing = .planar) (haddress : a.Decodes address) :
    a.hostRead address.toNat =
      a.readColumn (UInt16.ofNat (address.toNat - a.graphicsMisc.aperture.base)) := by
  rw [hostRead, target_of_decodes haddress, h]
  rfl

/-- Unless the latches are the data, a planar write changes no bit outside its mask. -/
theorem sameOutside_writeColumn (hmode : a.writeControl.mode ≠ .latched) (off : UInt16)
    (v : UInt8) :
    a.planes.SameOutside (a.writeControl.reach v) (a.writeColumn off v).planes := by
  intro p x
  rw [writeColumn, PlaneMemory.get_setColumn, if_neg hmode]
  split
  · next hx =>
    rw [WriteControl.result_and_not_reach, PlaneMemory.get_column, hx.1]
  · rfl

theorem sameOutside_hostWrite (h : a.addressing = .planar)
    (hmode : a.writeControl.mode ≠ .latched) (v : UInt8) :
    a.planes.SameOutside (a.writeControl.reach v) (a.hostWrite address.toNat v).planes := by
  by_cases haddress : a.Decodes address
  · rw [hostWrite_of_planar h haddress]
    exact sameOutside_writeColumn hmode _ v
  · rw [hostWrite_of_not_decodes haddress]
    exact fun _ _ => rfl

/-- Where the latches are the data, each open plane receives its own. -/
theorem get_hostWrite_latched (h : a.addressing = .planar)
    (hmode : a.writeControl.mode = .latched) (haddress : a.Decodes address) (v : UInt8)
    {p : Plane} (hp : a.mapMask.has p = true) :
    (a.hostWrite address.toNat v).planes.get p
        (UInt16.ofNat (address.toNat - a.graphicsMisc.aperture.base)) = a.latches.get p := by
  rw [hostWrite_of_planar h haddress, writeColumn, PlaneMemory.get_setColumn, if_pos ⟨rfl, hp⟩,
    if_pos hmode, WriteControl.result_latched hmode]

/-- Host writes respect every mask. A write changes no register but the latches, and of the planes
at most one offset, in those that the map mask opens; where addresses are folded, in the one that
the address selects. A planar write changes no bit outside the bit mask, or outside what the host
byte leaves of it, or it copies the latches. Outside the aperture a write is void. -/
theorem hostWrite_masked (a : Adapter) (address : UInt32) (v : UInt8) :
    let b := a.hostWrite address.toNat v
    let o := address.toNat - a.graphicsMisc.aperture.base
    b = { a with latches := b.latches, planes := b.planes } ∧
    (∀ p off, b.planes.get p off ≠ a.planes.get p off →
      a.mapMask.has p = true ∧ off = UInt16.ofNat (o / a.addressing.fold) ∧
        (a.addressing ≠ .planar → p.val = o % a.addressing.fold)) ∧
    (a.addressing = .planar →
      match a.writeControl.mode with
      | .hostData | .hostColour => a.planes.SameOutside (a.graphics.read 8) b.planes
      | .latched => a.Decodes address →
          ∀ p, a.mapMask.has p = true → b.planes.get p (UInt16.ofNat o) = a.latches.get p
      | .maskedColour =>
        a.planes.SameOutside (a.graphics.read 8 &&& a.writeControl.rotated v) b.planes) ∧
    (¬ a.Decodes address → b = a) := by
  intro b o
  refine ⟨a.hostWrite_eq address.toNat v, fun p off hchanged => ?_, fun hplanar => ?_,
    fun houtside => hostWrite_of_not_decodes houtside v⟩
  · have hwrites : a.Writes address.toNat p off := by
      by_contra hnot
      exact hchanged (get_hostWrite_of_not_writes v hnot)
    exact hwrites.selected
  · cases hmode : a.writeControl.mode with
    | latched => exact fun haddress p hp => get_hostWrite_latched hplanar hmode haddress v hp
    | hostData | hostColour | maskedColour =>
      have hsame : a.planes.SameOutside (a.writeControl.reach v) b.planes :=
        sameOutside_hostWrite hplanar (by rw [hmode]; decide) v
      rw [WriteControl.reach, hmode] at hsame
      exact hsame

/-- The bit mask `3C` and the host byte `0F`, rotated by one, leave one bit open; without the
rotation two would be. -/
theorem hostWrite_masked_rotated :
    let a : Adapter :=
      { Adapter.powerOn with
        sequencer := ((RegisterBank.blank 5).write 2 0x0F).write 4 0x06
        graphics := (((RegisterBank.blank 9).write 3 0x01).write 5 0x03).write 8 0x3C }
    a.addressing = .planar ∧ a.writeControl.mode = .maskedColour ∧
      a.planes.SameOutside 0x04 (a.hostWrite 0xA0005 0x0F).planes := by
  intro a
  have hplanar : a.addressing = .planar := by decide
  have hmode : a.writeControl.mode = .maskedColour := by decide
  have hmask : a.graphics.read 8 &&& a.writeControl.rotated 0x0F = 0x04 := by decide
  obtain ⟨-, -, hsame, -⟩ := a.hostWrite_masked 0xA0005 0x0F
  have hsame := hsame hplanar
  rw [hmode] at hsame
  exact ⟨hplanar, hmode, hmask ▸ hsame⟩

end Adapter

end VgaFirmware
