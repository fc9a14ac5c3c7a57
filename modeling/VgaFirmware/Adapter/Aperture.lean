import VgaFirmware.Adapter.PlaneSet

/-!
# Host apertures

The adapter answers host memory accesses in one of four windows between `A0000` and `BFFFF`.
An address inside the selected window has an offset from the window's base; every other address
has none.
-/

namespace VgaFirmware

/-- The window in which display memory answers. -/
inductive Aperture where
  /-- `A0000` to `BFFFF`. -/
  | full
  /-- `A0000` to `AFFFF`. -/
  | graphics
  /-- `B0000` to `B7FFF`. -/
  | monoText
  /-- `B8000` to `BFFFF`. -/
  | colourText
  deriving DecidableEq, Repr

namespace Aperture

def ofBits (b : UInt8) : Aperture :=
  match b.toNat % 4 with
  | 0 => full
  | 1 => graphics
  | 2 => monoText
  | _ => colourText

def toBits : Aperture → UInt8
  | full => 0
  | graphics => 1
  | monoText => 2
  | colourText => 3

def base : Aperture → Nat
  | full | graphics => 0xA0000
  | monoText => 0xB0000
  | colourText => 0xB8000

def size : Aperture → Nat
  | full => 0x20000
  | graphics => 0x10000
  | monoText | colourText => 0x8000

def segment : Aperture → UInt16
  | full | graphics => 0xA000
  | monoText => 0xB000
  | colourText => 0xB800

def offset? (a : Aperture) (address : Nat) : Option Nat :=
  if a.base ≤ address ∧ address < a.base + a.size then some (address - a.base) else none

@[simp] theorem ofBits_toBits (a : Aperture) : ofBits a.toBits = a := by
  cases a <;> rfl

theorem offset?_eq_some {a : Aperture} {address off : Nat} :
    a.offset? address = some off ↔ address = a.base + off ∧ off < a.size := by
  unfold offset?
  split <;> simp <;> omega

theorem size_le (a : Aperture) : a.size ≤ 0x20000 := by
  cases a <;> decide

end Aperture

/-- How an offset into the aperture selects planes. -/
inductive Addressing where
  /-- The low two bits choose the plane. -/
  | chained
  /-- The low bit chooses between planes 0 and 1. -/
  | oddEven
  /-- Every plane is reached at once, through the latches. -/
  | planar
  deriving DecidableEq, Repr

inductive Target where
  /-- One byte of one plane. -/
  | single (plane : Plane) (off : UInt16)
  /-- The bytes of all planes at one offset. -/
  | column (off : UInt16)
  deriving DecidableEq, Repr

/-- The target of an offset into the aperture; planar offsets wrap at the plane size. -/
def Addressing.target (mode : Addressing) (off : Nat) : Target :=
  match mode with
  | chained => .single ⟨off % 4, Nat.mod_lt _ (by decide)⟩ (UInt16.ofNat (off / 4))
  | oddEven => .single ⟨off % 2, by omega⟩ (UInt16.ofNat (off / 2))
  | planar => .column (UInt16.ofNat off)

end VgaFirmware
