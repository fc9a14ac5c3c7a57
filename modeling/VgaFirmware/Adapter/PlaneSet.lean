/-!
# The four planes and sets of them

Display memory is four planes deep. Several register fields name a set of planes in their low
four bits; `PlaneSet` is such a field, and `has` is its only observation.
-/

namespace VgaFirmware

abbrev Plane := Fin 4

namespace Plane

def ofByte (b : UInt8) : Plane := ⟨b.toNat % 4, Nat.mod_lt _ (by decide)⟩

def characters : Plane := 0

def attributes : Plane := 1

def glyphs : Plane := 2

def all : List Plane := [0, 1, 2, 3]

end Plane

/-- A set of planes, bit `p` standing for plane `p`. -/
structure PlaneSet where
  bits : BitVec 4
  deriving DecidableEq, Repr

namespace PlaneSet

def has (s : PlaneSet) (p : Plane) : Bool := s.bits.getLsbD p.val

def ofByte (b : UInt8) : PlaneSet := ⟨b.toBitVec.setWidth 4⟩

def toByte (s : PlaneSet) : UInt8 := ⟨s.bits.setWidth 8⟩

def all : PlaneSet := ⟨0xF#4⟩

def single (p : Plane) : PlaneSet := ⟨1#4 <<< p.val⟩

@[ext] theorem ext {s t : PlaneSet} (h : ∀ p, s.has p = t.has p) : s = t := by
  cases s with
  | mk a =>
    cases t with
    | mk b =>
      congr 1
      apply BitVec.eq_of_getLsbD_eq
      intro i hi
      exact h ⟨i, hi⟩

@[simp] theorem ofByte_toByte (s : PlaneSet) : ofByte s.toByte = s := by
  simp [ofByte, toByte]

@[simp] theorem has_all (p : Plane) : all.has p = true := by
  revert p
  decide

@[simp] theorem has_single (p q : Plane) : (single p).has q = decide (q = p) := by
  revert p q
  decide

end PlaneSet

/-- A value for the register that names the planes open to writes. Only its low four bits count,
but the register holds the others, too. -/
structure MapMask where
  bits : UInt8
  deriving DecidableEq, Repr

namespace MapMask

/-- Keeps the four bits that count. -/
def ofByte (b : UInt8) : MapMask := ⟨b &&& 0x0F⟩

def ofSet (s : PlaneSet) : MapMask := ⟨s.toByte⟩

def all : MapMask := ofSet .all

def single (p : Plane) : MapMask := ofSet (.single p)

def planes (m : MapMask) : PlaneSet := .ofByte m.bits

def has (m : MapMask) (p : Plane) : Bool := m.planes.has p

@[simp] theorem planes_ofSet (s : PlaneSet) : (ofSet s).planes = s := s.ofByte_toByte

@[simp] theorem has_all (p : Plane) : all.has p = true := by
  rw [has, all, planes_ofSet, PlaneSet.has_all]

@[simp] theorem has_single (p q : Plane) : (single p).has q = decide (q = p) := by
  rw [has, single, planes_ofSet, PlaneSet.has_single]

end MapMask

end VgaFirmware
