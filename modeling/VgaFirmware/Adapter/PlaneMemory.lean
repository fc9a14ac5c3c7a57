import VgaFirmware.Adapter.PlaneSet
import VgaFirmware.Text.Digest

/-!
# Plane memory

Four planes of 64 KiB behind one store. `get` is the view: two stores with the same bytes are
equal (`PlaneMemory.ext`), and each write is described by what `get` shows after it.
-/

namespace VgaFirmware

/-- The bytes of the four planes at one offset. -/
abbrev Latches := Vector UInt8 4

/-- Four planes of 64 KiB, one after the other. -/
structure PlaneMemory where
  bytes : Vector UInt8 262144

namespace PlaneMemory

def index (p : Plane) (off : UInt16) : Fin 262144 :=
  ⟨65536 * p.val + off.toNat, by have := off.toNat_lt; omega⟩

theorem index_inj {p q : Plane} {a b : UInt16} : index p a = index q b ↔ p = q ∧ a = b := by
  constructor
  · intro h
    have h := congrArg Fin.val h
    simp only [index] at h
    have := a.toNat_lt
    have := b.toNat_lt
    exact ⟨Fin.ext (by omega), UInt16.toNat_inj.mp (by omega)⟩
  · rintro ⟨rfl, rfl⟩
    rfl

def blank : PlaneMemory := ⟨Vector.replicate 262144 0⟩

def get (m : PlaneMemory) (p : Plane) (off : UInt16) : UInt8 := m.bytes[index p off]

def set (m : PlaneMemory) (p : Plane) (off : UInt16) (v : UInt8) : PlaneMemory :=
  ⟨m.bytes.set (index p off).val v (index p off).isLt⟩

def column (m : PlaneMemory) (off : UInt16) : Latches := Vector.ofFn fun p => m.get p off

def setColumn (m : PlaneMemory) (off : UInt16) (s : PlaneSet) (f : Plane → UInt8) : PlaneMemory :=
  Plane.all.foldl (fun m p => if s.has p then m.set p off (f p) else m) m

/-- `count` bytes of a plane from `off` on, wrapping at the end of the plane. -/
def slice (m : PlaneMemory) (p : Plane) (off : UInt16) (count : Nat) : List UInt8 :=
  (List.range count).map fun i => m.get p (off + UInt16.ofNat i)

/-- Writes a byte sequence into a plane, wrapping at its end. -/
def write (m : PlaneMemory) (p : Plane) (off : UInt16) : List UInt8 → PlaneMemory
  | [] => m
  | v :: rest => (m.set p off v).write p (off + 1) rest

def digest (m : PlaneMemory) (p : Plane) : UInt32 :=
  m.bytes.toArray.foldl Digest.add Digest.empty (65536 * p.val) (65536 * (p.val + 1))

@[ext] theorem ext {m n : PlaneMemory} (h : ∀ p off, m.get p off = n.get p off) : m = n := by
  cases m with
  | mk a =>
    cases n with
    | mk b =>
      congr 1
      apply Vector.ext
      intro i hi
      have key := h ⟨i / 65536, by omega⟩ (UInt16.ofNat (i % 65536))
      have hidx : index ⟨i / 65536, by omega⟩ (UInt16.ofNat (i % 65536)) = ⟨i, hi⟩ := by
        apply Fin.ext
        simp [index]
        omega
      simpa [get, hidx] using key

@[simp] theorem get_blank (p : Plane) (off : UInt16) : blank.get p off = 0 := by
  simp [get, blank]

theorem get_set (m : PlaneMemory) (p q : Plane) (a b : UInt16) (v : UInt8) :
    (m.set p a v).get q b = if q = p ∧ b = a then v else m.get q b := by
  by_cases h : q = p ∧ b = a
  · obtain ⟨rfl, rfl⟩ := h
    simp [get, set]
  · have hne : (index p a).val ≠ (index q b).val := by
      intro e
      have e := index_inj.mp (Fin.ext e)
      exact h ⟨e.1.symm, e.2.symm⟩
    simp [get, set, h, Vector.getElem_set_ne, hne]

@[simp] theorem get_column (m : PlaneMemory) (off : UInt16) (p : Plane) :
    (m.column off).get p = m.get p off := by
  exact Vector.getElem_ofFn p.isLt

theorem get_setColumn (m : PlaneMemory) (off : UInt16) (s : PlaneSet) (f : Plane → UInt8)
    (q : Plane) (b : UInt16) :
    (m.setColumn off s f).get q b = if b = off ∧ s.has q then f q else m.get q b := by
  have put (m : PlaneMemory) (p : Plane) :
      (if s.has p then m.set p off (f p) else m).get q b =
        if q = p ∧ b = off ∧ s.has p then f p else m.get q b := by
    by_cases hp : s.has p = true
    · simp [hp, get_set]
    · simp [hp]
  simp only [setColumn, Plane.all, List.foldl, put]
  match q with
  | 0 | 1 | 2 | 3 => simp

end PlaneMemory

end VgaFirmware
