import VgaFirmware.Text.Digest

/-!
# Caller memory

One mebibyte of bytes, addressed by segment and offset or linearly. Addresses past the end wrap
to the beginning.
-/

namespace VgaFirmware

abbrev Address := Fin 0x100000

namespace Address

def ofSegment (segment off : UInt16) : Address :=
  ⟨(16 * segment.toNat + off.toNat) % 0x100000, Nat.mod_lt _ (by decide)⟩

def ofLinear (a : UInt32) : Address := ⟨a.toNat % 0x100000, Nat.mod_lt _ (by decide)⟩

def isDisplay (a : Address) : Bool := 0xA0000 ≤ a.val && a.val ≤ 0xBFFFF

end Address

structure Ram where
  bytes : Vector UInt8 0x100000

namespace Ram

def blank : Ram := ⟨Vector.replicate 0x100000 0⟩

def get (r : Ram) (a : Address) : UInt8 := r.bytes[a]

def set (r : Ram) (a : Address) (v : UInt8) : Ram := ⟨r.bytes.set a.val v a.isLt⟩

def slice (r : Ram) (a : UInt32) (count : Nat) : List UInt8 :=
  (List.range count).map fun i => r.get (.ofLinear (a + UInt32.ofNat i))

def write (r : Ram) (a : UInt32) : List UInt8 → Ram
  | [] => r
  | v :: rest => (r.set (.ofLinear a) v).write (a + 1) rest

def digest (r : Ram) : UInt32 := r.bytes.toArray.foldl Digest.add Digest.empty

@[ext] theorem ext {r t : Ram} (h : ∀ a, r.get a = t.get a) : r = t := by
  cases r with
  | mk x =>
    cases t with
    | mk y =>
      congr 1
      apply Vector.ext
      intro i hi
      exact h ⟨i, hi⟩

@[simp] theorem get_blank (a : Address) : blank.get a = 0 := by
  simp [get, blank]

theorem get_set (r : Ram) (a b : Address) (v : UInt8) :
    (r.set a v).get b = if b = a then v else r.get b := by
  by_cases h : b = a
  · subst h
    simp [get, set]
  · have hne : a.val ≠ b.val := fun e => h (Fin.ext e.symm)
    simp [get, set, h, Vector.getElem_set_ne, hne]

theorem slice_succ (r : Ram) (a : UInt32) (count : Nat) :
    r.slice a (count + 1) = r.get (.ofLinear a) :: r.slice (a + 1) count := by
  have hnext (i : Nat) : a + UInt32.ofNat (i + 1) = a + 1 + UInt32.ofNat i := by
    rw [Nat.add_comm, UInt32.ofNat_add, UInt32.add_assoc]
    rfl
  simp only [slice, List.range_succ_eq_map, List.map_cons, List.map_map, Function.comp_def, hnext]
  simp

theorem length_slice (r : Ram) (a : UInt32) (count : Nat) :
    (r.slice a count).length = count := by
  simp [slice]

end Ram

end VgaFirmware
