/-!
# Indexed registers

A bank of byte registers behind an index. Registers beyond the end of the bank read as zero and
ignore writes.
-/

namespace VgaFirmware

/-- An index and the registers that it selects among. -/
structure RegisterBank (n : Nat) where
  index : UInt8
  values : Vector UInt8 n
  deriving DecidableEq, Repr

namespace RegisterBank

variable {n : Nat}

def blank (n : Nat) : RegisterBank n := ⟨0, Vector.replicate n 0⟩

def read (b : RegisterBank n) (i : UInt8) : UInt8 := b.values[i.toNat]?.getD 0

def write (b : RegisterBank n) (i v : UInt8) : RegisterBank n :=
  { b with values := b.values.setIfInBounds i.toNat v }

def select (b : RegisterBank n) (i : UInt8) : RegisterBank n := { b with index := i }

def current (b : RegisterBank n) : UInt8 := b.read b.index

@[simp] theorem read_blank (i : UInt8) : (blank n).read i = 0 := by
  simp only [blank, read, Vector.getElem?_replicate]
  split <;> rfl

@[simp] theorem index_write (b : RegisterBank n) (i v : UInt8) : (b.write i v).index = b.index :=
  rfl

@[simp] theorem index_select (b : RegisterBank n) (i : UInt8) : (b.select i).index = i := rfl

@[simp] theorem read_select (b : RegisterBank n) (i j : UInt8) :
    (b.select i).read j = b.read j := rfl

theorem read_write (b : RegisterBank n) (i j v : UInt8) :
    (b.write i v).read j = if j = i ∧ i.toNat < n then v else b.read j := by
  simp only [read, write, Vector.getElem?_setIfInBounds]
  by_cases h : j = i
  · subst h
    by_cases hn : j.toNat < n
    · simp [hn]
    · simp [hn]
  · have : i.toNat ≠ j.toNat := fun e => h (UInt8.toNat_inj.mp e).symm
    simp [h, this]

end RegisterBank

end VgaFirmware
