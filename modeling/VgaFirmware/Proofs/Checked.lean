import VgaFirmware.Adapter.Aperture

/-!
# Checked arithmetic

Computations that stop where an integer type does not hold the exact result of an addition, a
subtraction or a multiplication, where a divisor is zero, and where an index is out of bounds.
Sums and products that are meant to wrap are not checked.
-/

namespace VgaFirmware

/-- Why a computation stops. -/
inductive Fault where
  | overflow
  | zeroDivisor
  | outOfBounds
  deriving DecidableEq, Repr

/-- What a computation comes to that may stop. -/
abbrev Checked := Except Fault

namespace Checked

variable {α β : Type} {size : Nat}

/-- An exact result, as long as it is not negative and below a bound. -/
def below (bound : Nat) (n : Int) : Checked Nat :=
  if 0 ≤ n ∧ n < bound then .ok n.toNat else .error .overflow

def byte (n : Int) : Checked UInt8 := (below 0x100 n).map UInt8.ofNat

def word (n : Int) : Checked UInt16 := (below 0x10000 n).map UInt16.ofNat

def long (n : Int) : Checked UInt32 := (below 0x100000000 n).map UInt32.ofNat

/-- A count or an index has 32 bits at least. -/
def count (n : Int) : Checked Nat := below 0x100000000 n

def div (a b : UInt16) : Checked UInt16 := if b = 0 then .error .zeroDivisor else .ok (a / b)

def mod (a b : UInt16) : Checked UInt16 := if b = 0 then .error .zeroDivisor else .ok (a % b)

def get (xs : Vector α size) (i : Nat) : Checked α :=
  if h : i < size then .ok xs[i] else .error .outOfBounds

def set (xs : Vector α size) (i : Nat) (v : α) : Checked (Vector α size) :=
  if h : i < size then .ok (xs.set i v) else .error .outOfBounds

-- not by `rfl`: the kernel would run what comes after the bind to compare the two sides
@[simp] theorem ok_bind (a : α) (f : α → Checked β) : (Except.ok a >>= f) = f a := pure_bind a f

/-- A loop whose steps do not stop does not stop. -/
theorem foldlM_eq {σ : Type} (step : β → α → Checked β) (next : σ → α → σ) (embed : σ → β)
    (h : ∀ s x, step (embed s) x = .ok (embed (next s x))) (xs : List α) (s : σ) :
    xs.foldlM step (embed s) = .ok (embed (xs.foldl next s)) := by
  induction xs generalizing s with
  | nil => rfl
  | cons x rest ih => rw [List.foldlM_cons, h, ok_bind, ih, List.foldl_cons]

theorem below_eq {bound n : Nat} (h : n < bound) : below bound n = .ok n :=
  if_pos ⟨Int.natCast_nonneg n, Int.ofNat_lt.mpr h⟩

example : byte (3 - 5) = .error .overflow := rfl

theorem byte_eq {n : Int} {m : Nat} (hn : n = m) (h : m < 0x100) :
    byte n = .ok (UInt8.ofNat m) := by
  rw [hn, byte, below_eq h]
  rfl

theorem word_eq {n : Int} {m : Nat} (hn : n = m) (h : m < 0x10000) :
    word n = .ok (UInt16.ofNat m) := by
  rw [hn, word, below_eq h]
  rfl

theorem long_eq {n : Int} {m : Nat} (hn : n = m) (h : m < 0x100000000) :
    long n = .ok (UInt32.ofNat m) := by
  rw [hn, long, below_eq h]
  rfl

theorem count_eq {n : Int} {m : Nat} (hn : n = m) (h : m < 0x100000000) : count n = .ok m := by
  rw [hn, count, below_eq h]

theorem div_eq {a b : UInt16} (h : b ≠ 0) : div a b = .ok (a / b) := if_neg h

theorem mod_eq {a b : UInt16} (h : b ≠ 0) : mod a b = .ok (a % b) := if_neg h

theorem get_eq (xs : Vector α size) {i : Nat} (h : i < size) : get xs i = .ok xs[i] := dif_pos h

theorem set_eq (xs : Vector α size) {i : Nat} (h : i < size) (v : α) :
    set xs i v = .ok (xs.set i v) := dif_pos h

end Checked

end VgaFirmware
