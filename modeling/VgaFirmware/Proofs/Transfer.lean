import Mathlib.Logic.Function.Basic
import VgaFirmware.Machine.Backend

/-!
# Block transfers

Block transfers make memory accesses and nothing else, so whatever one access keeps is kept by
all of them (`Accesses.keeps`). Where the window behaves as a flat memory (`Flat`), a transfer
has a closed form: which offsets it reaches, and what it leaves there. Offsets wrap, so the
bytes that a transfer of `n` bytes to `dst` reaches are those with `(o - dst).toNat < n`.
-/

namespace VgaFirmware

/-- Apart from its first offset, a block is the block that starts one further on. -/
theorem UInt16.toNat_sub_succ {o dst : UInt16} (h : o ≠ dst) :
    (o - dst).toNat = (o - (dst + 1)).toNat + 1 := by
  have hne : o.toNat ≠ dst.toNat := fun e => h (UInt16.toNat_inj.mp e)
  have ho := o.toNat_lt
  have hd := dst.toNat_lt
  simp only [UInt16.toNat_sub, UInt16.toNat_add, UInt16.reduceToNat]
  omega

namespace Backend

variable {B : Type} [Backend B]

/-! ## Memory accesses -/

/-- States that are reached by memory accesses alone. -/
inductive Accesses (b : B) : B → Prop where
  | refl : Accesses b b
  | load {c : B} (h : Accesses b c) (off : UInt16) : Accesses b (load c off).2
  | store {c : B} (h : Accesses b c) (off : UInt16) (v : UInt8) : Accesses b (store c off v)
  | fetch {c : B} (h : Accesses b c) (a : UInt32) : Accesses b (fetch c a).2

namespace Accesses

variable {b c d : B}

/-- What every access keeps, a run of accesses keeps. -/
theorem keeps {P : B → Prop} (hload : ∀ b off, P b → P (Backend.load b off).2)
    (hstore : ∀ b off v, P b → P (Backend.store b off v))
    (hfetch : ∀ b a, P b → P (Backend.fetch b a).2) (h : Accesses b c) (hb : P b) : P c := by
  induction h with
  | refl => exact hb
  | load _ off ih => exact hload _ off ih
  | store _ off v ih => exact hstore _ off v ih
  | fetch _ a ih => exact hfetch _ a ih

theorem trans (h : Accesses b c) (g : Accesses c d) : Accesses b d := by
  induction g with
  | refl => exact h
  | load _ off ih => exact ih.load off
  | store _ off v ih => exact ih.store off v
  | fetch _ a ih => exact ih.fetch a

theorem loadWord (h : Accesses b c) (off : UInt16) : Accesses b (loadWord c off).2 :=
  (h.load off).load (off + 1)

theorem storeWord (h : Accesses b c) (off w : UInt16) : Accesses b (storeWord c off w) :=
  (h.store off (Word.low w)).store (off + 1) (Word.high w)

theorem copy (h : Accesses b c) (dst src : UInt16) (count : Nat) :
    Accesses b (copy c dst src count) := by
  induction count generalizing c dst src with
  | zero => exact h
  | succ count ih => exact ih ((h.load src).store dst _) _ _

theorem fill (h : Accesses b c) (dst : UInt16) (v : UInt8) (count : Nat) :
    Accesses b (fill c dst v count) := by
  induction count generalizing c dst with
  | zero => exact h
  | succ count ih => exact ih (h.store dst v) _

theorem fillWords (h : Accesses b c) (dst w : UInt16) (count : Nat) :
    Accesses b (fillWords c dst w count) := by
  induction count generalizing c dst with
  | zero => exact h
  | succ count ih => exact ih (h.storeWord dst w) _

theorem copyIn (h : Accesses b c) (dst : UInt16) (src : UInt32) (count : Nat) :
    Accesses b (copyIn c dst src count) := by
  induction count generalizing c dst src with
  | zero => exact h
  | succ count ih => exact ih ((h.fetch src).store dst _) _ _

theorem findZero (h : Accesses b c) (a : UInt32) (i count : Nat) :
    Accesses b (findZero c a i count).2 := by
  induction count generalizing c a i with
  | zero => exact h
  | succ count ih =>
    by_cases hv : (Backend.fetch c a).1 = 0
    · simpa only [Backend.findZero, if_pos hv] using h.fetch a
    · simpa only [Backend.findZero, if_neg hv] using ih (h.fetch a) _ _

theorem foldl {α : Type} (h : Accesses b c) (xs : List α) (f : B → α → B)
    (hf : ∀ {d} x, Accesses b d → Accesses b (f d x)) : Accesses b (xs.foldl f c) := by
  induction xs generalizing c with
  | nil => exact h
  | cons x xs ih => exact ih (hf x h)

end Accesses

/-! ## Flat windows -/

/-- While `P` holds, the window is a flat memory: a load shows a byte of `bytes` and changes
none, and a store changes the one that it names. -/
structure Flat (P : B → Prop) (bytes : B → UInt16 → UInt8) : Prop where
  keeps_load : ∀ {b} (off : UInt16), P b → P (load b off).2
  keeps_store : ∀ {b} (off : UInt16) (v : UInt8), P b → P (store b off v)
  keeps_fetch : ∀ {b} (a : UInt32), P b → P (fetch b a).2
  fst_load : ∀ {b} (off : UInt16), P b → (load b off).1 = bytes b off
  bytes_load : ∀ {b} (off : UInt16), P b → bytes (load b off).2 = bytes b
  bytes_store : ∀ {b} (off : UInt16) (v : UInt8), P b →
    bytes (store b off v) = Function.update (bytes b) off v

namespace Flat

variable {P : B → Prop} {bytes : B → UInt16 → UInt8} {b : B}

theorem keeps {c : B} (flat : Flat P bytes) (h : Accesses b c) (hb : P b) : P c :=
  h.keeps (fun _ off => flat.keeps_load off) (fun _ off v => flat.keeps_store off v)
    (fun _ a => flat.keeps_fetch a) hb

theorem bytes_fill (flat : Flat P bytes) (hb : P b) (dst : UInt16) (v : UInt8) (count : Nat) :
    bytes (fill b dst v count) = fun o => if (o - dst).toNat < count then v else bytes b o := by
  induction count generalizing b dst with
  | zero =>
    funext o
    simp [fill]
  | succ count ih =>
    funext o
    rw [fill, ih (flat.keeps_store dst v hb), flat.bytes_store dst v hb]
    by_cases h : o = dst
    · subst h
      simp
    · have := UInt16.toNat_sub_succ h
      simp only [Function.update_of_ne h, this, Nat.add_lt_add_iff_right]

/-- A copy whose source stays clear of what it has written shows the bytes as they were. -/
theorem bytes_copy (flat : Flat P bytes) (hb : P b) (dst src : UInt16) (count : Nat)
    (clear : count ≤ (dst - src).toNat) :
    bytes (copy b dst src count) =
      fun o => if (o - dst).toNat < count then bytes b (src + (o - dst)) else bytes b o := by
  induction count generalizing b dst src with
  | zero =>
    funext o
    simp [copy]
  | succ count ih =>
    funext o
    have hl := flat.keeps_load src hb
    have hs := flat.keeps_store dst (load b src).1 hl
    have hgap : dst + 1 - (src + 1) = dst - src := by grind
    rw [copy, ih hs _ _ (by rw [hgap]; omega), flat.bytes_store _ _ hl, flat.bytes_load _ hb,
      flat.fst_load _ hb]
    by_cases h : o = dst
    · subst h
      have hlast : ¬ (o - (o + 1)).toNat < count := by
        have := (o - src).toNat_lt
        simp only [UInt16.toNat_sub, UInt16.toNat_add, UInt16.reduceToNat]
        omega
      simp only [hlast, if_false, Function.update_self, UInt16.sub_self, UInt16.add_zero]
      exact (if_pos (Nat.zero_lt_succ count)).symm
    · have hstep := UInt16.toNat_sub_succ h
      have hsrc : src + 1 + (o - (dst + 1)) = src + (o - dst) := by grind
      by_cases hlt : (o - (dst + 1)).toNat < count
      · have hne : src + (o - dst) ≠ dst := by
          intro e
          have e := congrArg UInt16.toNat e
          have := o.toNat_lt
          have := dst.toNat_lt
          have := src.toNat_lt
          simp only [UInt16.toNat_add, UInt16.toNat_sub, UInt16.reduceToNat] at e clear hlt
          omega
        simp only [hlt, hstep, hsrc, Function.update_of_ne hne, if_true,
          Nat.add_lt_add_iff_right]
      · simp only [hlt, hstep, Function.update_of_ne h, if_false, Nat.add_lt_add_iff_right]

theorem fst_loadWord (flat : Flat P bytes) (hb : P b) (off : UInt16) :
    (loadWord b off).1 = Word.ofBytes (bytes b off) (bytes b (off + 1)) := by
  have hload := flat.keeps_load off hb
  rw [← flat.fst_load off hb, ← flat.bytes_load off hb, ← flat.fst_load (off + 1) hload]
  rfl

theorem bytes_storeWord (flat : Flat P bytes) (hb : P b) (off w : UInt16) :
    bytes (storeWord b off w) =
      Function.update (Function.update (bytes b) off (Word.low w)) (off + 1) (Word.high w) := by
  rw [storeWord, flat.bytes_store _ _ (flat.keeps_store off _ hb), flat.bytes_store _ _ hb]

theorem bytes_fillWords (flat : Flat P bytes) (hb : P b) (dst w : UInt16) (count : Nat) :
    bytes (fillWords b dst w count) = fun o =>
      if (o - dst).toNat < 2 * count then
        if (o - dst).toNat % 2 = 0 then Word.low w else Word.high w
      else bytes b o := by
  induction count generalizing b dst with
  | zero =>
    funext o
    simp [fillWords]
  | succ count ih =>
    funext o
    rw [fillWords, ih (flat.keeps (.storeWord .refl dst w) hb), flat.bytes_storeWord hb]
    by_cases h0 : o = dst
    · subst h0
      have hlast : (o - (o + 2)).toNat = 65534 := by
        have := o.toNat_lt
        simp only [UInt16.toNat_sub, UInt16.toNat_add, UInt16.reduceToNat]
        omega
      simp only [hlast]
      simp
    · by_cases h1 : o = dst + 1
      · subst h1
        have hfirst : (dst + 1 - dst).toNat = 1 := by rw [UInt16.toNat_sub_succ h0]; simp
        have hlast : (dst + 1 - (dst + 2)).toNat = 65535 := by
          have := dst.toNat_lt
          simp only [UInt16.toNat_sub, UInt16.toNat_add, UInt16.reduceToNat]
          omega
        simp only [hfirst, hlast]
        simp
        omega
      · have hstep : (o - dst).toNat = (o - (dst + 2)).toNat + 2 := by
          rw [UInt16.toNat_sub_succ h0, UInt16.toNat_sub_succ h1, UInt16.add_assoc]
          rfl
        have hlt : (o - dst).toNat < 2 * (count + 1) ↔ (o - (dst + 2)).toNat < 2 * count := by
          omega
        have hparity : (o - dst).toNat % 2 = (o - (dst + 2)).toNat % 2 := by omega
        simp only [hlt, hparity, Function.update_of_ne h0, Function.update_of_ne h1]

end Flat

end Backend

end VgaFirmware
