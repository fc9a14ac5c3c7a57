import Mathlib.Logic.Basic
import VgaFirmware.Adapter

/-!
# Folded addressing is a flat memory

With the planes chained, or with odd and even addresses apart, every address of the aperture is
folded onto one byte of one plane, and no two addresses onto the same (`Folds.target_injective`).
If all of those planes are open to writes, the host finds a flat memory behind the aperture: it
reads back what it last wrote (`Folds.answers_flat`).
-/

namespace VgaFirmware

/-! ## Sequences of accesses -/

/-- An access of the host to display memory. -/
inductive HostAccess where
  | read (address : UInt32)
  | write (address : UInt32) (v : UInt8)
  deriving DecidableEq, Repr

/-- The byte that a sequence of accesses last wrote to an address, or else the `first` one. -/
def HostAccess.latest (address : UInt32) (first : UInt8) : List HostAccess → UInt8
  | [] => first
  | .read _ :: rest => latest address first rest
  | .write target v :: rest => latest address (if target = address then v else first) rest

namespace Adapter

variable {a : Adapter} {x y address : UInt32}

/-- The answer to an access, if it asks for one, and the adapter after it. -/
def access (a : Adapter) : HostAccess → Option UInt8 × Adapter
  | .read address => ((a.hostRead address.toNat).1, (a.hostRead address.toNat).2)
  | .write address v => (none, a.hostWrite address.toNat v)

/-- The adapter after a sequence of accesses. -/
def after (a : Adapter) : List HostAccess → Adapter
  | [] => a
  | x :: rest => (a.access x).2.after rest

/-- What a sequence of accesses is answered, access by access. -/
def answers (a : Adapter) : List HostAccess → List (Option UInt8)
  | [] => []
  | x :: rest => (a.access x).1 :: (a.access x).2.answers rest

theorem answers_getElem? (a : Adapter) (accesses : List HostAccess) (i : Nat) :
    (a.answers accesses)[i]? =
      accesses[i]?.map fun x => ((a.after (accesses.take i)).access x).1 := by
  induction accesses generalizing a i with
  | nil => rfl
  | cons x rest ih =>
    cases i with
    | zero => rfl
    | succ i => exact ih (a.access x).2 i

theorem after_take_succ (a : Adapter) {accesses : List HostAccess} {i : Nat} {x : HostAccess}
    (h : accesses[i]? = some x) :
    a.after (accesses.take (i + 1)) = ((a.after (accesses.take i)).access x).2 := by
  induction accesses generalizing a i with
  | nil => simp at h
  | cons y rest ih =>
    cases i with
    | zero =>
      obtain rfl : y = x := by simpa using h
      rfl
    | succ i => exact ih (a.access y).2 (by simpa using h)

/-! ## Folded addresses -/

/-- The aperture holds the address. -/
def Decodes (a : Adapter) (address : UInt32) : Prop :=
  a.graphicsMisc.aperture.base ≤ address.toNat ∧
    address.toNat < a.graphicsMisc.aperture.base + a.graphicsMisc.aperture.size

instance (a : Adapter) (address : UInt32) : Decidable (a.Decodes address) := by
  unfold Decodes
  infer_instance

/-- Addresses select a single plane, among planes that are all open to writes. -/
inductive Folds (a : Adapter) : Prop where
  | chained (mode : a.memoryMode.chained = true) (mask : ∀ p, a.mapMask.has p = true)
  | oddEven (mode : a.memoryMode.chained = false) (oddEven : a.graphicsMode.oddEven = true)
      (sequential : a.memoryMode.sequential = false)
      (even : a.mapMask.has .characters = true) (odd : a.mapMask.has .attributes = true)

/-- The byte that the address is folded onto. -/
def contents (a : Adapter) (address : UInt32) : UInt8 :=
  match a.target address.toNat with
  | some (.single p off) => a.planes.get p off
  | _ => 0xFF

theorem target_of_decodes (h : a.Decodes address) :
    a.target address.toNat =
      some (a.addressing.target (address.toNat - a.graphicsMisc.aperture.base)) := by
  unfold Decodes at h
  rw [target, Aperture.offset?, if_pos h, Option.map_some]

theorem target_of_not_decodes (h : ¬ a.Decodes address) : a.target address.toNat = none := by
  unfold Decodes at h
  rw [target, Aperture.offset?, if_neg h, Option.map_none]

namespace Folds

/-- An address of the aperture is folded onto a byte that is open to writes. -/
theorem exists_target (h : a.Folds) (haddress : a.Decodes address) :
    ∃ p off, a.target address.toNat = some (.single p off) ∧ a.mapMask.has p = true := by
  rw [target_of_decodes haddress, addressing]
  cases h with
  | chained mode mask =>
    rw [if_pos mode]
    exact ⟨_, _, rfl, mask _⟩
  | oddEven mode oddEven sequential even odd =>
    rw [mode, oddEven, sequential]
    refine ⟨_, _, rfl, ?_⟩
    obtain hbit | hbit := Nat.mod_two_eq_zero_or_one
      (address.toNat - a.graphicsMisc.aperture.base)
    · exact (congrArg a.mapMask.has (Fin.ext hbit)).trans even
    · exact (congrArg a.mapMask.has (Fin.ext hbit)).trans odd

/-- No two addresses of the aperture are folded onto the same byte. -/
theorem target_injective (h : a.Folds) (hx : a.Decodes x) (hy : a.Decodes y)
    (heq : a.target x.toNat = a.target y.toNat) : x = y := by
  have hsize := a.graphicsMisc.aperture.size_le
  rw [target_of_decodes hx, target_of_decodes hy, Option.some_inj, addressing] at heq
  unfold Decodes at hx hy
  apply UInt32.toNat_inj.mp
  cases h with
  | chained mode =>
    rw [if_pos mode, Addressing.target, Addressing.target, Target.single.injEq, Fin.mk.injEq,
      ← UInt16.toNat_inj, UInt16.toNat_ofNat', UInt16.toNat_ofNat'] at heq
    omega
  | oddEven mode oddEven sequential =>
    rw [mode, oddEven, sequential] at heq
    simp only [Bool.false_eq_true, if_false, Bool.not_false, Bool.and_self, if_true,
      Addressing.target, Target.single.injEq, Fin.mk.injEq, ← UInt16.toNat_inj,
      UInt16.toNat_ofNat'] at heq
    omega

/-! ## Single accesses -/

theorem withPlanes (h : a.Folds) (planes : PlaneMemory) : { a with planes := planes }.Folds := by
  cases h with
  | chained mode mask => exact .chained mode mask
  | oddEven mode oddEven sequential even odd => exact .oddEven mode oddEven sequential even odd

theorem hostRead (h : a.Folds) (haddress : a.Decodes address) :
    a.hostRead address.toNat = (a.contents address, a) := by
  obtain ⟨p, off, htarget, -⟩ := h.exists_target haddress
  rw [Adapter.hostRead, contents, htarget]

/-- A write inside the aperture changes the contents of its own address only. -/
theorem exists_hostWrite (h : a.Folds) (haddress : a.Decodes address) (v : UInt8) :
    ∃ planes, a.hostWrite address.toNat v = { a with planes := planes } ∧
      ∀ y, a.Decodes y → { a with planes := planes }.contents y =
        if address = y then v else a.contents y := by
  obtain ⟨p, off, htarget, hmask⟩ := h.exists_target haddress
  refine ⟨a.planes.set p off v, ?_, fun y hy => ?_⟩
  · simp only [hostWrite, htarget, if_pos hmask]
  · obtain ⟨q, o, hy_target, -⟩ := h.exists_target hy
    have htarget' : { a with planes := a.planes.set p off v }.target y.toNat =
        some (.single q o) := hy_target
    simp only [contents, htarget', hy_target, PlaneMemory.get_set]
    refine if_congr ⟨?_, ?_⟩ rfl rfl
    · rintro ⟨rfl, rfl⟩
      exact h.target_injective haddress hy (htarget.trans hy_target.symm)
    · rintro rfl
      rw [htarget] at hy_target
      simpa [eq_comm] using hy_target

end Folds

theorem hostRead_of_not_decodes (h : ¬ a.Decodes address) :
    a.hostRead address.toNat = (0xFF, a) := by
  rw [hostRead, target_of_not_decodes h]

theorem hostWrite_of_not_decodes (h : ¬ a.Decodes address) (v : UInt8) :
    a.hostWrite address.toNat v = a := by
  rw [hostWrite, target_of_not_decodes h]

/-! ## Whole sequences -/

namespace Folds

/-- An access changes planes only: at most the byte of the address that it writes. -/
theorem exists_access (h : a.Folds) (x : HostAccess) :
    ∃ planes, (a.access x).2 = { a with planes := planes } ∧
      ∀ y, a.Decodes y → { a with planes := planes }.contents y =
        HostAccess.latest y (a.contents y) [x] := by
  cases x with
  | read address =>
    refine ⟨a.planes, ?_, fun y _ => rfl⟩
    by_cases haddress : a.Decodes address
    · rw [access, h.hostRead haddress]
    · rw [access, hostRead_of_not_decodes haddress]
  | write address v =>
    by_cases haddress : a.Decodes address
    · exact h.exists_hostWrite haddress v
    · refine ⟨a.planes, hostWrite_of_not_decodes haddress v, fun y hy => ?_⟩
      have hne : address ≠ y := by
        rintro rfl
        exact haddress hy
      rw [HostAccess.latest, if_neg hne, HostAccess.latest]

/-- After any sequence of accesses an address of the aperture holds what was last written to it. -/
theorem exists_after (h : a.Folds) (accesses : List HostAccess) :
    ∃ planes, a.after accesses = { a with planes := planes } ∧
      ∀ y, a.Decodes y → { a with planes := planes }.contents y =
        HostAccess.latest y (a.contents y) accesses := by
  induction accesses generalizing a with
  | nil => exact ⟨a.planes, rfl, fun _ _ => rfl⟩
  | cons x rest ih =>
    obtain ⟨first, hfirst, hcontents⟩ := h.exists_access x
    obtain ⟨planes, hafter, hrest⟩ := ih (h.withPlanes first)
    refine ⟨planes, ?_, fun y hy => ?_⟩
    · rw [after, hfirst, hafter]
    · refine (hrest y hy).trans ?_
      rw [hcontents y hy]
      cases x <;> rfl

/-- Folded addressing is a flat memory: inside the aperture a read finds what was last written to
its address, or what was there at first; outside a read finds all ones and a write is void. -/
theorem answers_flat (h : a.Folds) (accesses : List HostAccess) (i : Nat) (address : UInt32) :
    (accesses[i]? = some (.read address) → (a.answers accesses)[i]? = some (some
      (if a.Decodes address then
        HostAccess.latest address (a.contents address) (accesses.take i)
      else 0xFF))) ∧
    ∀ v, accesses[i]? = some (.write address v) → ¬ a.Decodes address →
      a.after (accesses.take (i + 1)) = a.after (accesses.take i) := by
  obtain ⟨planes, hafter, hcontents⟩ := h.exists_after (accesses.take i)
  refine ⟨fun hread => ?_, fun v hwrite haddress => ?_⟩
  · rw [answers_getElem?, hread, Option.map_some, access, hafter]
    by_cases haddress : a.Decodes address
    · rw [(h.withPlanes planes).hostRead haddress, hcontents address haddress, if_pos haddress]
    · have houtside : ¬ { a with planes := planes }.Decodes address := haddress
      rw [hostRead_of_not_decodes houtside, if_neg haddress]
  · have houtside : ¬ { a with planes := planes }.Decodes address := haddress
    rw [a.after_take_succ hwrite, hafter, access]
    exact hostWrite_of_not_decodes houtside v

/-- Chained planes behind the 128 KiB aperture: its last two bytes, and the address past them. -/
theorem answers_flat_chained :
    let a : Adapter :=
      { Adapter.powerOn with sequencer := ((RegisterBank.blank 5).write 2 0x0F).write 4 0x0E }
    a.Folds ∧
      (a.answers [.write 0xBFFFF 7, .write 0xBFFFE 9, .write 0xC0000 5, .read 0xBFFFF])[3]? =
        some (some 7) := by
  intro a
  have h : a.Folds := .chained (by decide) (by decide)
  have hinside : a.Decodes 0xBFFFF := by decide
  have hflat := (h.answers_flat
    [.write 0xBFFFF 7, .write 0xBFFFE 9, .write 0xC0000 5, .read 0xBFFFF] 3 0xBFFFF).1 rfl
  rw [if_pos hinside] at hflat
  exact ⟨h, hflat⟩

end Folds

end Adapter

end VgaFirmware
