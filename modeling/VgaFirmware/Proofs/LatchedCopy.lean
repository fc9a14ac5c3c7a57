import VgaFirmware.Proofs.WriteMasks

/-!
# Copying through the latches

In write mode 1 a host write takes no data from the host: the column of the planes that the last
read left in the latches goes to its address, in all open planes at once. So pairs of a read and a
write copy column after column, also where two addresses are folded onto one offset. A block that
is copied to offsets of its own arrives exactly (`copies_through_latches`).
-/

namespace VgaFirmware

/-! ## Columns -/

namespace PlaneMemory

variable {s : PlaneSet} {p : Plane}

/-- Copies the bytes at an offset to another one, in the planes of a set. -/
def copyColumn (m : PlaneMemory) (s : PlaneSet) (source target : UInt16) : PlaneMemory :=
  m.setColumn target s fun p => m.get p source

/-- Copies columns one after the other, each from the first to the second of two offsets. -/
def copyColumns (m : PlaneMemory) (s : PlaneSet) (pairs : List (UInt16 × UInt16)) : PlaneMemory :=
  pairs.foldl (fun m pair => m.copyColumn s pair.1 pair.2) m

theorem get_copyColumn (m : PlaneMemory) (s : PlaneSet) (source target : UInt16) (p : Plane)
    (off : UInt16) :
    (m.copyColumn s source target).get p off =
      if off = target ∧ s.has p = true then m.get p source else m.get p off :=
  m.get_setColumn target s _ p off

/-- Copies reach their targets only, in the planes of the set. -/
theorem get_copyColumns_of_kept (m : PlaneMemory) {pairs : List (UInt16 × UInt16)} {off : UInt16}
    (h : s.has p = true → ∀ pair ∈ pairs, off ≠ pair.2) :
    (m.copyColumns s pairs).get p off = m.get p off := by
  induction pairs generalizing m with
  | nil => rfl
  | cons pair rest ih =>
    have hrest : s.has p = true → ∀ pair ∈ rest, off ≠ pair.2 :=
      fun hp => (List.forall_mem_cons.mp (h hp)).2
    refine (ih (m.copyColumn s pair.1 pair.2) hrest).trans ?_
    rw [get_copyColumn, if_neg]
    rintro ⟨htarget, hp⟩
    exact (List.forall_mem_cons.mp (h hp)).1 htarget

/-- Where no source is a target, and no target has two sources, every column arrives. -/
theorem get_copyColumns_target (m : PlaneMemory) (hp : s.has p = true)
    {pairs : List (UInt16 × UInt16)} (hdisjoint : ∀ x ∈ pairs, ∀ y ∈ pairs, x.1 ≠ y.2)
    (hsource : ∀ x ∈ pairs, ∀ y ∈ pairs, x.2 = y.2 → x.1 = y.1) {x : UInt16 × UInt16}
    (hx : x ∈ pairs) : (m.copyColumns s pairs).get p x.2 = m.get p x.1 := by
  induction pairs generalizing m x with
  | nil => simp at hx
  | cons first rest ih =>
    have hfirst : first ∈ first :: rest := List.mem_cons_self
    have hmem {y : UInt16 × UInt16} (hy : y ∈ rest) : y ∈ first :: rest := List.mem_cons_of_mem _ hy
    -- the first copy leaves all sources as they were
    have hrest {y : UInt16 × UInt16} (hy : y ∈ rest) :
        (m.copyColumns s (first :: rest)).get p y.2 = m.get p y.1 := by
      refine (ih (m.copyColumn s first.1 first.2)
        (fun u hu v hv => hdisjoint u (hmem hu) v (hmem hv))
        (fun u hu v hv => hsource u (hmem hu) v (hmem hv)) hy).trans ?_
      rw [get_copyColumn, if_neg]
      exact fun htarget => hdisjoint y (hmem hy) first hfirst htarget.1
    rcases List.mem_cons.mp hx with rfl | hx
    · by_cases hagain : ∃ y ∈ rest, y.2 = x.2
      · obtain ⟨y, hy, htarget⟩ := hagain
        rw [← htarget, hrest hy, hsource y (hmem hy) x hfirst htarget]
      · refine (get_copyColumns_of_kept (m.copyColumn s x.1 x.2)
          fun _ y hy htarget => hagain ⟨y, hy, htarget.symm⟩).trans ?_
        rw [get_copyColumn, if_pos ⟨rfl, hp⟩]
    · exact hrest hx

end PlaneMemory

/-! ## Moves -/

/-- A read of one address and a write of another, which carries some byte. -/
structure LatchedMove where
  source : UInt32
  target : UInt32
  hostByte : UInt8
  deriving DecidableEq, Repr

namespace LatchedMove

def accesses (x : LatchedMove) : List HostAccess := [.read x.source, .write x.target x.hostByte]

/-- The moves between two ranges of addresses, upwards; the writes carry the given bytes. -/
def block (source target : UInt32) (bytes : List UInt8) : List LatchedMove :=
  bytes.mapIdx fun i v => ⟨source + UInt32.ofNat i, target + UInt32.ofNat i, v⟩

end LatchedMove

/-- Every aperture ends with the display memory of the address space. -/
theorem Aperture.end_le (a : Aperture) : a.base + a.size ≤ 0xC0000 := by
  cases a <;> decide

namespace Adapter

variable {a : Adapter} {first : UInt32}

/-- The offset of the planes that an address selects. -/
def planeOffset (a : Adapter) (address : UInt32) : UInt16 :=
  UInt16.ofNat (address.toNat - a.graphicsMisc.aperture.base)

/-- The offsets of the planes between which a move copies. -/
def offsets (a : Adapter) (x : LatchedMove) : UInt16 × UInt16 :=
  (a.planeOffset x.source, a.planeOffset x.target)

/-- A move fills the latches from its source and stores them at its target. -/
theorem after_accesses (h : a.addressing = .planar) (hmode : a.writeControl.mode = .latched)
    {x : LatchedMove} (hx : a.Decodes x.source ∧ a.Decodes x.target) :
    a.after x.accesses =
      { a with
        latches := a.planes.column (a.planeOffset x.source)
        planes := a.planes.copyColumn a.mapMask (a.offsets x).1 (a.offsets x).2 } := by
  let latched := { a with latches := a.planes.column (a.planeOffset x.source) }
  have hread : (a.hostRead x.source.toNat).2 = latched := by
    rw [hostRead_of_planar h hx.1]
    rfl
  have hwrite : latched.hostWrite x.target.toNat x.hostByte =
      latched.writeColumn (a.planeOffset x.target) x.hostByte :=
    hostWrite_of_planar (a := latched) h hx.2 x.hostByte
  have hlatched : latched.writeControl.mode = .latched := hmode
  have hafter : a.after x.accesses =
      (a.hostRead x.source.toNat).2.hostWrite x.target.toNat x.hostByte := rfl
  rw [hafter, hread, hwrite, writeColumn, if_pos hlatched]
  simp only [WriteControl.result_latched hlatched, latched, PlaneMemory.get_column]
  rfl

/-- A sequence of moves copies column after column. -/
theorem after_moves (h : a.addressing = .planar) (hmode : a.writeControl.mode = .latched)
    {moves : List LatchedMove} (hmoves : ∀ x ∈ moves, a.Decodes x.source ∧ a.Decodes x.target) :
    let b := a.after (moves.flatMap LatchedMove.accesses)
    b = { a with
      latches := b.latches
      planes := a.planes.copyColumns a.mapMask (moves.map a.offsets) } := by
  induction moves generalizing a with
  | nil => rfl
  | cons x rest ih =>
    obtain ⟨hx, hrest⟩ := List.forall_mem_cons.mp hmoves
    have hfirst := after_accesses h hmode hx
    have hsplit : a.after ((x :: rest).flatMap LatchedMove.accesses) =
        (a.after x.accesses).after (rest.flatMap LatchedMove.accesses) := rfl
    rw [hsplit, hfirst]
    exact ih (a := { a with latches := _, planes := _ }) h hmode hrest

/-! ## Ranges of addresses -/

/-- Inside the aperture addresses do not wrap. -/
theorem toNat_add_of_decodes {i : Nat} (h : ∀ k ≤ i, a.Decodes (first + UInt32.ofNat k)) :
    (first + UInt32.ofNat i).toNat = first.toNat + i := by
  induction i with
  | zero => exact congrArg UInt32.toNat (UInt32.add_zero first)
  | succ i ih =>
    have hnext : first + UInt32.ofNat (i + 1) = first + UInt32.ofNat i + 1 := by
      rw [UInt32.ofNat_add, UInt32.add_assoc]
      rfl
    have hi := ih fun k hk => h k (by omega)
    have hlast := (h i (by omega)).2
    have hend := a.graphicsMisc.aperture.end_le
    rw [hnext, UInt32.toNat_add, hi]
    rw [hi] at hlast
    exact Nat.mod_eq_of_lt (by simp only [UInt32.reduceToNat]; omega)

/-- Offsets run in step with the addresses of a range. -/
theorem planeOffset_add {i : Nat} (h : ∀ k ≤ i, a.Decodes (first + UInt32.ofNat k)) :
    a.planeOffset (first + UInt32.ofNat i) = a.planeOffset first + UInt16.ofNat i := by
  have hfirst := (h 0 (Nat.zero_le i)).1
  have hzero : first + UInt32.ofNat 0 = first := UInt32.add_zero first
  rw [hzero] at hfirst
  rw [planeOffset, toNat_add_of_decodes h, planeOffset, ← UInt16.ofNat_add]
  exact congrArg UInt16.ofNat (by omega)

variable {source target : UInt32} {bytes : List UInt8}

theorem mem_offsets_block {pair : UInt16 × UInt16} :
    pair ∈ (LatchedMove.block source target bytes).map a.offsets ↔
      ∃ i < bytes.length, pair =
        (a.planeOffset (source + UInt32.ofNat i), a.planeOffset (target + UInt32.ofNat i)) := by
  constructor
  · intro h
    obtain ⟨x, hx, rfl⟩ := List.mem_map.mp h
    obtain ⟨i, hi, rfl⟩ := List.mem_mapIdx.mp hx
    exact ⟨i, hi, rfl⟩
  · rintro ⟨i, hi, rfl⟩
    exact List.mem_map.mpr ⟨_, List.mem_mapIdx.mpr ⟨i, hi, rfl⟩, rfl⟩

/-- A range of addresses selects an offset twice only where another one of its length does, too. -/
theorem planeOffset_eq_of_eq {n i j : Nat} (hi : i < n) (hj : j < n)
    (hsource : ∀ k < n, a.Decodes (source + UInt32.ofNat k))
    (htarget : ∀ k < n, a.Decodes (target + UInt32.ofNat k))
    (heq : a.planeOffset (target + UInt32.ofNat i) = a.planeOffset (target + UInt32.ofNat j)) :
    a.planeOffset (source + UInt32.ofNat i) = a.planeOffset (source + UInt32.ofNat j) := by
  have hsum {first : UInt32} (h : ∀ k < n, a.Decodes (first + UInt32.ofNat k)) {k : Nat}
      (hk : k < n) :
      a.planeOffset (first + UInt32.ofNat k) = a.planeOffset first + UInt16.ofNat k :=
    planeOffset_add fun l hl => h l (by omega)
  rw [hsum htarget hi, hsum htarget hj, UInt16.add_right_inj] at heq
  rw [hsum hsource hi, hsum hsource hj, heq]

/-- A range that is copied to offsets of its own arrives in the planes of the set. -/
theorem get_copyColumns_block {m : PlaneMemory} {s : PlaneSet} {p : Plane} (hp : s.has p = true)
    (hsource : ∀ i < bytes.length, a.Decodes (source + UInt32.ofNat i))
    (htarget : ∀ i < bytes.length, a.Decodes (target + UInt32.ofNat i))
    (hdisjoint : ∀ i < bytes.length, ∀ j < bytes.length,
      a.planeOffset (source + UInt32.ofNat i) ≠ a.planeOffset (target + UInt32.ofNat j))
    {i : Nat} (hi : i < bytes.length) :
    (m.copyColumns s ((LatchedMove.block source target bytes).map a.offsets)).get p
        (a.planeOffset (target + UInt32.ofNat i)) =
      m.get p (a.planeOffset (source + UInt32.ofNat i)) := by
  let pair := (a.planeOffset (source + UInt32.ofNat i), a.planeOffset (target + UInt32.ofNat i))
  have hpair : pair ∈ (LatchedMove.block source target bytes).map a.offsets :=
    mem_offsets_block.mpr ⟨i, hi, rfl⟩
  refine m.get_copyColumns_target (x := pair) hp (fun x hx y hy => ?_) (fun x hx y hy => ?_) hpair
  · obtain ⟨i, hi, rfl⟩ := mem_offsets_block.mp hx
    obtain ⟨j, hj, rfl⟩ := mem_offsets_block.mp hy
    exact hdisjoint i hi j hj
  · obtain ⟨i, hi, rfl⟩ := mem_offsets_block.mp hx
    obtain ⟨j, hj, rfl⟩ := mem_offsets_block.mp hy
    exact planeOffset_eq_of_eq hi hj hsource htarget

/-- In write mode 1 moves copy columns of the open planes, in order and whatever the write path does
otherwise, and change nothing else but the latches. A block that goes to other offsets than it comes
from arrives exactly. -/
theorem copies_through_latches (h : a.addressing = .planar)
    (hmode : a.writeControl.mode = .latched) :
    (∀ moves : List LatchedMove, (∀ x ∈ moves, a.Decodes x.source ∧ a.Decodes x.target) →
      let b := a.after (moves.flatMap LatchedMove.accesses)
      b = { a with
        latches := b.latches
        planes := a.planes.copyColumns a.mapMask (moves.map a.offsets) }) ∧
    ∀ (source target : UInt32) (bytes : List UInt8),
      (∀ i < bytes.length, a.Decodes (source + UInt32.ofNat i)) →
      (∀ i < bytes.length, a.Decodes (target + UInt32.ofNat i)) →
      (∀ i < bytes.length, ∀ j < bytes.length,
        a.planeOffset (source + UInt32.ofNat i) ≠ a.planeOffset (target + UInt32.ofNat j)) →
      let b := a.after ((LatchedMove.block source target bytes).flatMap LatchedMove.accesses)
      b = { a with latches := b.latches, planes := b.planes } ∧
      (∀ p, a.mapMask.has p = true → ∀ i < bytes.length,
        b.planes.get p (a.planeOffset (target + UInt32.ofNat i)) =
          a.planes.get p (a.planeOffset (source + UInt32.ofNat i))) ∧
      ∀ p off, b.planes.get p off ≠ a.planes.get p off →
        a.mapMask.has p = true ∧
          ∃ i < bytes.length, off = a.planeOffset (target + UInt32.ofNat i) := by
  refine ⟨fun moves hmoves => after_moves h hmode hmoves,
    fun source target bytes hsource htarget hdisjoint => ?_⟩
  have hblock : ∀ x ∈ LatchedMove.block source target bytes,
      a.Decodes x.source ∧ a.Decodes x.target := by
    intro x hx
    obtain ⟨i, hi, rfl⟩ := List.mem_mapIdx.mp hx
    exact ⟨hsource i hi, htarget i hi⟩
  intro b
  have hb : b = _ := after_moves h hmode hblock
  have hplanes : b.planes = _ := congrArg Adapter.planes hb
  rw [hplanes]
  refine ⟨hb, fun p hp i hi => get_copyColumns_block hp hsource htarget hdisjoint hi,
    fun p off hchanged => ?_⟩
  by_contra hnot
  refine hchanged (a.planes.get_copyColumns_of_kept fun hp pair hpair hoff => hnot ⟨hp, ?_⟩)
  obtain ⟨i, hi, rfl⟩ := mem_offsets_block.mp hpair
  exact ⟨i, hi, hoff⟩

/-- Three columns from the end of the planes and round to their start, with the read mode, the bit
mask and the raster operation set to what would spoil other writes. -/
theorem copies_through_latches_wrapping :
    let a : Adapter :=
      { Adapter.powerOn with
        sequencer := ((RegisterBank.blank 5).write 2 0x0B).write 4 0x06
        graphics := (((RegisterBank.blank 9).write 3 0x19).write 5 0x09).write 8 0x3C
        planes := PlaneMemory.blank.set 3 0 0x77 }
    a.addressing = .planar ∧ a.writeControl.mode = .latched ∧
      (∀ i < 3, a.Decodes (0xAFFFE + UInt32.ofNat i)) ∧
      (∀ i < 3, a.Decodes (0xB0010 + UInt32.ofNat i)) ∧
      (∀ i < 3, ∀ j < 3, a.planeOffset (0xAFFFE + UInt32.ofNat i) ≠
        a.planeOffset (0xB0010 + UInt32.ofNat j)) ∧
      (a.after ((LatchedMove.block 0xAFFFE 0xB0010 [1, 2, 3]).flatMap
        LatchedMove.accesses)).planes.get 3 0x12 = 0x77 := by
  intro a
  have hplanar : a.addressing = .planar := by decide
  have hmode : a.writeControl.mode = .latched := by decide
  have hsource : ∀ i < 3, a.Decodes (0xAFFFE + UInt32.ofNat i) := by decide
  have htarget : ∀ i < 3, a.Decodes (0xB0010 + UInt32.ofNat i) := by decide
  have hdisjoint : ∀ i < 3, ∀ j < 3, a.planeOffset (0xAFFFE + UInt32.ofNat i) ≠
      a.planeOffset (0xB0010 + UInt32.ofNat j) := by decide
  have hfrom : a.planeOffset (0xAFFFE + UInt32.ofNat 2) = 0 := by decide
  have hto : a.planeOffset (0xB0010 + UInt32.ofNat 2) = 0x12 := by decide
  have hstored : a.planes.get 3 0 = 0x77 :=
    (PlaneMemory.blank.get_set 3 3 0 0 0x77).trans (if_pos ⟨rfl, rfl⟩)
  obtain ⟨-, harrives, -⟩ := (copies_through_latches hplanar hmode).2 0xAFFFE 0xB0010 [1, 2, 3]
    hsource htarget hdisjoint
  have hlast := harrives 3 (by decide) 2 (by decide)
  rw [hfrom, hto, hstored] at hlast
  exact ⟨hplanar, hmode, hsource, htarget, hdisjoint, hlast⟩

end Adapter

end VgaFirmware
