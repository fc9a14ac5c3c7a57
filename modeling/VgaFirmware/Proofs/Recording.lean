import VgaFirmware.Machine.Recorder
import VgaFirmware.Proofs.CallerMemory

/-!
# A board without an adapter follows one that has it

Between a board and a recorder that run the same operations, window, registers, and memory
outside the adapter's addresses stay the same, and so does the record of bus cycles (`Follows`).
What display memory holds differs, but work inside a view never lets that out
(`Machine.Follows.edit`).
-/

namespace VgaFirmware

/-- An index of `k` bits is not changed by the mask. -/
theorem UInt8.and_mask {i mask : UInt8} {k : Nat} (hmask : mask.toNat = 1 <<< k - 1)
    (h : i.toNat < 1 <<< k) : i &&& mask = i := by
  rw [Nat.one_shiftLeft] at hmask h
  apply UInt8.toNat_inj.mp
  rw [UInt8.toNat_and, hmask]
  exact Nat.and_two_pow_sub_one_of_lt_two_pow h

namespace Controller

/-- The registers of a bank that both boards have, but for the one that protects others. -/
def has (i : UInt8) : Controller → Bool
  | sequencer => i.toNat < 5
  | graphics => i.toNat < 9
  | crtc _ => i.toNat < 25 && i != 0x11

/-- How far an index counts on a recorder. -/
def indexMask : Controller → UInt8
  | sequencer => 0x07
  | graphics => 0x0F
  | crtc _ => 0x1F

theorem lt_of_has {base : CrtcBase} {i : UInt8} (h : (crtc base).has i = true) :
    i.toNat < 25 ∧ i ≠ 0x11 := by
  simpa [has] using h

theorem and_indexMask {c : Controller} {i : UInt8} (h : c.has i = true) :
    i &&& c.indexMask = i := by
  cases c with
  | sequencer =>
    have hi : i.toNat < 5 := of_decide_eq_true h
    exact UInt8.and_mask (k := 3) rfl (by omega)
  | graphics =>
    have hi : i.toNat < 9 := of_decide_eq_true h
    exact UInt8.and_mask (k := 4) rfl (by omega)
  | crtc base =>
    have hi := (lt_of_has h).1
    exact UInt8.and_mask (k := 5) rfl (by omega)

end Controller

namespace Recorder

/-- The register of a bank. -/
def readIndexed (r : Recorder) (i : UInt8) : Controller → UInt8
  | .sequencer => r.sequencer.read i
  | .graphics => r.graphics.read i
  | .crtc _ => r.crtc.read i

/-- Selects a register of a bank. -/
def selectIndexed (r : Recorder) (i : UInt8) : Controller → Recorder
  | .sequencer => { r with sequencer := r.sequencer.select i }
  | .graphics => { r with graphics := r.graphics.select i }
  | .crtc _ => { r with crtc := r.crtc.select i }

/-- Selects a register of a bank and writes it. -/
def writeIndexed (r : Recorder) (i v : UInt8) : Controller → Recorder
  | .sequencer => { r with sequencer := (r.sequencer.write i v).select i }
  | .graphics => { r with graphics := (r.graphics.write i v).select i }
  | .crtc _ => { r with crtc := (r.crtc.write i v).select i }

variable (r : Recorder) {c : Controller} {i : UInt8}

theorem writePort_indexPort (c : Controller) (i : UInt8) :
    r.writePort c.indexPort i = r.selectIndexed i c := by
  match c with
  | .sequencer | .graphics | .crtc .mono | .crtc .colour => rfl

theorem writePort_valuePort (h : c.has i = true) (v : UInt8) :
    (r.selectIndexed i c).writePort c.valuePort v = r.writeIndexed i v c := by
  have hmasked : (r.selectIndexed i c).writePort c.valuePort v =
      (r.writeIndexed (i &&& c.indexMask) v c).selectIndexed i c := by
    match c with
    | .sequencer | .graphics | .crtc .mono | .crtc .colour => rfl
  rw [hmasked, Controller.and_indexMask h]
  cases c <;> rfl

theorem readPort_valuePort (h : c.has i = true) :
    (r.selectIndexed i c).readPort c.valuePort = r.readIndexed i c := by
  have hmasked : (r.selectIndexed i c).readPort c.valuePort =
      r.readIndexed (i &&& c.indexMask) c := by
    match c with
    | .sequencer | .graphics | .crtc .mono | .crtc .colour => rfl
  rw [hmasked, Controller.and_indexMask h]

/-- The recorder follows a board: same window, same registers as far as the board has them, and
the same memory outside the adapter's addresses. -/
structure Follows (b : Board .word) (r : Recorder) : Prop where
  window : r.window = b.window
  sequencer : ∀ i : UInt8, i.toNat < 5 → r.sequencer.read i = b.adapter.sequencer.read i
  graphics : ∀ i : UInt8, i.toNat < 9 → r.graphics.read i = b.adapter.graphics.read i
  crtc : ∀ i : UInt8, i.toNat < 25 → r.crtc.read i = b.adapter.crtc.read i
  ram : ∀ a : Address, a.isDisplay = false → r.ram.get a = b.ram.get a
  unprotected : b.adapter.Unprotected

end Recorder

namespace RegisterBank

/-- Banks that agree up to a length go on to do so when both are written. -/
theorem read_write_congr {m n k : Nat} {b : RegisterBank m} {c : RegisterBank n}
    (h : ∀ i : UInt8, i.toNat < k → c.read i = b.read i) (hm : k ≤ m) (hn : k ≤ n) (i v : UInt8)
    {j : UInt8} (hj : j.toNat < k) : (c.write i v).read j = (b.write i v).read j := by
  rw [read_write, read_write, h j hj]
  by_cases hij : j = i
  · subst hij
    rw [if_pos ⟨rfl, by omega⟩, if_pos ⟨rfl, by omega⟩]
  · simp [hij]

end RegisterBank

namespace Recorder.Follows

variable {b c : Board .word} {r t : Recorder}

theorem readIndexed (h : Follows b r) {k : Controller} {i : UInt8} (hi : k.has i = true) :
    r.readIndexed i k = b.adapter.readIndexed i k := by
  cases k with
  | sequencer => exact h.sequencer i (of_decide_eq_true hi)
  | graphics => exact h.graphics i (of_decide_eq_true hi)
  | crtc base => exact h.crtc i (Controller.lt_of_has hi).1

theorem selectIndexed (h : Follows b r) (k : Controller) (i : UInt8) :
    Follows (b.updateAdapter (·.selectIndexed i k)) (r.selectIndexed i k) := by
  cases k <;> exact ⟨h.window, h.sequencer, h.graphics, h.crtc, h.ram, h.unprotected⟩

theorem writeIndexed (h : Follows b r) {k : Controller} {i : UInt8} (hi : k.has i = true)
    (v : UInt8) : Follows (b.updateAdapter (·.writeIndexed i v k)) (r.writeIndexed i v k) := by
  cases k with
  | sequencer =>
    exact { h with
      sequencer _ hj := RegisterBank.read_write_congr h.sequencer (by decide) (by decide) i v hj }
  | graphics =>
    exact { h with
      graphics _ hj := RegisterBank.read_write_congr h.graphics (by decide) (by decide) i v hj }
  | crtc base =>
    have hne : (0x11 : UInt8) ≠ i := (Controller.lt_of_has hi).2.symm
    have hwrite : b.updateAdapter (·.writeIndexed i v (.crtc base)) =
        b.updateAdapter fun a => { a with crtc := (a.crtc.write i v).select i } :=
      congrArg (Board.mk b.window b.ram) (h.unprotected.writeIndexed_crtc base i v)
    rw [hwrite]
    exact { h with
      crtc _ hj := RegisterBank.read_write_congr h.crtc (by decide) (by decide) i v hj
      unprotected := h.unprotected.write hne v }

/-- Nothing shows of a step that leaves window, registers, and memory outside the adapter's
addresses as they are. -/
theorem of_sameRegisters (h : Follows b r) (hb : b.SameRegisters [] c)
    (hram : ∀ a : Address, a.isDisplay = false → c.ram.get a = b.ram.get a) : Follows c r where
  window := h.window.trans hb.window.symm
  sequencer i hi := (h.sequencer i hi).trans (hb.sequencer i).symm
  graphics i hi := (h.graphics i hi).trans (hb.graphics i).symm
  crtc i hi := (h.crtc i hi).trans (hb.crtc i List.not_mem_nil).symm
  ram a ha := (h.ram a ha).trans (hram a ha).symm
  unprotected := hb.unprotected List.not_mem_nil h.unprotected

end Recorder.Follows

/-! ## Memory -/

/-- Same registers and window, and the same memory outside the adapter's addresses. -/
structure Recorder.SameElsewhere (r t : Recorder) : Prop where
  sequencer : t.sequencer = r.sequencer
  graphics : t.graphics = r.graphics
  crtc : t.crtc = r.crtc
  window : t.window = r.window
  ram : ∀ a : Address, a.isDisplay = false → t.ram.get a = r.ram.get a

/-- Outside the adapter's addresses a store is one to memory. -/
theorem Board.ram_store_get {bus : BusWidth} {b : Board bus} {off : UInt16} {v : UInt8}
    {a : Address} (ha : a.isDisplay = false) :
    (Backend.store b off v).ram.get a =
      if a = .ofSegment b.window off then v else b.ram.get a := by
  change (b.write (.ofSegment b.window off) v).ram.get a = _
  by_cases hshown : (Address.ofSegment b.window off).isDisplay = true
  · have hne : a ≠ .ofSegment b.window off := by
      rintro rfl
      rw [hshown] at ha
      cases ha
    rw [Board.write, if_pos hshown, Board.ram_updateAdapter, if_neg hne]
  · rw [Board.write, if_neg hshown]
    exact b.ram.get_set _ a v

namespace Recorder

theorem SameElsewhere.refl (r : Recorder) : SameElsewhere r r :=
  ⟨rfl, rfl, rfl, rfl, fun _ _ => rfl⟩

/-- Through a window over the adapter's addresses only these change. -/
theorem sameElsewhere_of_accesses {r t : Recorder}
    (hr : ∀ off, (Address.ofSegment r.window off).isDisplay = true)
    (h : Backend.Accesses r t) : SameElsewhere r t := by
  refine h.keeps (P := SameElsewhere r) (fun _ _ hu => hu) ?_ (fun _ _ hu => hu) (.refl r)
  intro u off v hu
  refine { hu with ram := fun a ha => ?_ }
  have hne : a ≠ .ofSegment u.window off := by
    rintro rfl
    rw [hu.window, hr off] at ha
    cases ha
  exact (u.ram.get_set _ a v).trans ((if_neg hne).trans (hu.ram a ha))

namespace Follows

variable {b c : Board .word} {r t : Recorder}

theorem of_sameElsewhere (h : Follows b r) (g : SameElsewhere r t) : Follows b t where
  window := g.window.trans h.window
  sequencer i hi := by rw [g.sequencer, h.sequencer i hi]
  graphics i hi := by rw [g.graphics, h.graphics i hi]
  crtc i hi := by rw [g.crtc, h.crtc i hi]
  ram a ha := (g.ram a ha).trans (h.ram a ha)
  unprotected := h.unprotected

/-- Whatever is read and written through a window over the adapter, on the one and on the other,
none of it shows. -/
theorem of_accesses (h : Follows b r) (hb : b.Shielded) (hc : Backend.Accesses b c)
    (ht : Backend.Accesses r t) : Follows c t := by
  have hr (off : UInt16) : (Address.ofSegment r.window off).isDisplay = true := by
    rw [h.window]
    exact hb off
  refine (h.of_sameElsewhere (sameElsewhere_of_accesses hr ht)).of_sameRegisters
    (Board.sameRegisters_of_accesses hc) fun a _ => ?_
  rw [(hb.accesses hc).2]

theorem load (h : Follows b r) (off : UInt16) :
    Follows (Backend.load b off).2 (Backend.load r off).2 :=
  h.of_sameRegisters (b.sameRegisters_read _) fun a _ =>
    congrArg (Ram.get · a) (b.sameMemory_read _).ram

theorem fetch (h : Follows b r) (a : UInt32) :
    Follows (Backend.fetch b a).2 (Backend.fetch r a).2 :=
  h.of_sameRegisters (b.sameRegisters_read _) fun a _ =>
    congrArg (Ram.get · a) (b.sameMemory_read _).ram

theorem fst_fetch (h : Follows b r) {a : UInt32} (ha : (Address.ofLinear a).isDisplay = false) :
    (Backend.fetch r a).1 = (Backend.fetch b a).1 := by
  have hb : Backend.fetch b a = (b.ram.get (.ofLinear a), b) := by
    change b.read (.ofLinear a) = _
    rw [Board.read, ha]
    rfl
  rw [hb]
  exact h.ram _ ha

/-- A byte goes to the same place of both memories, or to display memory. -/
theorem store (h : Follows b r) (off : UInt16) (v : UInt8) :
    Follows (Backend.store b off v) (Backend.store r off v) := by
  have hregisters : b.SameRegisters [] (Backend.store b off v) := b.sameRegisters_write _ v
  have hram (a : Address) (ha : a.isDisplay = false) :
      (Backend.store r off v).ram.get a = (Backend.store b off v).ram.get a := by
    rw [Board.ram_store_get ha, ← h.window, ← h.ram a ha]
    exact r.ram.get_set _ a v
  exact ⟨h.window.trans hregisters.window.symm,
    fun i hi => (h.sequencer i hi).trans (hregisters.sequencer i).symm,
    fun i hi => (h.graphics i hi).trans (hregisters.graphics i).symm,
    fun i hi => (h.crtc i hi).trans (hregisters.crtc i List.not_mem_nil).symm, hram,
    hregisters.unprotected List.not_mem_nil h.unprotected⟩

theorem loadWord (h : Follows b r) (off : UInt16) :
    Follows (Backend.loadWord b off).2 (Backend.loadWord r off).2 :=
  (h.load off).load (off + 1)

theorem storeWord (h : Follows b r) (off w : UInt16) :
    Follows (Backend.storeWord b off w) (Backend.storeWord r off w) :=
  (h.store off _).store (off + 1) _

theorem fillWords (h : Follows b r) (dst w : UInt16) (count : Nat) :
    Follows (Backend.fillWords b dst w count) (Backend.fillWords r dst w count) := by
  induction count generalizing b r dst with
  | zero => exact h
  | succ count ih => exact ih (h.storeWord dst w) (dst + 2)

end Follows

end Recorder

/-- The addresses at which a search for a zero byte looks. -/
def Backend.scanned {B : Type} [Backend B] (b : B) (a : UInt32) : Nat → List Address
  | 0 => []
  | count + 1 =>
    let (v, b) := Backend.fetch b a
    .ofLinear a :: if v = 0 then [] else Backend.scanned b (a + 1) count

/-- A search looks at successive addresses. -/
theorem Backend.mem_scanned {B : Type} [Backend B] {b : B} {a : UInt32} {count : Nat}
    {x : Address} (h : x ∈ Backend.scanned b a count) :
    ∃ k < count, x = .ofLinear (a + UInt32.ofNat k) := by
  induction count generalizing b a with
  | zero => cases h
  | succ count ih =>
    simp only [Backend.scanned, List.mem_cons] at h
    rcases h with rfl | h
    · exact ⟨0, Nat.zero_lt_succ count, by simp⟩
    · split at h
      · cases h
      · obtain ⟨k, hk, rfl⟩ := ih h
        refine ⟨k + 1, Nat.succ_lt_succ hk, congrArg Address.ofLinear ?_⟩
        rw [UInt32.add_assoc, UInt32.add_comm 1, UInt32.ofNat_add]
        rfl

/-- A search from the bottom of memory cannot reach as far as display memory. -/
theorem Backend.isDisplay_of_scanned_low {B : Type} [Backend B] {b : B} {count : Nat}
    (hcount : count ≤ 0x10000) {x : Address} (h : x ∈ Backend.scanned b 0 count) :
    x.isDisplay = false := by
  obtain ⟨k, hk, rfl⟩ := Backend.mem_scanned h
  have hval : (Address.ofLinear (0 + UInt32.ofNat k)).val = k := by
    simp only [Address.ofLinear, UInt32.zero_add, UInt32.toNat_ofNat']
    omega
  simp only [Address.isDisplay, Bool.and_eq_false_iff, decide_eq_false_iff_not]
  omega

/-- A search that stays clear of display memory finds the same on both. -/
theorem Recorder.Follows.findZero {b : Board .word} {r : Recorder} (h : Follows b r)
    (a : UInt32) (i : Nat) {count : Nat}
    (hscan : ∀ x ∈ Backend.scanned b a count, x.isDisplay = false) :
    (Backend.findZero r a i count).1 = (Backend.findZero b a i count).1 ∧
      Follows (Backend.findZero b a i count).2 (Backend.findZero r a i count).2 := by
  induction count generalizing b r a i with
  | zero => exact ⟨rfl, h⟩
  | succ count ih =>
    have hfetch := h.fst_fetch (hscan _ List.mem_cons_self)
    by_cases hv : (Backend.fetch b a).1 = 0
    · simp only [Backend.findZero, hfetch, if_pos hv]
      exact ⟨trivial, h.fetch a⟩
    · simp only [Backend.findZero, hfetch, if_neg hv]
      refine ih (h.fetch a) (a + 1) (i + 1) fun x hx => hscan x ?_
      simp only [Backend.scanned, if_neg hv]
      exact List.mem_cons_of_mem _ hx

end VgaFirmware
