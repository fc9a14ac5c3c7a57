import VgaFirmware.Proofs.Bracket

/-!
# Windows onto places

A window may show one place at each offset. If distinct offsets show distinct places, the window
is a flat memory (`Shows.flat`), and no access reaches a place that is not on view
(`Shows.byte_of_accesses`). On a board the places are the bytes of the planes and those of the
caller's memory.
-/

namespace VgaFirmware

/-! ## Windows onto places -/

namespace Backend

/-- While `P` holds, the window shows `place off` at `off`: a load gives the byte there, a store
replaces it, and nothing else changes. -/
structure Shows {B L : Type} [Backend B] [DecidableEq L] (P : B → Prop) (byte : B → L → UInt8)
    (place : UInt16 → L) : Prop where
  injective : Function.Injective place
  keeps_load : ∀ {b} (off : UInt16), P b → P (load b off).2
  keeps_store : ∀ {b} (off : UInt16) (v : UInt8), P b → P (store b off v)
  keeps_fetch : ∀ {b} (a : UInt32), P b → P (fetch b a).2
  fst_load : ∀ {b} (off : UInt16), P b → (load b off).1 = byte b (place off)
  byte_load : ∀ {b} (off : UInt16), P b → byte (load b off).2 = byte b
  byte_store : ∀ {b} (off : UInt16) (v : UInt8), P b →
    byte (store b off v) = Function.update (byte b) (place off) v
  byte_fetch : ∀ {b} (a : UInt32), P b → byte (fetch b a).2 = byte b

namespace Shows

variable {B L : Type} [Backend B] [DecidableEq L] {P : B → Prop} {byte : B → L → UInt8}
  {place : UInt16 → L} {b c : B}

theorem flat (shows : Shows P byte place) : Flat P fun b off => byte b (place off) where
  keeps_load := shows.keeps_load
  keeps_store := shows.keeps_store
  keeps_fetch := shows.keeps_fetch
  fst_load := shows.fst_load
  bytes_load off hb := by rw [shows.byte_load off hb]
  bytes_store off v hb := by
    rw [shows.byte_store off v hb]
    exact Function.update_comp_eq_of_injective _ shows.injective off v

/-- Accesses leave all places alone that are not on view. -/
theorem byte_of_accesses (shows : Shows P byte place) (h : Accesses b c) (hb : P b) {l : L}
    (hl : ∀ off, place off ≠ l) : byte c l = byte b l := by
  have key : P c ∧ byte c l = byte b l := by
    refine h.keeps (P := fun d => P d ∧ byte d l = byte b l) ?_ ?_ ?_ ⟨hb, rfl⟩
    · rintro d off ⟨hd, ih⟩
      exact ⟨shows.keeps_load off hd, by rw [shows.byte_load off hd, ih]⟩
    · rintro d off v ⟨hd, ih⟩
      refine ⟨shows.keeps_store off v hd, ?_⟩
      rw [shows.byte_store off v hd, Function.update_of_ne (hl off).symm, ih]
    · rintro d a ⟨hd, ih⟩
      exact ⟨shows.keeps_fetch a hd, by rw [shows.byte_fetch a hd, ih]⟩
  exact key.2

/-- A window onto places is one under any stronger condition that accesses keep up. -/
theorem restrict {Q : B → Prop} (shows : Shows P byte place) (stronger : ∀ {b}, Q b → P b)
    (keeps : ∀ {b c}, Accesses b c → Q b → Q c) : Shows Q byte place where
  injective := shows.injective
  keeps_load off h := keeps (.load .refl off) h
  keeps_store off v h := keeps (.store .refl off v) h
  keeps_fetch a h := keeps (.fetch .refl a) h
  fst_load off h := shows.fst_load off (stronger h)
  byte_load off h := shows.byte_load off (stronger h)
  byte_store off v h := shows.byte_store off v (stronger h)
  byte_fetch a h := shows.byte_fetch a (stronger h)

theorem byte_storeWord (shows : Shows P byte place) (hb : P b) (off w : UInt16) :
    byte (storeWord b off w) =
      Function.update (Function.update (byte b) (place off) (Word.low w)) (place (off + 1))
        (Word.high w) := by
  rw [storeWord, shows.byte_store _ _ (shows.keeps_store off _ hb), shows.byte_store _ _ hb]

/-- Bytes that the caller's memory holds throughout are copied to successive offsets. -/
theorem byte_copyIn (shows : Shows P byte place) (hb : P b) (dst : UInt16) (src : UInt32)
    {count : Nat} (hcount : count ≤ 65536) {data : Nat → UInt8}
    (hdata : ∀ {c}, Accesses b c → ∀ i < count, (fetch c (src + UInt32.ofNat i)).1 = data i)
    (o : UInt16) :
    byte (copyIn b dst src count) (place o) =
      if (o - dst).toNat < count then data (o - dst).toNat else byte b (place o) := by
  induction count generalizing b dst src data with
  | zero => simp [copyIn]
  | succ count ih =>
    have hfirst : (fetch b src).1 = data 0 := by
      simpa using hdata .refl 0 (Nat.zero_lt_succ count)
    have hfetch := shows.keeps_fetch src hb
    have hstore := shows.keeps_store dst (fetch b src).1 hfetch
    have hrest : ∀ {c}, Accesses (store (fetch b src).2 dst (fetch b src).1) c →
        ∀ i < count, (fetch c (src + 1 + UInt32.ofNat i)).1 = data (i + 1) := by
      intro c hc i hi
      have hnext := hdata (((Accesses.refl.fetch src).store dst _).trans hc) (i + 1)
        (Nat.succ_lt_succ hi)
      rwa [Nat.add_comm i 1, UInt32.ofNat_add, ← UInt32.add_assoc, Nat.add_comm 1 i] at hnext
    rw [copyIn, ih hstore (dst + 1) (src + 1) (by omega) hrest, shows.byte_store _ _ hfetch,
      shows.byte_fetch _ hb, hfirst]
    by_cases h : o = dst
    · subst h
      -- the rest of the copy ends before it could come round to the first byte
      have hlast : ¬ (o - (o + 1)).toNat < count := by
        have := o.toNat_lt
        simp only [UInt16.toNat_sub, UInt16.toNat_add, UInt16.reduceToNat]
        omega
      simp only [if_neg hlast, Function.update_self, UInt16.sub_self, UInt16.toNat_zero,
        if_pos (Nat.zero_lt_succ count)]
    · have hne : place o ≠ place dst := fun e => h (shows.injective e)
      simp only [Function.update_of_ne hne, UInt16.toNat_sub_succ h, Nat.add_lt_add_iff_right]

end Shows

end Backend

/-! ## Places on a board -/

/-- Where a byte of a board lies. -/
inductive Place where
  | plane (p : Plane) (off : UInt16)
  | memory (a : Address)
  deriving DecidableEq

namespace Board

variable {bus : BusWidth} {b c : Board bus} {v : View} {start : UInt16}

/-- The byte at a place. -/
def byteAt (b : Board bus) : Place → UInt8
  | .plane p off => b.adapter.planes.get p off
  | .memory a => b.ram.get a

theorem SameMemory.byteAt (h : SameMemory b c) : c.byteAt = b.byteAt := by
  funext l
  cases l with
  | plane p off => simp only [Board.byteAt, h.planes]
  | memory a => simp only [Board.byteAt, h.ram]

theorem byteAt_setPlane (b : Board bus) (p : Plane) (off : UInt16) (x : UInt8) :
    (b.updateAdapter fun a => { a with planes := a.planes.set p off x }).byteAt =
      Function.update b.byteAt (.plane p off) x := by
  funext l
  rw [Function.update_apply]
  cases l with
  | plane q o =>
    simp only [byteAt, adapter_updateAdapter, PlaneMemory.get_set]
    exact if_congr (by simp) rfl rfl
  | memory a => rfl

theorem byteAt_setRam (b : Board bus) (a : Address) (x : UInt8) :
    (b.updateRam (·.set a x)).byteAt = Function.update b.byteAt (.memory a) x := by
  funext l
  rw [Function.update_apply]
  cases l with
  | plane q o => rfl
  | memory c =>
    refine (b.ram.get_set a c x).trans ?_
    exact if_congr (by simp) rfl rfl

theorem sameMemory_read (b : Board bus) (a : Address) : SameMemory b (b.read a).2 := by
  unfold read
  split
  · refine ⟨rfl, ?_⟩
    rw [adapter_queryAdapter, Adapter.hostRead_eq]
  · exact .refl b

/-- Outside the adapter's addresses the caller's memory reads as it is. -/
theorem read_memory (b : Board bus) {a : Address} (ha : a.isDisplay = false) :
    b.read a = (b.ram.get a, b) := by
  rw [Board.read, ha]
  rfl

/-- Host bytes reach the planes as they are. -/
structure Plain (b : Board bus) : Prop where
  setReset : b.adapter.graphics.read 0 = 0
  enableSetReset : b.adapter.graphics.read 1 = 0
  rotate : b.adapter.graphics.read 3 = 0
  bitMask : b.adapter.graphics.read 8 = 0xFF

theorem Inside.plain (h : Inside b c) (hb : b.Plain) : c.Plain where
  setReset := (h.graphics 0 (by decide) (by decide) (by decide)).trans hb.setReset
  enableSetReset := (h.graphics 1 (by decide) (by decide) (by decide)).trans hb.enableSetReset
  rotate := (h.graphics 3 (by decide) (by decide) (by decide)).trans hb.rotate
  bitMask := (h.graphics 8 (by decide) (by decide) (by decide)).trans hb.bitMask

/-- A view of the page at `start` is open. -/
structure Viewing (v : View) (start : UInt16) (b : Board bus) : Prop where
  window : b.window = v.segment start
  registers : ∃ misc, b.adapter.viewRegisters = v.registers misc

/-- A view of the page at `start` is open, over a plain write path. -/
structure Showing (v : View) (start : UInt16) (b : Board bus) : Prop
    extends Viewing v start b where
  plain : b.Plain

theorem viewing_openView (b : Board bus) (v : View) (start : UInt16) :
    (b.openView v start).Viewing v start :=
  ⟨rfl, _, Adapter.viewRegisters_setView _ _⟩

theorem Plain.showing_openView (h : b.Plain) (v : View) (start : UInt16) :
    (b.openView v start).Showing v start where
  toViewing := b.viewing_openView v start
  plain := (b.inside_openView v start).plain h

theorem SameRegisters.viewRegisters {moved : List UInt8} (h : SameRegisters moved b c) :
    c.adapter.viewRegisters = b.adapter.viewRegisters := by
  simp only [Adapter.viewRegisters, h.sequencer, h.graphics]

theorem SameRegisters.viewing (h : SameRegisters [] b c) (hb : b.Viewing v start) :
    c.Viewing v start where
  window := h.window.trans hb.window
  registers := h.viewRegisters.symm ▸ hb.registers

theorem SameRegisters.showing (h : SameRegisters [] b c) (hb : b.Showing v start) :
    c.Showing v start where
  toViewing := h.viewing hb.toViewing
  plain := h.inside.plain hb.plain

/-- A view of one plane becomes the view of another. -/
theorem Viewing.selectPlane {p : Plane} (h : b.Viewing (.plane p) start) (q : Plane) :
    (b.selectPlane q).Viewing (.plane q) start where
  window := h.window
  registers := by
    obtain ⟨misc, hmisc⟩ := h.registers
    have hread : UInt8.ofNat q.val &&& 0x03 = UInt8.ofNat q.val := by revert q; decide
    simp only [Adapter.viewRegisters, View.plane, View.registers, ViewRegisters.mk.injEq] at hmisc
    obtain ⟨-, hmode, -, hgraphics, hmisc⟩ := hmisc
    refine ⟨misc, ?_⟩
    simp only [Adapter.viewRegisters, View.plane, View.registers, ViewRegisters.mk.injEq]
    rw [hread]
    refine ⟨?_, ?_, ?_, ?_, ?_⟩
    · exact RegisterBank.read_write_self _ _ _
    · exact (RegisterBank.read_write_of_ne _ _ (by decide)).trans hmode
    · exact RegisterBank.read_write_self _ _ _
    · exact (RegisterBank.read_write_of_ne _ _ (by decide)).trans hgraphics
    · exact (RegisterBank.read_write_of_ne _ _ (by decide)).trans hmisc

theorem Showing.selectPlane {p : Plane} (h : b.Showing (.plane p) start) (q : Plane) :
    (b.selectPlane q).Showing (.plane q) start where
  toViewing := h.toViewing.selectPlane q
  plain := (b.inside_selectPlane q).plain h.plain

/-- Once each offset is known to show its place, the board behaves as a window onto places. -/
theorem shows_of_read_write {P : Board bus → Prop}
    (keeps : ∀ {b c : Board bus}, SameRegisters [] b c → P b → P c) {place : UInt16 → Place}
    (inj : Function.Injective place)
    (hread : ∀ {b : Board bus} (off : UInt16), P b →
      (b.read (.ofSegment b.window off)).1 = b.byteAt (place off))
    (hwrite : ∀ {b : Board bus} (off : UInt16) (x : UInt8), P b →
      (b.write (.ofSegment b.window off) x).byteAt =
        Function.update b.byteAt (place off) x) :
    Backend.Shows P byteAt place where
  injective := inj
  keeps_load _ h := keeps (sameRegisters_read _ _) h
  keeps_store _ _ h := keeps (sameRegisters_write _ _ _) h
  keeps_fetch _ h := keeps (sameRegisters_read _ _) h
  fst_load off h := hread off h
  byte_load _ _ := (sameMemory_read _ _).byteAt
  byte_store off x h := hwrite off x h
  byte_fetch _ _ := (sameMemory_read _ _).byteAt

/-- A bracket ends with the memory that its work leaves. -/
theorem byteAt_within (b : Board bus) (v : View) (start : UInt16) (work : Board bus → Board bus) :
    (b.within v start work).byteAt = (work (b.openView v start)).byteAt :=
  (sameMemory_within b v start work).byteAt

theorem planes_within (b : Board bus) (v : View) (start : UInt16) (work : Board bus → Board bus) :
    (b.within v start work).adapter.planes = (work (b.openView v start)).adapter.planes :=
  (sameMemory_within b v start work).planes

theorem byteAt_openView (b : Board bus) (v : View) (start : UInt16) :
    (b.openView v start).byteAt = b.byteAt :=
  (sameMemory_openView b v start).byteAt

/-- A bracket leaves all places alone that its view does not show. -/
theorem Plain.byteAt_within_of_ne (h : b.Plain) {place : UInt16 → Place}
    (shows : Backend.Shows (Showing v start : Board bus → Prop) byteAt place)
    {work : Board bus → Board bus}
    (hwork : Backend.Accesses (b.openView v start) (work (b.openView v start))) {l : Place}
    (hl : ∀ off, place off ≠ l) : (b.within v start work).byteAt l = b.byteAt l := by
  rw [byteAt_within, shows.byte_of_accesses hwork (h.showing_openView v start) hl,
    byteAt_openView]

end Board

end VgaFirmware
