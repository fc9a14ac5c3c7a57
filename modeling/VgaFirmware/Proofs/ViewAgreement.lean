import VgaFirmware.Proofs.Nesting
import VgaFirmware.Proofs.PageCells
import VgaFirmware.Proofs.PlaneFill

/-!
# What the views agree on

A word that is stored through the cells view is a byte stored through the view of plane 0 and one
stored through that of plane 1. So a script of word stores leaves the same planes as two scripts of
byte stores, one after the other (`byteAt_cells_eq_planes`), and words read back as the bytes do.
-/

namespace VgaFirmware

/-- Steps of two kinds, in turn, are all steps of one kind and then all of the other, if steps of
different kinds commute. -/
theorem List.foldl_in_turn {σ α : Type} {f g : σ → α → σ}
    (comm : ∀ s x y, f (g s x) y = g (f s y) x) (xs : List α) (s : σ) :
    xs.foldl (fun s x => g (f s x) x) s = xs.foldl g (xs.foldl f s) := by
  induction xs generalizing s with
  | nil => rfl
  | cons x xs ih =>
    have hlate : xs.foldl f (g (f s x) x) = g (xs.foldl f (f s x)) x :=
      List.foldl_hom (g · x) fun s y => comm s x y
    rw [List.foldl_cons, ih, hlate]
    rfl

/-- A run of accesses changes what its steps change. -/
theorem Backend.Shows.byte_foldl {B L α : Type} [Backend B] [DecidableEq L] {P : B → Prop}
    {byte : B → L → UInt8} {place : UInt16 → L} (shows : Shows P byte place) {act : B → α → B}
    {change : (L → UInt8) → α → L → UInt8} (haccess : ∀ b x, Accesses b (act b x))
    (hchange : ∀ {b} x, P b → byte (act b x) = change (byte b) x) {b : B} (hb : P b)
    (xs : List α) : byte (xs.foldl act b) = xs.foldl change (byte b) := by
  induction xs generalizing b with
  | nil => rfl
  | cons x xs ih =>
    have hnext := shows.flat.keeps (haccess b x) hb
    rw [List.foldl_cons, ih hnext, hchange x hb]
    rfl

namespace Action

variable {bus : BusWidth} {α : Type} (enclosing : Option Saved) (m : Machine (Board bus))

/-! ## Scripts of one kind of step -/

variable (step : α → Action) (act : Board bus → α → Board bus)

theorem hardware_runAll_map
    (hstep : ∀ n x, (run enclosing n (step x)).2.hardware = act n.hardware x) (xs : List α) :
    (runAll enclosing m (xs.map step)).2.hardware = xs.foldl act m.hardware := by
  induction xs generalizing m with
  | nil => rfl
  | cons x xs ih =>
    simp only [List.map_cons, runAll, List.foldl_cons]
    rw [ih, hstep]

/-- A block leaves the memory that its steps leave. -/
theorem byteAt_run_block_map
    (hstep : ∀ e n x, (run e n (step x)).2.hardware = act n.hardware x) (view : View)
    (start : UInt16) (xs : List α) :
    (run enclosing m (.block view start (xs.map step))).2.hardware.byteAt =
      (xs.foldl act (m.hardware.openView view start)).byteAt := by
  rw [hardware_run_block, hardware_runAll_map _ _ step act (hstep _), Machine.hardware_openView]
  exact Board.SameMemory.byteAt ⟨rfl, rfl⟩

theorem confinedAll_map (hstep : ∀ x, (step x).confined = true) (xs : List α) :
    confinedAll (xs.map step) = true := by
  induction xs with
  | nil => rfl
  | cons x xs ih => rw [List.map_cons, confinedAll, hstep, ih, Bool.and_self]

/-! ## Stores through either view -/

/-- Words that are stored through the cells view change two places each. -/
theorem byteAt_run_cells (start : UInt16) (writes : List (UInt16 × UInt16)) :
    (run enclosing m
        (.block .cells start (writes.map fun x => .storeWord (x.1 * 2) x.2))).2.hardware.byteAt =
      writes.foldl (fun bytes x =>
        Function.update (Function.update bytes (Board.cellPlace start (x.1 * 2)) (Word.low x.2))
          (Board.cellPlace start (x.1 * 2 + 1)) (Word.high x.2)) m.hardware.byteAt := by
  have hopen := m.hardware.viewing_openView .cells start
  have shows : Backend.Shows (Board.Viewing .cells start : Board bus → Prop) Board.byteAt
    (Board.cellPlace start) := Board.shows_cells_of_viewing start
  rw [byteAt_run_block_map enclosing m _ (fun b x => Backend.storeWord b (x.1 * 2) x.2)
    (fun _ _ _ => rfl), ← m.hardware.byteAt_openView .cells start]
  exact shows.byte_foldl (fun b x => .storeWord .refl _ _)
    (fun x hb => shows.byte_storeWord hb _ _) hopen writes

/-- Bytes that are stored through the view of a plane change one place each. -/
theorem byteAt_run_plane (h : ∀ q, m.hardware.adapter.writePath.Passes q) (p : Plane)
    (start : UInt16) (writes : List (UInt16 × UInt16)) (byte : UInt16 → UInt8) :
    (run enclosing m
        (.block (.plane p) start (writes.map fun x => .store x.1 (byte x.2)))).2.hardware.byteAt =
      writes.foldl (fun bytes x =>
        Function.update bytes (Board.planePlace p start x.1) (byte x.2)) m.hardware.byteAt := by
  have hopen := Board.relaying_openView h (.plane p) start
  have shows : Backend.Shows (Board.Relaying (.plane p) start : Board bus → Prop) Board.byteAt
    (Board.planePlace p start) := Board.shows_plane_of_relaying p start
  rw [byteAt_run_block_map enclosing m _ (fun b x => Backend.store b x.1 (byte x.2))
    (fun _ _ _ => rfl), ← m.hardware.byteAt_openView (.plane p) start]
  exact shows.byte_foldl (fun b x => .store .refl _ _)
    (fun x hb => shows.byte_store _ _ hb) hopen writes

/-- A script of word stores through the cells view leaves what a script of stores of the low bytes
through the view of plane 0 and one of the high bytes through that of plane 1 leave. -/
theorem byteAt_cells_eq_planes (h : ∀ q, m.hardware.adapter.writePath.Passes q) {start : UInt16}
    (hstart : start.toNat % 32 = 0) {writes : List (UInt16 × UInt16)}
    (hwrites : ∀ x ∈ writes, start.toNat + 2 * x.1.toNat + 1 < 0x8000) :
    (run enclosing m
        (.block .cells start (writes.map fun x => .storeWord (x.1 * 2) x.2))).2.hardware.byteAt =
      (runAll enclosing m
        [.block (.plane .characters) start (writes.map fun x => .store x.1 (Word.low x.2)),
          .block (.plane .attributes) start
            (writes.map fun x => .store x.1 (Word.high x.2))]).2.hardware.byteAt := by
  let low (bytes : Place → UInt8) (x : UInt16 × UInt16) : Place → UInt8 :=
    Function.update bytes (Board.planePlace .characters start x.1) (Word.low x.2)
  let high (bytes : Place → UInt8) (x : UInt16 × UInt16) : Place → UInt8 :=
    Function.update bytes (Board.planePlace .attributes start x.1) (Word.high x.2)
  have hcomm (bytes : Place → UInt8) (x y : UInt16 × UInt16) :
      low (high bytes x) y = high (low bytes y) x := by
    refine Function.update_comm (fun e => ?_) _ _ _
    exact absurd (Board.planePlace_inj.mp e).1 (by decide)
  -- the first block changes no register, so the second one finds the write path as it was
  have hpasses (q : Plane) : (run enclosing m (.block (.plane .characters) start
      (writes.map fun x => .store x.1 (Word.low x.2)))).2.hardware.adapter.writePath.Passes q := by
    have hsame := sameRegisters_run_block enclosing m (.plane .characters) start
      (confinedAll_map (fun x => .store x.1 (Word.low x.2)) (fun _ => rfl) writes)
    rw [hsame.inside.writePath]
    exact h q
  calc _ = writes.foldl (fun bytes x => high (low bytes x) x) m.hardware.byteAt := by
        rw [byteAt_run_cells]
        refine List.foldl_rel (r := Eq) rfl fun x hx bytes _ heq => ?_
        have hend := hwrites x hx
        rw [heq, Board.cellPlace_character hstart (by omega),
          Board.cellPlace_attribute hstart (by omega)]
    _ = writes.foldl high (writes.foldl low m.hardware.byteAt) := List.foldl_in_turn hcomm writes _
    _ = _ := by
        simp only [runAll]
        rw [byteAt_run_plane _ _ hpasses, byteAt_run_plane _ _ h]

/-! ## What one access shows -/

theorem fst_run_block (view : View) (start : UInt16) (body : List Action) :
    (run enclosing m (.block view start body)).1 =
      .block (runAll (some m.hardware.saved) (m.openView view start).2 body).1 := by
  rw [run, ← Machine.fst_openView]

/-- A word in the cells view, as it was when the view was opened. -/
theorem reply_cells (start off : UInt16) :
    (run enclosing m (.block .cells start [.loadWord off])).1 =
      .block [.word (Word.ofBytes (m.hardware.byteAt (Board.cellPlace start off))
        (m.hardware.byteAt (Board.cellPlace start (off + 1))))] := by
  have hword := (Board.shows_cells_of_viewing start).flat.fst_loadWord
    (m.hardware.viewing_openView .cells start) off
  rw [Board.byteAt_openView] at hword
  rw [fst_run_block, ← hword, ← Machine.hardware_openView]
  rfl

variable {m} in
/-- A byte in an open view of planes. -/
theorem reply_load {write : MapMask} {read : UInt8} {start : UInt16}
    (h : m.hardware.Viewing (.planes write read) start) (off : UInt16) :
    (run enclosing m (.load off)).1 = .byte (m.hardware.adapter.planes.get (.ofByte read)
      (UInt16.ofNat (16 * (start.toNat / 32) + off.toNat))) := by
  have hread : Plane.ofByte (read &&& 0x03) = .ofByte read := by
    refine Fin.ext ?_
    simp only [Plane.ofByte, UInt8.toNat_and, UInt8.reduceToNat]
    rw [Nat.and_two_pow_sub_one_eq_mod _ 2]
    omega
  have hbyte := h.fst_read_planes off
  rw [Board.planeBase_add, hread] at hbyte
  exact congrArg Reply.byte hbyte

/-- A byte in the view of a plane, as it was when the view was opened. -/
theorem reply_plane (p : Plane) (start off : UInt16) :
    (run enclosing m (.block (.plane p) start [.load off])).1 =
      .block [.byte (m.hardware.byteAt (Board.planePlace p start off))] := by
  have hplane : Plane.ofByte (UInt8.ofNat p.val) = p := by
    revert p
    decide
  have hopen : (m.openView (.plane p) start).2.hardware.Viewing (.plane p) start := by
    rw [Machine.hardware_openView]
    exact m.hardware.viewing_openView (.plane p) start
  have hbyte := reply_load (some m.hardware.saved) hopen off
  rw [hplane, Machine.hardware_openView, ← Board.planeBase_add] at hbyte
  rw [fst_run_block]
  exact congrArg (fun reply => Reply.block [reply]) hbyte

/-- The cells view and the views of planes 0 and 1 agree on all cells of the aperture, as long as
host bytes arrive as they are: scripts of stores leave the same planes, later ones over earlier
ones, and a word is the character and the attribute. Any view of planes shows the planes from the
page on, round their end if need be, whatever was accessed since it was opened. -/
theorem views_agree (enclosing : Option Saved) (m : Machine (Board bus)) :
    let a := m.hardware.adapter
    (a.graphics.read 1 = 0 → a.graphics.read 3 = 0 → a.graphics.read 8 = 0xFF →
      ∀ start : UInt16, start.toNat % 32 = 0 →
        (∀ writes : List (UInt16 × UInt16),
          (∀ x ∈ writes, start.toNat + 2 * x.1.toNat + 1 < 0x8000) →
          (run enclosing m (.block .cells start
              (writes.map fun x => .storeWord (x.1 * 2) x.2))).2.hardware.adapter.planes =
            (runAll enclosing m
              [.block (.plane .characters) start (writes.map fun x => .store x.1 (Word.low x.2)),
                .block (.plane .attributes) start
                  (writes.map fun x => .store x.1 (Word.high x.2))]).2.hardware.adapter.planes) ∧
        ∀ i : UInt16, start.toNat + 2 * i.toNat + 1 < 0x8000 → ∃ w low high,
          (run enclosing m (.block .cells start [.loadWord (i * 2)])).1 = .block [.word w] ∧
          (run enclosing m (.block (.plane .characters) start [.load i])).1 =
            .block [.byte low] ∧
          (run enclosing m (.block (.plane .attributes) start [.load i])).1 =
            .block [.byte high] ∧
          w.toNat = low.toNat + 256 * high.toNat) ∧
    ∀ (write : MapMask) (read : UInt8) (start : UInt16) (n : Machine (Board bus)),
      Backend.Accesses (m.openView (.planes write read) start).2.hardware n.hardware →
      ∀ off : UInt16,
        let planes := n.hardware.adapter.planes
        let place := UInt16.ofNat (16 * (start.toNat / 32) + off.toNat)
        (run enclosing n (.load off)).1 = .byte (planes.get (.ofByte read) place) ∧
          ∀ v p o, (run enclosing n (.store off v)).2.hardware.adapter.planes.get p o =
            if o = place ∧ write.has p then a.writePath.result v p (planes.get p o)
            else planes.get p o := by
  intro a
  refine ⟨fun henable hrotate hmask start hstart => ⟨?_, ?_⟩, ?_⟩
  · intro writes hwrites
    have hbytes := byteAt_cells_eq_planes enclosing m (a.passes_writePath henable hrotate hmask)
      hstart hwrites
    exact PlaneMemory.ext fun p o => congrFun hbytes (.plane p o)
  · intro i hi
    have hword := reply_cells enclosing m start (i * 2)
    rw [Board.cellPlace_character hstart (by omega), Board.cellPlace_attribute hstart (by omega)]
      at hword
    exact ⟨_, _, _, hword, reply_plane enclosing m .characters start i,
      reply_plane enclosing m .attributes start i, Word.toNat_ofBytes _ _⟩
  · intro write read start n hn off planes place
    rw [Machine.hardware_openView] at hn
    obtain ⟨hview, hpath⟩ := (m.hardware.viewing_openView (.planes write read) start).accesses hn
    refine ⟨reply_load enclosing hview off, fun v p o => ?_⟩
    have hstore := hview.get_store off v p o
    rw [Board.planeBase_add, hpath, (m.hardware.inside_openView _ start).writePath] at hstore
    exact hstore

/-- Two words for the same cell, and one for the last cell of the aperture. -/
theorem views_agree_overwritten :
    let m : Machine (Board .word) := .ofHardware (.powerOn .word)
    let a := m.hardware.adapter
    a.graphics.read 1 = 0 ∧ a.graphics.read 3 = 0 ∧ a.graphics.read 8 = 0xFF ∧
      (run none m (.block .cells 0x1000 [.storeWord 6 0x0741, .storeWord 6 0x1F42,
          .storeWord 0x6FFE 0x2043])).2.hardware.adapter.planes =
        (runAll none m
          [.block (.plane .characters) 0x1000 [.store 3 0x41, .store 3 0x42, .store 0x37FF 0x43],
            .block (.plane .attributes) 0x1000
              [.store 3 0x07, .store 3 0x1F, .store 0x37FF 0x20]]).2.hardware.adapter.planes := by
  intro m a
  have hin : ∀ x ∈ [((3 : UInt16), (0x0741 : UInt16)), (3, 0x1F42), (0x37FF, 0x2043)],
      (0x1000 : UInt16).toNat + 2 * x.1.toNat + 1 < 0x8000 := by
    intro x hx
    simp only [List.mem_cons, List.not_mem_nil, or_false] at hx
    rcases hx with rfl | rfl | rfl <;> decide
  have hplanes := ((views_agree none m).1 rfl rfl rfl 0x1000 (by decide)).1 _ hin
  exact ⟨rfl, rfl, rfl, hplanes⟩

end Action

end VgaFirmware
