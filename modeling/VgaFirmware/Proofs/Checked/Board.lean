import VgaFirmware.Machine.Board
import VgaFirmware.Proofs.Checked.Adapter

/-!
# The board, checked

An adapter beside memory, whose linear addresses are sums that 32 bits have to hold and whose
memory is indexed by number. Block transfers count what they transfer, and that is checked too.
Each computation comes to what the board does (`read_raw`, `write_raw`, `copy_raw`,
`fillWords_raw`, `findZero_raw`).
-/

namespace VgaFirmware

/-- A computation on a state, which may stop. -/
abbrev Work (σ α : Type) := StateT σ Checked α

namespace Work

variable {σ τ α β : Type}

theorem run_lift {x : Checked α} {a : α} (h : x = .ok a) (s : σ) :
    (liftM x : Work σ α).run s = .ok (a, s) := by
  rw [h]
  rfl

/-- After a first step that does not stop, the rest goes on with its result. -/
theorem run_bind {x : Work σ α} {s t : σ} {a : α} (h : x.run s = .ok (a, t)) (f : α → Work σ β) :
    (x >>= f).run s = (f a).run t := by
  rw [StateT.run_bind, h]
  exact Checked.ok_bind (a, t) _

/-- A loop whose steps do not stop does not stop. -/
theorem run_forM (step : β → Work σ PUnit) (next : τ → β → τ) (embed : τ → σ) (xs : List β)
    (h : ∀ x ∈ xs, ∀ s, (step x).run (embed s) = .ok (⟨⟩, embed (next s x))) (s : τ) :
    (forM xs step).run (embed s) = .ok (⟨⟩, embed (xs.foldl next s)) := by
  induction xs generalizing s with
  | nil => rfl
  | cons x rest ih =>
    rw [List.forM_cons, run_bind (h x List.mem_cons_self s), List.foldl_cons]
    exact ih (fun y hy => h y (List.mem_cons_of_mem x hy)) (next s x)

end Work

/-- A board with its numbers as they are kept. -/
structure RawBoard where
  window : UInt16
  ram : Vector UInt8 0x100000
  adapter : RawAdapter

namespace RawBoard

/-- Reads a byte; the lowest twenty bits of the address count. -/
def read (address : UInt32) : Work RawBoard UInt8 := fun b => do
  let address := address % 0x100000
  if 0xA0000 ≤ address ∧ address ≤ 0xBFFFF then
    let (v, adapter) ← b.adapter.memoryRead address
    return (v, { b with adapter := adapter })
  else
    let v ← Checked.get b.ram address.toNat
    return (v, b)

/-- Writes a byte; the lowest twenty bits of the address count. -/
def write (address : UInt32) (v : UInt8) : Work RawBoard Unit := fun b => do
  let address := address % 0x100000
  if 0xA0000 ≤ address ∧ address ≤ 0xBFFFF then
    let adapter ← b.adapter.memoryWrite address v
    return ((), { b with adapter := adapter })
  else
    let ram ← Checked.set b.ram address.toNat v
    return ((), { b with ram := ram })

/-- The linear address of an offset of the window. -/
def linear (off : UInt16) : Work RawBoard UInt32 := do
  let b ← get
  Checked.long (b.window.toNat * 16 + off.toNat)

def load (off : UInt16) : Work RawBoard UInt8 := do
  let address ← linear off
  read address

def store (off : UInt16) (v : UInt8) : Work RawBoard Unit := do
  let address ← linear off
  write address v

def setWindow (segment : UInt16) : Work RawBoard Unit := modify ({ · with window := segment })

def portIn (port : UInt16) : Work RawBoard UInt8 := fun b => do
  let (v, adapter) ← b.adapter.portRead port
  return (v, { b with adapter := adapter })

def portOut (port : UInt16) (v : UInt8) : Work RawBoard Unit := fun b => do
  let adapter ← b.adapter.portWrite port v
  return ((), { b with adapter := adapter })

def portOutWord (port w : UInt16) : Work RawBoard Unit := fun b => do
  let adapter ← b.adapter.portWriteWord port w
  return ((), { b with adapter := adapter })

/-! ## Block transfers -/

def loadWord (off : UInt16) : Work RawBoard UInt16 := do
  let low ← load off
  let high ← load (off + 1)
  return Word.ofBytes low high

def storeWord (off w : UInt16) : Work RawBoard Unit := do
  store off (Word.low w)
  store (off + 1) (Word.high w)

def copy (dst src : UInt16) : Nat → Work RawBoard Unit
  | 0 => return ()
  | count + 1 => do
    let v ← load src
    store dst v
    copy (dst + 1) (src + 1) count

def fill (dst : UInt16) (v : UInt8) : Nat → Work RawBoard Unit
  | 0 => return ()
  | count + 1 => do
    store dst v
    fill (dst + 1) v count

/-- Fills `count` words from the one numbered `i` on. -/
def fillWords (dst w : UInt16) (i : Nat) : Nat → Work RawBoard Unit
  | 0 => return ()
  | count + 1 => do
    let off ← Checked.count (i * 2)
    storeWord (dst + UInt16.ofNat off) w
    fillWords dst w (i + 1) count

def copyIn (dst : UInt16) (src : UInt32) : Nat → Work RawBoard Unit
  | 0 => return ()
  | count + 1 => do
    let v ← read src
    store dst v
    copyIn (dst + 1) (src + 1) count

/-- Length of the string at an address, of which `length` bytes are known and `count` more are
searched. -/
def findZero (buffer : UInt32) (length : UInt16) : Nat → Work RawBoard (Option UInt16)
  | 0 => return none
  | count + 1 => do
    let v ← read (buffer + length.toUInt32)
    if v = 0 then return some length
    else
      let length ← Checked.word (length.toNat + 1)
      findZero buffer length count

end RawBoard

def Board.raw (b : Board .word) : RawBoard := ⟨b.window, b.ram.bytes, b.adapter.raw⟩

namespace RawBoard

variable (b : Board .word)

theorem toNat_wrapped (address : UInt32) :
    (address % 0x100000).toNat = (Address.ofLinear address).val := UInt32.toNat_mod address _

theorem isDisplay_ofLinear (address : UInt32) :
    (Address.ofLinear address).isDisplay = true ↔
      0xA0000 ≤ address % 0x100000 ∧ address % 0x100000 ≤ 0xBFFFF := by
  rw [UInt32.le_iff_toNat_le, UInt32.le_iff_toNat_le, toNat_wrapped, Address.isDisplay,
    Bool.and_eq_true, decide_eq_true_eq, decide_eq_true_eq]
  rfl

theorem read_raw (address : UInt32) :
    (read address).run b.raw =
      .ok ((b.read (.ofLinear address)).1, (b.read (.ofLinear address)).2.raw) := by
  have hmemory := RawAdapter.memoryRead_raw b.adapter (address % 0x100000)
  have hram : Checked.get b.ram.bytes (Address.ofLinear address).val =
      .ok (b.ram.get (.ofLinear address)) :=
    Checked.get_eq b.ram.bytes (Address.ofLinear address).isLt
  rw [toNat_wrapped] at hmemory
  by_cases hdisplay : (Address.ofLinear address).isDisplay = true
  · rw [Board.read, if_pos hdisplay]
    rw [isDisplay_ofLinear] at hdisplay
    change (if _ then _ else _) = _
    rw [if_pos hdisplay]
    change (b.adapter.raw.memoryRead (address % 0x100000) >>= _) = _
    rw [hmemory]
    rfl
  · rw [Board.read, if_neg hdisplay]
    rw [isDisplay_ofLinear] at hdisplay
    change (if _ then _ else _) = _
    rw [if_neg hdisplay]
    change (Checked.get b.ram.bytes (address % 0x100000).toNat >>= _) = _
    rw [toNat_wrapped, hram]
    rfl

theorem write_raw (address : UInt32) (v : UInt8) :
    (write address v).run b.raw = .ok ((), (b.write (.ofLinear address) v).raw) := by
  have hmemory := RawAdapter.memoryWrite_raw b.adapter (address % 0x100000) v
  have hram : Checked.set b.ram.bytes (Address.ofLinear address).val v =
      .ok (b.ram.set (.ofLinear address) v).bytes :=
    Checked.set_eq b.ram.bytes (Address.ofLinear address).isLt v
  rw [toNat_wrapped] at hmemory
  by_cases hdisplay : (Address.ofLinear address).isDisplay = true
  · rw [Board.write, if_pos hdisplay]
    rw [isDisplay_ofLinear] at hdisplay
    change (if _ then _ else _) = _
    rw [if_pos hdisplay]
    change (b.adapter.raw.memoryWrite (address % 0x100000) v >>= _) = _
    rw [hmemory]
    rfl
  · rw [Board.write, if_neg hdisplay]
    rw [isDisplay_ofLinear] at hdisplay
    change (if _ then _ else _) = _
    rw [if_neg hdisplay]
    change (Checked.set b.ram.bytes (address % 0x100000).toNat v >>= _) = _
    rw [toNat_wrapped, hram]
    rfl

theorem fetch_raw (address : UInt32) :
    (read address).run b.raw =
      .ok ((Backend.fetch b address).1, (Backend.fetch b address).2.raw) := read_raw b address

/-- Segment and offset never exceed 32 bits, and name the address that they name together. -/
theorem linear_raw (off : UInt16) : ∃ address, (linear off).run b.raw = .ok (address, b.raw) ∧
    Address.ofLinear address = .ofSegment b.window off := by
  have hwindow := b.window.toNat_lt
  have hoff := off.toNat_lt
  have hlong : Checked.long (b.raw.window.toNat * 16 + off.toNat) =
      .ok (UInt32.ofNat (b.window.toNat * 16 + off.toNat)) :=
    Checked.long_eq rfl (by omega)
  have hget : (get : Work RawBoard RawBoard).run b.raw = .ok (b.raw, b.raw) := rfl
  refine ⟨UInt32.ofNat (b.window.toNat * 16 + off.toNat), ?_, Fin.ext ?_⟩
  · rw [linear, Work.run_bind hget, Work.run_lift hlong]
  · simp only [Address.ofLinear, Address.ofSegment, UInt32.toNat_ofNat']
    omega

theorem load_raw (off : UInt16) :
    (load off).run b.raw = .ok ((Backend.load b off).1, (Backend.load b off).2.raw) := by
  obtain ⟨address, hlinear, haddress⟩ := linear_raw b off
  rw [load, Work.run_bind hlinear, read_raw, haddress]
  rfl

theorem store_raw (off : UInt16) (v : UInt8) :
    (store off v).run b.raw = .ok ((), (Backend.store b off v).raw) := by
  obtain ⟨address, hlinear, haddress⟩ := linear_raw b off
  rw [store, Work.run_bind hlinear, write_raw, haddress]
  rfl

theorem setWindow_raw (segment : UInt16) :
    (setWindow segment).run b.raw = .ok ((), (Backend.setWindow b segment).raw) := rfl

theorem portIn_raw (port : UInt16) :
    (portIn port).run b.raw = .ok ((Backend.portIn b port).1, (Backend.portIn b port).2.raw) := by
  change (b.adapter.raw.portRead port >>= _) = _
  rw [RawAdapter.portRead_raw]
  rfl

theorem portOut_raw (port : UInt16) (v : UInt8) :
    (portOut port v).run b.raw = .ok ((), (Backend.portOut b port v).raw) := by
  change (b.adapter.raw.portWrite port v >>= _) = _
  rw [RawAdapter.portWrite_raw]
  rfl

theorem portOutWord_raw (port w : UInt16) :
    (portOutWord port w).run b.raw = .ok ((), (Backend.portOutWord b port w).raw) := by
  change (b.adapter.raw.portWriteWord port w >>= _) = _
  rw [RawAdapter.portWriteWord_raw]
  rfl

/-! ## Block transfers -/

theorem loadWord_raw (off : UInt16) :
    (loadWord off).run b.raw =
      .ok ((Backend.loadWord b off).1, (Backend.loadWord b off).2.raw) := by
  rw [loadWord, Work.run_bind (load_raw b off), Work.run_bind (load_raw _ (off + 1))]
  rfl

theorem storeWord_raw (off w : UInt16) :
    (storeWord off w).run b.raw = .ok ((), (Backend.storeWord b off w).raw) := by
  rw [storeWord, Work.run_bind (store_raw b off _), store_raw]
  rfl

theorem copy_raw (dst src : UInt16) (count : Nat) :
    (copy dst src count).run b.raw = .ok ((), (Backend.copy b dst src count).raw) := by
  induction count generalizing b dst src with
  | zero => rfl
  | succ count ih =>
    rw [copy, Work.run_bind (load_raw b src), Work.run_bind (store_raw _ dst _), ih]
    rfl

theorem fill_raw (dst : UInt16) (v : UInt8) (count : Nat) :
    (fill dst v count).run b.raw = .ok ((), (Backend.fill b dst v count).raw) := by
  induction count generalizing b dst with
  | zero => rfl
  | succ count ih =>
    rw [fill, Work.run_bind (store_raw b dst v), ih]
    rfl

/-- Word `i` lies at `2 * i` from where the first one does. -/
theorem fillWords_raw (dst w : UInt16) (i count : Nat) (h : i + count ≤ 0xFFFF) :
    (fillWords dst w i count).run b.raw =
      .ok ((), (Backend.fillWords b (dst + UInt16.ofNat (i * 2)) w count).raw) := by
  induction count generalizing b i with
  | zero => rfl
  | succ count ih =>
    have hcount : Checked.count (i * 2) = .ok (i * 2) := Checked.count_eq (by omega) (by omega)
    have hnext : dst + UInt16.ofNat ((i + 1) * 2) = dst + UInt16.ofNat (i * 2) + 2 := by
      rw [Nat.add_mul, Nat.one_mul, UInt16.ofNat_add, ← UInt16.add_assoc]
      rfl
    rw [fillWords, Work.run_bind (Work.run_lift hcount _), Work.run_bind (storeWord_raw b _ w),
      ih _ (i + 1) (by omega), hnext]
    rfl

theorem copyIn_raw (dst : UInt16) (src : UInt32) (count : Nat) :
    (copyIn dst src count).run b.raw = .ok ((), (Backend.copyIn b dst src count).raw) := by
  induction count generalizing b dst src with
  | zero => rfl
  | succ count ih =>
    rw [copyIn, Work.run_bind (fetch_raw b src), Work.run_bind (store_raw _ dst _), ih]
    rfl

/-- What is known and what is searched fit a word together, so the length never overflows. -/
theorem findZero_raw (buffer : UInt32) (i count : Nat) (h : i + count ≤ 0xFFFF) :
    (findZero buffer (UInt16.ofNat i) count).run b.raw =
      .ok ((Backend.findZero b (buffer + UInt32.ofNat i) i count).1.map UInt16.ofNat,
        (Backend.findZero b (buffer + UInt32.ofNat i) i count).2.raw) := by
  induction count generalizing b i with
  | zero => rfl
  | succ count ih =>
    have hlength : (UInt16.ofNat i).toNat = i := by
      rw [UInt16.toNat_ofNat']
      omega
    have haddress : (UInt16.ofNat i).toUInt32 = UInt32.ofNat i := by
      rw [← UInt32.toNat_inj, UInt16.toNat_toUInt32, UInt32.toNat_ofNat', hlength]
      omega
    have hword : Checked.word ((UInt16.ofNat i).toNat + 1) = .ok (UInt16.ofNat (i + 1)) :=
      Checked.word_eq (by omega) (by omega)
    have hnext : buffer + UInt32.ofNat i + 1 = buffer + UInt32.ofNat (i + 1) := by
      rw [UInt32.ofNat_add, ← UInt32.add_assoc]
      rfl
    have hfetch := fetch_raw b (buffer + UInt32.ofNat i)
    rw [findZero, haddress, Work.run_bind hfetch, Backend.findZero]
    generalize Backend.fetch b (buffer + UInt32.ofNat i) = fetched
    obtain ⟨v, t⟩ := fetched
    by_cases hv : v = 0
    · simp only [if_pos hv]
      rfl
    · simp only [if_neg hv]
      rw [Work.run_bind (Work.run_lift hword _), ih t (i + 1) (by omega), hnext]

end RawBoard

end VgaFirmware
