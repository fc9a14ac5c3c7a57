import VgaFirmware.Adapter
import VgaFirmware.Proofs.Checked.Dac

/-!
# The adapter, checked

The adapter with its planes as blocks of one store. Its accesses check every address that they
form and every index. What they compute is what the adapter does (`memoryRead_raw`,
`memoryWrite_raw`, `portRead_raw`, `portWrite_raw`), so no sequence of accesses to a new adapter
can stop it (`serveAll_powerOn`).
-/

namespace VgaFirmware

/-- An access from outside: a byte of memory, or a number of bytes at successive ports. -/
inductive DeviceAccess where
  | readMemory (address : UInt32)
  | writeMemory (address : UInt32) (v : UInt8)
  | readPort (address : UInt16) (size : Nat)
  | writePort (address : UInt16) (size : Nat) (v : UInt32)
  deriving DecidableEq, Repr

/-- The adapter after an access. -/
def Adapter.serve (a : Adapter) : DeviceAccess → Adapter
  | .readMemory address => (a.hostRead address.toNat).2
  | .writeMemory address v => a.hostWrite address.toNat v
  | .readPort address size => (a.readPortSized address size).2
  | .writePort address size v => a.writePortSized address size v

/-- A register with a fixed number, which has to be one of the bank. -/
def RegisterBank.fixed {n : Nat} (b : RegisterBank n) (i : UInt8) : Checked UInt8 :=
  Checked.get b.values i.toNat

theorem RegisterBank.fixed_eq {n : Nat} (b : RegisterBank n) {i : UInt8} (h : i.toNat < n) :
    b.fixed i = .ok (b.read i) := by
  rw [fixed, Checked.get_eq b.values h, read, Vector.getElem?_eq_getElem h, Option.getD_some]

/-! ## Planes and latches -/

/-- The adapter with its planes as one block of bytes. -/
structure RawAdapter where
  miscOutput : UInt8
  sequencer : RegisterBank 5
  graphics : RegisterBank 9
  crtc : RegisterBank 25
  attributes : AttributeController
  dac : RawDac
  latches : Vector UInt8 4
  bytes : Vector UInt8 262144

/-- What a host address reaches, by numbers. -/
inductive RawTarget where
  | single (plane off : Nat)
  | column (off : Nat)

/-- The target of an offset into the aperture. -/
def RawTarget.of (mode : Addressing) (off : Nat) : RawTarget :=
  match mode with
  | .chained => .single (off % 4) (off / 4 % 65536)
  | .oddEven => .single (off % 2) (off / 2 % 65536)
  | .planar => .column off

namespace RawAdapter

/-- At power-on every number is zero, but for the two masks. -/
def powerOn : RawAdapter where
  miscOutput := 0
  sequencer := .blank 5
  graphics := (RegisterBank.blank 9).write 8 0xFF
  crtc := .blank 25
  attributes := .blank
  dac :=
    { mask := 0xFF
      writeIndex := 0
      writeComponent := 0
      pending := #v[0, 0, 0]
      readIndex := 0
      readComponent := 0
      entries := Vector.replicate 256 .black }
  latches := Vector.replicate 4 0
  bytes := Vector.replicate 262144 0

/-! ## Registers at fixed numbers -/

def aperture (d : RawAdapter) : Checked Aperture := do
  let misc ← d.graphics.fixed 6
  return (GraphicsMisc.mk misc).aperture

def addressing (d : RawAdapter) : Checked Addressing := do
  let memoryMode ← d.sequencer.fixed 4
  let graphicsMode ← d.graphics.fixed 5
  return if (MemoryMode.mk memoryMode).chained then .chained
    else if (GraphicsMode.mk graphicsMode).oddEven && !(MemoryMode.mk memoryMode).sequential then
      .oddEven
    else .planar

def mapMask (d : RawAdapter) : Checked PlaneSet := do
  let mask ← d.sequencer.fixed 2
  return .ofByte mask

def writeControl (d : RawAdapter) : Checked WriteControl := do
  let mode ← d.graphics.fixed 5
  let function ← d.graphics.fixed 3
  let bitMask ← d.graphics.fixed 8
  let setReset ← d.graphics.fixed 0
  let enableSetReset ← d.graphics.fixed 1
  return {
    mode := .ofBits mode
    op := .ofBits (function >>> 3)
    rotate := function.toNat % 8
    bitMask := bitMask
    setReset := .ofByte setReset
    enableSetReset := .ofByte enableSetReset }

/-- Bit 7 of register 0x11 protects the first eight timing registers. -/
def writeCrtc (d : RawAdapter) (v : UInt8) : Checked RawAdapter := do
  let protection ← d.crtc.fixed 0x11
  return if d.crtc.index.toNat ≤ 7 ∧ protection &&& 0x80 ≠ 0 then d
    else { d with crtc := d.crtc.write d.crtc.index v }

/-! ## Addresses -/

/-- What an address reaches, if the aperture holds it. -/
def target (d : RawAdapter) (address : UInt32) : Checked (Option RawTarget) := do
  let aperture ← d.aperture
  let addressing ← d.addressing
  let past ← Checked.long (aperture.base + aperture.size)
  if address.toNat < aperture.base ∨ past ≤ address then return none
  else
    let off ← Checked.long (address.toNat - aperture.base)
    return some (.of addressing off.toNat)

/-- Where a byte of a plane lies. -/
def index (plane off : Nat) : Checked Nat := do
  let base ← Checked.count (65536 * plane)
  Checked.count (base + off)

def peek (d : RawAdapter) (plane off : Nat) : Checked UInt8 := do
  let i ← index plane off
  Checked.get d.bytes i

def poke (d : RawAdapter) (plane off : Nat) (v : UInt8) : Checked RawAdapter := do
  let i ← index plane off
  let bytes ← Checked.set d.bytes i v
  return { d with bytes := bytes }

/-- Takes the byte of a plane into its latch. -/
def latchPlane (off : Nat) (d : RawAdapter) (p : Plane) : Checked RawAdapter := do
  let v ← d.peek p.val off
  let latches ← Checked.set d.latches p.val v
  return { d with latches := latches }

/-- Takes the bytes of all planes at an offset into the latches. -/
def latch (d : RawAdapter) (off : Nat) : Checked RawAdapter := Plane.all.foldlM (latchPlane off) d

/-- The bits of a latch that differ from a colour, beside those of the planes before. -/
def comparePlane (latches : Latches) (colour care : PlaneSet) (bits : UInt8) (p : Plane) :
    Checked UInt8 := do
  let v ← Checked.get latches p.val
  return bits ||| planeMismatch colour care p v

/-- The pixels whose planes, those of `care`, all hold the colour. -/
def compare (d : RawAdapter) (colour care : PlaneSet) : Checked UInt8 := do
  let bits ← Plane.all.foldlM (comparePlane d.latches colour care) 0
  return ~~~bits

/-- A planar read; offsets wrap at the plane size. -/
def readColumn (d : RawAdapter) (off : Nat) : Checked (UInt8 × RawAdapter) := do
  let d ← d.latch (off % 65536)
  let mode ← d.graphics.fixed 5
  if (GraphicsMode.mk mode).readMode = 0 then
    let plane ← d.graphics.fixed 4
    let v ← Checked.get d.latches (plane.toNat % 4)
    return (v, d)
  else
    let colour ← d.graphics.fixed 2
    let care ← d.graphics.fixed 7
    let v ← d.compare (.ofByte colour) (.ofByte care)
    return (v, d)

/-- Writes the byte of a plane, if the plane is open to writes. -/
def writePlane (control : WriteControl) (mask : PlaneSet) (off : Nat) (value : UInt8)
    (d : RawAdapter) (p : Plane) : Checked RawAdapter :=
  if mask.has p then do
    let v ← Checked.get d.latches p.val
    d.poke p.val off (control.result value p v)
  else return d

/-- A write fills the latches first, unless they are the data to be written. -/
def latchFor (d : RawAdapter) (mode : WriteMode) (off : Nat) : Checked RawAdapter :=
  if mode = .latched then return d else d.latch off

/-- A planar write; offsets wrap at the plane size. -/
def writeColumn (d : RawAdapter) (off : Nat) (value : UInt8) : Checked RawAdapter := do
  let control ← d.writeControl
  let mask ← d.mapMask
  let d ← d.latchFor control.mode (off % 65536)
  Plane.all.foldlM (writePlane control mask (off % 65536) value) d

/-! ## Accesses -/

def memoryRead (d : RawAdapter) (address : UInt32) : Checked (UInt8 × RawAdapter) := do
  match ← d.target address with
  | some (.single p off) =>
    let v ← d.peek p off
    return (v, d)
  | some (.column off) => d.readColumn off
  | none => return (0xFF, d)

def memoryWrite (d : RawAdapter) (address : UInt32) (v : UInt8) : Checked RawAdapter := do
  match ← d.target address with
  | some (.single p off) =>
    let mask ← d.mapMask
    if mask.bits.getLsbD p then d.poke p off v else return d
  | some (.column off) => d.writeColumn off v
  | none => return d

def portRead (d : RawAdapter) (address : UInt16) : Checked (UInt8 × RawAdapter) :=
  match Port.ofAddress address with
  | .miscRead => .ok (d.miscOutput, d)
  | .sequencerIndex => .ok (d.sequencer.index, d)
  | .sequencerValue => .ok (d.sequencer.current, d)
  | .graphicsIndex => .ok (d.graphics.index, d)
  | .graphicsValue => .ok (d.graphics.current, d)
  | .crtcIndex => .ok (d.crtc.index, d)
  | .crtcValue => .ok (d.crtc.current, d)
  | .attributeValue => .ok (d.attributes.read d.attributes.index, d)
  | .inputStatus => .ok (0, { d with attributes := d.attributes.reset })
  | .pelMask => .ok (d.dac.mask, d)
  | .dacReadIndex => .ok (d.dac.readIndex, d)
  | .dacWriteIndex => .ok (d.dac.writeIndex, d)
  | .dacValue => do
    let (v, dac) ← d.dac.pull
    return (v, { d with dac := dac })
  | .attributeStream | .miscWrite | .unmapped => .ok (0xFF, d)

def portWrite (d : RawAdapter) (address : UInt16) (v : UInt8) : Checked RawAdapter :=
  match Port.ofAddress address with
  | .miscWrite => .ok { d with miscOutput := v }
  | .sequencerIndex => .ok { d with sequencer := d.sequencer.select v }
  | .sequencerValue => .ok { d with sequencer := d.sequencer.write d.sequencer.index v }
  | .graphicsIndex => .ok { d with graphics := d.graphics.select v }
  | .graphicsValue => .ok { d with graphics := d.graphics.write d.graphics.index v }
  | .crtcIndex => .ok { d with crtc := d.crtc.select v }
  | .crtcValue => d.writeCrtc v
  | .attributeStream => .ok { d with attributes := d.attributes.push v }
  | .pelMask => .ok { d with dac := { d.dac with mask := v } }
  | .dacReadIndex => .ok { d with dac := { d.dac with readIndex := v, readComponent := 0 } }
  | .dacWriteIndex => .ok { d with dac := { d.dac with writeIndex := v, writeComponent := 0 } }
  | .dacValue => do
    let dac ← d.dac.push v
    return { d with dac := dac }
  | .attributeValue | .miscRead | .inputStatus | .unmapped => .ok d

/-- The two bytes of a word go to the port and to the one after it, low byte first. -/
def portWriteWord (d : RawAdapter) (address w : UInt16) : Checked RawAdapter := do
  let d ← d.portWrite address (Word.low w)
  d.portWrite (address + 1) (Word.high w)

def portReadSized (d : RawAdapter) (address : UInt16) (size : Nat) :
    Checked (UInt32 × RawAdapter) :=
  match size with
  | 0 => .ok (0, d)
  | 1 => do
    let (v, d) ← d.portRead address
    return (v.toUInt32, d)
  | 2 => do
    let (low, d) ← d.portRead address
    let (high, d) ← d.portRead (address + 1)
    return ((Word.ofBytes low high).toUInt32, d)
  | _ => .ok (0xFFFFFFFF, d)

def portWriteSized (d : RawAdapter) (address : UInt16) (size : Nat) (v : UInt32) :
    Checked RawAdapter :=
  match size with
  | 1 => d.portWrite address v.toUInt8
  | 2 => d.portWriteWord address v.toUInt16
  | _ => .ok d

/-- The adapter after an access, unless the access stops. -/
def serve (d : RawAdapter) : DeviceAccess → Checked RawAdapter
  | .readMemory address => do
    let (_, d) ← d.memoryRead address
    return d
  | .writeMemory address v => d.memoryWrite address v
  | .readPort address size => do
    let (_, d) ← d.portReadSized address size
    return d
  | .writePort address size v => d.portWriteSized address size v

end RawAdapter

def Adapter.raw (a : Adapter) : RawAdapter where
  miscOutput := a.miscOutput
  sequencer := a.sequencer
  graphics := a.graphics
  crtc := a.crtc
  attributes := a.attributes
  dac := a.dac.raw
  latches := a.latches
  bytes := a.planes.bytes

namespace RawAdapter

variable (a : Adapter)

theorem powerOn_eq : powerOn = Adapter.powerOn.raw := rfl

/-! ## Registers come to the same -/

theorem sequencer_fixed {i : UInt8} (h : i.toNat < 5) :
    a.raw.sequencer.fixed i = .ok (a.sequencer.read i) := RegisterBank.fixed_eq _ h

theorem graphics_fixed {i : UInt8} (h : i.toNat < 9) :
    a.raw.graphics.fixed i = .ok (a.graphics.read i) := RegisterBank.fixed_eq _ h

theorem crtc_fixed {i : UInt8} (h : i.toNat < 25) :
    a.raw.crtc.fixed i = .ok (a.crtc.read i) := RegisterBank.fixed_eq _ h

theorem aperture_raw : a.raw.aperture = .ok a.graphicsMisc.aperture := by
  rw [aperture, graphics_fixed a (by decide), Checked.ok_bind]
  rfl

theorem addressing_raw : a.raw.addressing = .ok a.addressing := by
  rw [addressing, sequencer_fixed a (by decide), Checked.ok_bind, graphics_fixed a (by decide),
    Checked.ok_bind]
  rfl

theorem mapMask_raw : a.raw.mapMask = .ok a.mapMask := by
  rw [mapMask, sequencer_fixed a (by decide), Checked.ok_bind]
  rfl

theorem writeControl_raw : a.raw.writeControl = .ok a.writeControl := by
  rw [writeControl, graphics_fixed a (by decide), Checked.ok_bind, graphics_fixed a (by decide),
    Checked.ok_bind, graphics_fixed a (by decide), Checked.ok_bind, graphics_fixed a (by decide),
    Checked.ok_bind, graphics_fixed a (by decide), Checked.ok_bind]
  rfl

theorem writeCrtc_raw (v : UInt8) : a.raw.writeCrtc v = .ok (a.writeCrtc v).raw := by
  have hindex : a.raw.crtc.index = a.crtc.index := rfl
  rw [writeCrtc, crtc_fixed a (by decide), Checked.ok_bind, Adapter.writeCrtc, hindex]
  split <;> rfl

/-! ## Planes come to the same -/

theorem index_eq (p : Plane) (off : UInt16) :
    index p.val off.toNat = .ok (PlaneMemory.index p off).val := by
  have hp := p.isLt
  have hoff := off.toNat_lt
  have hbase : Checked.count (65536 * p.val) = .ok (65536 * p.val) :=
    Checked.count_eq (by omega) (by omega)
  simp only [index, hbase, Checked.ok_bind]
  refine Checked.count_eq ?_ ?_ <;> simp only [PlaneMemory.index] <;> omega

theorem peek_raw (p : Plane) (off : UInt16) :
    a.raw.peek p.val off.toNat = .ok (a.planes.get p off) := by
  have hget := Checked.get_eq a.planes.bytes (PlaneMemory.index p off).isLt
  rw [peek, index_eq]
  simp only [Checked.ok_bind]
  exact hget

theorem poke_raw (p : Plane) (off : UInt16) (v : UInt8) :
    a.raw.poke p.val off.toNat v = .ok { a with planes := a.planes.set p off v }.raw := by
  have hset := Checked.set_eq a.planes.bytes (PlaneMemory.index p off).isLt v
  rw [poke, index_eq]
  simp only [Checked.ok_bind]
  change (Checked.set a.planes.bytes (PlaneMemory.index p off).val v >>= _) = _
  rw [hset]
  rfl

theorem target_raw (address : UInt32) :
    a.raw.target address =
      .ok ((a.graphicsMisc.aperture.offset? address.toNat).map (.of a.addressing)) := by
  have hbase : a.graphicsMisc.aperture.base + a.graphicsMisc.aperture.size ≤ 0xC0000 := by
    cases a.graphicsMisc.aperture <;> decide
  have haddress := address.toNat_lt
  simp only [target, aperture_raw, addressing_raw, Checked.ok_bind]
  generalize a.graphicsMisc.aperture = aperture at hbase
  have hpast : Checked.long (aperture.base + aperture.size) =
      .ok (UInt32.ofNat (aperture.base + aperture.size)) :=
    Checked.long_eq (by omega) (by omega)
  have hle : UInt32.ofNat (aperture.base + aperture.size) ≤ address ↔
      aperture.base + aperture.size ≤ address.toNat := by
    rw [UInt32.le_iff_toNat_le, UInt32.toNat_ofNat', Nat.mod_eq_of_lt (by omega)]
  simp only [hpast, Checked.ok_bind, hle, Aperture.offset?]
  split
  · next hout => rw [if_neg (by omega)]; rfl
  · next hin =>
    have hoff : Checked.long (address.toNat - aperture.base) =
        .ok (UInt32.ofNat (address.toNat - aperture.base)) :=
      Checked.long_eq (by omega) (by omega)
    rw [if_pos (by omega), hoff]
    simp only [Checked.ok_bind, UInt32.toNat_ofNat', Option.map_some]
    rw [Nat.mod_eq_of_lt (by omega)]
    rfl

theorem foldl_set_latches (latches : Latches) (f : Plane → UInt8) :
    Plane.all.foldl (fun latches p => latches.set p.val (f p)) latches = Vector.ofFn f := by
  apply Vector.ext
  intro i hi
  simp only [Plane.all, List.foldl_cons, List.foldl_nil, Vector.getElem_set, Vector.getElem_ofFn]
  obtain rfl | rfl | rfl | rfl : i = 0 ∨ i = 1 ∨ i = 2 ∨ i = 3 := by omega
  all_goals rfl

theorem latch_raw (off : UInt16) :
    a.raw.latch off.toNat = .ok { a with latches := a.planes.column off }.raw := by
  let next (latches : Latches) (p : Plane) : Latches := latches.set p.val (a.planes.get p off)
  let embed (latches : Latches) : RawAdapter := { a with latches := latches }.raw
  have hstep (latches : Latches) (p : Plane) :
      latchPlane off.toNat (embed latches) p = .ok (embed (next latches p)) := by
    have hset := Checked.set_eq latches p.isLt (a.planes.get p off)
    simp only [latchPlane, embed, peek_raw, Checked.ok_bind]
    change (Checked.set latches p.val (a.planes.get p off) >>= _) = _
    rw [hset]
    rfl
  have hfold := Checked.foldlM_eq (latchPlane off.toNat) next embed hstep Plane.all a.latches
  rw [foldl_set_latches] at hfold
  exact hfold

theorem compare_raw (colour care : PlaneSet) :
    a.raw.compare colour care = .ok (colourMatch colour care a.latches) := by
  have hstep (bits : UInt8) (p : Plane) : comparePlane a.latches colour care bits p =
      .ok (bits ||| planeMismatch colour care p (a.latches.get p)) := by
    rw [comparePlane, Checked.get_eq a.latches p.isLt]
    rfl
  have hfold := Checked.foldlM_eq (comparePlane a.latches colour care) _ id hstep Plane.all 0
  have hlatches : a.raw.latches = a.latches := rfl
  rw [compare, hlatches]
  simp only [id] at hfold
  rw [hfold]
  rfl

theorem readColumn_raw (off : Nat) :
    a.raw.readColumn off = .ok ((a.readColumn (UInt16.ofNat off)).1,
      (a.readColumn (UInt16.ofNat off)).2.raw) := by
  have hoff : off % 65536 = (UInt16.ofNat off).toNat := UInt16.toNat_ofNat'.symm
  rw [readColumn, hoff, latch_raw, Checked.ok_bind, graphics_fixed _ (by decide), Checked.ok_bind,
    Adapter.readColumn]
  by_cases hmode : a.graphicsMode.readMode = 0
  · have hget : Checked.get (a.planes.column (UInt16.ofNat off)) ((a.graphics.read 4).toNat % 4) =
        .ok ((a.planes.column (UInt16.ofNat off)).get (Plane.ofByte (a.graphics.read 4))) :=
      Checked.get_eq _ (Plane.ofByte (a.graphics.read 4)).isLt
    rw [if_pos (show (GraphicsMode.mk (a.graphics.read 5)).readMode = 0 from hmode),
      graphics_fixed _ (by decide), Checked.ok_bind]
    change (Checked.get (a.planes.column (UInt16.ofNat off))
      ((a.graphics.read 4).toNat % 4) >>= _) = _
    rw [hget, if_pos hmode]
    rfl
  · rw [if_neg (show ¬ (GraphicsMode.mk (a.graphics.read 5)).readMode = 0 from hmode),
      graphics_fixed _ (by decide), Checked.ok_bind, graphics_fixed _ (by decide), Checked.ok_bind,
      compare_raw, Checked.ok_bind, if_neg hmode]
    rfl

theorem latchFor_raw (mode : WriteMode) (off : UInt16) :
    a.raw.latchFor mode off.toNat = .ok { a with
      latches := if mode = WriteMode.latched then a.latches else a.planes.column off }.raw := by
  by_cases h : mode = WriteMode.latched
  · rw [latchFor, if_pos h, if_pos h]
    rfl
  · rw [latchFor, if_neg h, if_neg h, latch_raw]

theorem writePlane_raw (control : WriteControl) (mask : PlaneSet) (off : UInt16) (v : UInt8)
    (p : Plane) :
    writePlane control mask off.toNat v a.raw p =
      .ok { a with planes :=
        if mask.has p then a.planes.set p off (control.result v p (a.latches.get p))
        else a.planes }.raw := by
  have hget : Checked.get a.raw.latches p.val = .ok (a.latches.get p) :=
    Checked.get_eq a.latches p.isLt
  by_cases h : mask.has p = true
  · simp only [writePlane, if_pos h, hget, Checked.ok_bind, poke_raw]
  · simp only [writePlane, if_neg h]
    rfl

theorem writeColumn_raw (off : Nat) (v : UInt8) :
    a.raw.writeColumn off v = .ok (a.writeColumn (UInt16.ofNat off) v).raw := by
  have hoff : off % 65536 = (UInt16.ofNat off).toNat := UInt16.toNat_ofNat'.symm
  generalize UInt16.ofNat off = o at hoff
  let control := a.writeControl
  let latches := if control.mode = .latched then a.latches else a.planes.column o
  let next (planes : PlaneMemory) (p : Plane) : PlaneMemory :=
    if a.mapMask.has p then planes.set p o (control.result v p (latches.get p)) else planes
  let embed (planes : PlaneMemory) : RawAdapter :=
    { a with latches := latches, planes := planes }.raw
  have hstep (planes : PlaneMemory) (p : Plane) :
      writePlane control a.mapMask o.toNat v (embed planes) p = .ok (embed (next planes p)) :=
    writePlane_raw { a with latches := latches, planes := planes } control a.mapMask o v p
  have hfold := Checked.foldlM_eq (writePlane control a.mapMask o.toNat v) next embed hstep
    Plane.all a.planes
  have hresult : (a.writeColumn o v).raw = embed (Plane.all.foldl next a.planes) := rfl
  have hlatched : a.raw.latchFor control.mode o.toNat = .ok (embed a.planes) :=
    latchFor_raw a control.mode o
  have hcontrol : a.raw.writeControl = .ok control := writeControl_raw a
  rw [writeColumn, hoff, hresult, hcontrol, Checked.ok_bind, mapMask_raw, Checked.ok_bind, hlatched,
    Checked.ok_bind, hfold]

/-! ## Accesses -/

theorem peek_target (p : Plane) (off : Nat) :
    (do
      let v ← a.raw.peek p.val (off % 65536)
      return (v, a.raw) : Checked (UInt8 × RawAdapter)) =
      .ok (a.planes.get p (UInt16.ofNat off), a.raw) := by
  have hoff : off % 65536 = (UInt16.ofNat off).toNat := UInt16.toNat_ofNat'.symm
  rw [hoff, peek_raw]
  rfl

theorem memoryRead_raw (address : UInt32) :
    a.raw.memoryRead address = .ok ((a.hostRead address.toNat).1,
      (a.hostRead address.toNat).2.raw) := by
  rw [memoryRead, target_raw]
  simp only [Checked.ok_bind, Adapter.hostRead, Adapter.target]
  cases a.graphicsMisc.aperture.offset? address.toNat with
  | none => rfl
  | some off =>
    simp only [Option.map_some]
    cases a.addressing with
    | planar => exact readColumn_raw a off
    | chained => exact peek_target a ⟨off % 4, Nat.mod_lt _ (by decide)⟩ (off / 4)
    | oddEven => exact peek_target a ⟨off % 2, by omega⟩ (off / 2)

theorem poke_target (p : Plane) (off : Nat) (v : UInt8) :
    (do
      let mask ← a.raw.mapMask
      if mask.bits.getLsbD p.val then a.raw.poke p.val (off % 65536) v else return a.raw) =
      .ok (if a.mapMask.has p then { a with planes := a.planes.set p (UInt16.ofNat off) v }
        else a).raw := by
  have hoff : off % 65536 = (UInt16.ofNat off).toNat := UInt16.toNat_ofNat'.symm
  have hmask : a.mapMask.bits.getLsbD p.val = a.mapMask.has p := rfl
  rw [mapMask_raw, Checked.ok_bind, hmask, hoff, poke_raw]
  split <;> rfl

theorem memoryWrite_raw (address : UInt32) (v : UInt8) :
    a.raw.memoryWrite address v = .ok (a.hostWrite address.toNat v).raw := by
  rw [memoryWrite, target_raw]
  simp only [Checked.ok_bind, Adapter.hostWrite, Adapter.target]
  cases a.graphicsMisc.aperture.offset? address.toNat with
  | none => rfl
  | some off =>
    simp only [Option.map_some]
    cases a.addressing with
    | planar => exact writeColumn_raw a off v
    | chained => exact poke_target a ⟨off % 4, Nat.mod_lt _ (by decide)⟩ (off / 4) v
    | oddEven => exact poke_target a ⟨off % 2, by omega⟩ (off / 2) v

theorem portRead_raw (address : UInt16) :
    a.raw.portRead address = .ok ((a.readPort address).1, (a.readPort address).2.raw) := by
  have hpull : a.raw.dac.pull = .ok (a.dac.pull.1, a.dac.pull.2.raw) := RawDac.pull_raw a.dac
  rw [portRead, Adapter.readPort]
  cases Port.ofAddress address with
  | dacValue =>
    simp only [hpull, Checked.ok_bind]
    rfl
  | _ => rfl

theorem portWrite_raw (address : UInt16) (v : UInt8) :
    a.raw.portWrite address v = .ok (a.writePort address v).raw := by
  have hpush : a.raw.dac.push v = .ok (a.dac.push v).raw := RawDac.push_raw a.dac v
  rw [portWrite, Adapter.writePort]
  cases Port.ofAddress address with
  | dacValue =>
    simp only [hpush, Checked.ok_bind]
    rfl
  | crtcValue => exact writeCrtc_raw a v
  | _ => rfl

theorem portWriteWord_raw (address w : UInt16) :
    a.raw.portWriteWord address w = .ok (a.writePortWord address w).raw := by
  rw [portWriteWord, portWrite_raw, Checked.ok_bind, portWrite_raw, Adapter.writePortWord]

theorem portReadSized_raw (address : UInt16) (size : Nat) :
    a.raw.portReadSized address size =
      .ok ((a.readPortSized address size).1, (a.readPortSized address size).2.raw) := by
  match size with
  | 0 => rfl
  | 1 =>
    simp only [portReadSized, portRead_raw, Checked.ok_bind, Adapter.readPortSized]
    rfl
  | 2 =>
    simp only [portReadSized, portRead_raw, Checked.ok_bind, Adapter.readPortSized]
    rfl
  | _ + 3 => rfl

theorem portWriteSized_raw (address : UInt16) (size : Nat) (v : UInt32) :
    a.raw.portWriteSized address size v = .ok (a.writePortSized address size v).raw := by
  match size with
  | 0 => rfl
  | 1 => exact portWrite_raw a address v.toUInt8
  | 2 => exact portWriteWord_raw a address v.toUInt16
  | _ + 3 => rfl

theorem serve_raw (access : DeviceAccess) : a.raw.serve access = .ok (a.serve access).raw := by
  cases access with
  | readMemory address =>
    simp only [serve, memoryRead_raw, Checked.ok_bind]
    rfl
  | writeMemory address v => exact memoryWrite_raw a address v
  | readPort address size =>
    simp only [serve, portReadSized_raw, Checked.ok_bind]
    rfl
  | writePort address size v => exact portWriteSized_raw a address size v

/-- No sequence of accesses stops a new adapter. -/
theorem serveAll_powerOn (accesses : List DeviceAccess) :
    accesses.foldlM serve powerOn = .ok (accesses.foldl Adapter.serve .powerOn).raw := by
  rw [powerOn_eq]
  exact Checked.foldlM_eq serve Adapter.serve Adapter.raw serve_raw accesses .powerOn

end RawAdapter

end VgaFirmware
