import VgaFirmware.Machine.Script
import VgaFirmware.Proofs.Colours

/-!
# Streams of colours

The colour table is written and read through one port, a component at a time, and each of the two
streams counts for itself. So what is read, and from where, does not disturb what is written
(`Dac.written`), and neither does any access to another port. An entry changes when its third
component arrives and never in between, and what arrived is read back in the same order
(`Machine.colours_round_trip`).
-/

namespace VgaFirmware

/-- The components, in the order of the streams. -/
def Colour.components (c : Colour) : List UInt8 := [c.red, c.green, c.blue]

/-! ## Components -/

namespace Dac

variable {d : Dac}

/-- The table as its writer knows it: without the mask, and without the stream that reads. -/
def written (d : Dac) : Dac := { d with mask := 0xFF, readIndex := 0, readPhase := .red }

theorem entries_written (d : Dac) : d.written.entries = d.entries := rfl

theorem written_push (d : Dac) (v : UInt8) : (d.push v).written = d.written.push v := by
  obtain ⟨mask, writeIndex, writePhase, pending, readIndex, readPhase, entries⟩ := d
  cases writePhase <;> rfl

theorem written_pull (d : Dac) : d.pull.2.written = d.written := by
  obtain ⟨mask, writeIndex, writePhase, pending, readIndex, readPhase, entries⟩ := d
  cases readPhase <;> rfl

/-- Writes components one after the other. -/
def pushBytes (d : Dac) (bytes : List UInt8) : Dac := bytes.foldl push d

/-- Components that do not complete a colour leave the entries alone. -/
theorem entries_pushBytes_take (h : d.writePhase = .red) (colours : List Colour) (n : Nat) :
    (d.pushBytes ((colours.flatMap Colour.components).take n)).entries =
      (d.pushColours (colours.take (n / 3))).entries := by
  induction colours generalizing d n with
  | nil =>
    rw [List.flatMap_nil, List.take_nil, List.take_nil]
    rfl
  | cons c rest ih =>
    have hphase : (d.pushColour c).writePhase = .red := by
      rw [pushColour_eq h]
      exact h
    obtain ⟨mask, writeIndex, writePhase, pending, readIndex, readPhase, entries⟩ := d
    obtain rfl : writePhase = .red := h
    -- a colour takes three bytes, so fewer than three complete none
    match n with
    | 0 | 1 | 2 => rfl
    | n + 3 =>
      have hcount : (n + 3) / 3 = n / 3 + 1 := Nat.add_div_right n (by decide)
      rw [hcount]
      exact ih hphase n

/-- Colours were written to successive entries, from `first` on and round the table: an entry holds
the last of those that came to it, and the others are as they were. -/
structure Received (old : Dac) (first : UInt8) (colours : List Colour) (new : Dac) : Prop where
  kept : ∀ e, (∀ k < colours.length, first + UInt8.ofNat k ≠ e) → new.entry e = old.entry e
  filled : ∀ k c, colours[k]? = some c →
    (∀ l < colours.length, k < l → first + UInt8.ofNat l ≠ first + UInt8.ofNat k) →
      new.entry (first + UInt8.ofNat k) = c.sixBit

theorem received_pushColours (d : Dac) (first : UInt8) (colours : List Colour) :
    d.Received first colours ((d.seekWrite first).pushColours colours) where
  kept e := (entry_pushColours (d := d.seekWrite first) rfl colours e).1
  filled k c hk := (entry_pushColours (d := d.seekWrite first) rfl colours _).2 k c hk rfl

theorem Received.of_entries {old new new' : Dac} {first : UInt8} {colours : List Colour}
    (h : old.Received first colours new) (hentries : new'.entries = new.entries) :
    old.Received first colours new' where
  kept e he := by rw [entry, hentries]; exact h.kept e he
  filled k c hk hl := by rw [entry, hentries]; exact h.filled k c hk hl

/-- The colours of successive entries, round the table. -/
def entriesFrom (d : Dac) (first : UInt8) (count : Nat) : List Colour :=
  (List.range count).map fun k => d.entry (first + UInt8.ofNat k)

theorem entriesFrom_succ (d : Dac) (first : UInt8) (count : Nat) :
    d.entriesFrom first (count + 1) = d.entry first :: d.entriesFrom (first + 1) count := by
  have hfirst : first + UInt8.ofNat 0 = first := UInt8.add_zero first
  simp only [entriesFrom, List.range_succ_eq_map, List.map_cons, List.map_map, Function.comp_def,
    hfirst, ofNat_succ_add, Nat.succ_eq_add_one]

/-- Three reads give the components of an entry, and move the stream on. -/
theorem pull_pull_pull (h : d.readPhase = .red) :
    d.pull.1 = (d.entry d.readIndex).red ∧ d.pull.2.pull.1 = (d.entry d.readIndex).green ∧
      d.pull.2.pull.2.pull =
        ((d.entry d.readIndex).blue, { d with readIndex := d.readIndex + 1 }) := by
  obtain ⟨mask, writeIndex, writePhase, pending, readIndex, readPhase, entries⟩ := d
  obtain rfl : readPhase = .red := h
  exact ⟨rfl, rfl, rfl⟩

end Dac

/-! ## Ports -/

theorem Port.address_of_writes {port : UInt16}
    (h : Port.ofAddress port = .dacWriteIndex ∨ Port.ofAddress port = .dacValue) :
    port = 0x3C8 ∨ port = 0x3C9 := by
  unfold Port.ofAddress at h
  split at h <;> simp_all

namespace Adapter

theorem dac_writeCrtc (a : Adapter) (v : UInt8) : (a.writeCrtc v).dac = a.dac := by
  unfold writeCrtc
  split <;> rfl

theorem written_readPort (a : Adapter) (port : UInt16) :
    (a.readPort port).2.dac.written = a.dac.written := by
  unfold readPort
  cases Port.ofAddress port with
  | dacValue => exact a.dac.written_pull
  | _ => rfl

/-- Two ports lead to the stream that writes. -/
theorem written_writePort (a : Adapter) {port : UInt16} (v : UInt8)
    (h : ¬ (port = 0x3C8 ∨ port = 0x3C9)) : (a.writePort port v).dac.written = a.dac.written := by
  unfold writePort
  cases hport : Port.ofAddress port with
  | dacWriteIndex => exact absurd (Port.address_of_writes (.inl hport)) h
  | dacValue => exact absurd (Port.address_of_writes (.inr hport)) h
  | crtcValue => exact congrArg Dac.written (a.dac_writeCrtc v)
  | _ => rfl

end Adapter

/-! ## Scripts -/

namespace Action

/-- Reads a port, or writes a byte to one. -/
def accessesPort : Action → Bool
  | readPort _ | writePort _ _ => true
  | _ => false

/-- Writes to the stream of components, or moves it to an entry. -/
def writesColours : Action → Bool
  | writePort port _ => port == 0x3C8 || port == 0x3C9
  | _ => false

/-- Writes to the stream of components. -/
def sendsComponent : Action → Bool
  | writePort port _ => port == 0x3C9
  | _ => false

/-- Moves the stream that writes to an entry, and sends colours. -/
def colourStream (first : UInt8) (colours : List Colour) : List Action :=
  .writePort 0x3C8 first :: (colours.flatMap Colour.components).map (.writePort 0x3C9)

/-- Moves the stream that reads to an entry, and reads as many colours. -/
def colourReads (first : UInt8) (count : Nat) : List Action :=
  .writePort 0x3C7 first :: List.replicate (3 * count) (.readPort 0x3C9)

/-- A script of accesses to ports that sends colours, and may read colours and use other ports
between any two bytes of them. -/
structure SendsColours (first : UInt8) (colours : List Colour) (script : List Action) : Prop where
  ports : ∀ x ∈ script, x.accessesPort = true
  writes : script.filter writesColours = colourStream first colours

end Action

/-- The colour table of a machine. -/
def Machine.dac {bus : BusWidth} (m : Machine (Board bus)) : Dac := m.hardware.adapter.dac

namespace Action

variable {bus : BusWidth} {m n : Machine (Board bus)} {script : List Action}

theorem written_run_of_not_writes {x : Action} (hport : x.accessesPort = true)
    (hx : x.writesColours = false) : (run none m x).2.dac.written = m.dac.written := by
  cases x with
  | readPort port => exact m.hardware.adapter.written_readPort port
  | writePort port v =>
    exact m.hardware.adapter.written_writePort v (by simpa [writesColours] using hx)
  | _ => cases hport

theorem written_run_congr {x : Action} (hx : x.writesColours = true)
    (h : m.dac.written = n.dac.written) :
    (run none m x).2.dac.written = (run none n x).2.dac.written := by
  cases x with
  | writePort port v =>
    have hport : port = 0x3C8 ∨ port = 0x3C9 := by simpa [writesColours] using hx
    rcases hport with rfl | rfl
    · exact congrArg (Dac.seekWrite · v) h
    · calc (m.dac.push v).written = m.dac.written.push v := m.dac.written_push v
        _ = n.dac.written.push v := by rw [h]
        _ = (n.dac.push v).written := (n.dac.written_push v).symm
  | _ => cases hx

/-- Of the accesses to ports, those that write colours make up what is written. -/
theorem written_runAll_filter (hports : ∀ x ∈ script, x.accessesPort = true)
    (h : m.dac.written = n.dac.written) :
    (runAll none m script).2.dac.written =
      (runAll none n (script.filter writesColours)).2.dac.written := by
  induction script generalizing m n with
  | nil => exact h
  | cons x rest ih =>
    obtain ⟨hport, hrest⟩ := List.forall_mem_cons.mp hports
    cases hx : x.writesColours with
    | true =>
      rw [List.filter_cons_of_pos hx]
      exact ih hrest (written_run_congr hx h)
    | false =>
      rw [List.filter_cons_of_neg (by simp [hx])]
      exact ih hrest ((written_run_of_not_writes hport hx).trans h)

theorem dac_runAll_send (m : Machine (Board bus)) (bytes : List UInt8) :
    (runAll none m (bytes.map (.writePort 0x3C9))).2.dac = m.dac.pushBytes bytes := by
  induction bytes generalizing m with
  | nil => rfl
  | cons v rest ih => exact ih (m.writePort 0x3C9 v)

/-- Sending colours byte by byte is what the service does. -/
theorem runAll_colourStream (m : Machine (Board bus)) (first : UInt8) (colours : List Colour) :
    (runAll none m (colourStream first colours)).2 = m.writeColours first colours := by
  have hsend (m : Machine (Board bus)) :
      (runAll none m ((colours.flatMap Colour.components).map (.writePort 0x3C9))).2 =
        colours.foldl Machine.pushColour m := by
    induction colours generalizing m with
    | nil => rfl
    | cons c rest ih => exact ih (m.pushColour c)
  exact hsend (m.writePort 0x3C8 first)

/-- After some bytes of a stream the entries are those of the colours that are complete. -/
theorem entries_runAll_take (m : Machine (Board bus)) (first : UInt8) (colours : List Colour)
    (k : Nat) :
    (runAll none m ((colourStream first colours).take (k + 1))).2.dac.entries =
      ((m.dac.seekWrite first).pushColours (colours.take (k / 3))).entries := by
  rw [colourStream, List.take_succ_cons, ← List.map_take]
  have hsent := dac_runAll_send (m.writePort 0x3C8 first)
    ((colours.flatMap Colour.components).take k)
  exact (congrArg Dac.entries hsent).trans (Dac.entries_pushBytes_take rfl colours k)

theorem countP_take_colourStream {first : UInt8} {colours : List Colour} {k : Nat}
    (hk : k ≤ (colourStream first colours).length) :
    ((colourStream first colours).take k).countP sendsComponent = k - 1 := by
  cases k with
  | zero => rfl
  | succ k =>
    have hlength : k ≤ (colours.flatMap Colour.components).length := by
      simpa [colourStream] using hk
    have hall : ∀ v ∈ (colours.flatMap Colour.components).take k,
        (sendsComponent ∘ writePort 0x3C9) v = true := fun _ _ => rfl
    have hfirst : ¬ (writePort 0x3C8 first).sendsComponent = true := by simp [sendsComponent]
    rw [colourStream, List.take_succ_cons, List.countP_cons_of_neg hfirst, ← List.map_take,
      List.countP_map, List.countP_eq_length.mpr hall, List.length_take, Nat.min_eq_left hlength]
    rfl

/-- Reads give the components of successive entries. -/
theorem fst_runAll_reads (m : Machine (Board bus)) (h : m.dac.readPhase = .red) (count : Nat) :
    (runAll none m (List.replicate (3 * count) (.readPort 0x3C9))).1 =
      ((m.dac.entriesFrom m.dac.readIndex count).flatMap Colour.components).map .byte := by
  induction count generalizing m with
  | zero => rfl
  | succ count ih =>
    let next := (((m.readPort 0x3C9).2.readPort 0x3C9).2.readPort 0x3C9).2
    obtain ⟨hred, hgreen, hblue⟩ := m.dac.pull_pull_pull h
    have hnext : next.dac = { m.dac with readIndex := m.dac.readIndex + 1 } :=
      congrArg Prod.snd hblue
    have hreplies : (runAll none m (List.replicate (3 * (count + 1)) (.readPort 0x3C9))).1 =
        .byte m.dac.pull.1 :: .byte m.dac.pull.2.pull.1 :: .byte m.dac.pull.2.pull.2.pull.1 ::
          (runAll none next (List.replicate (3 * count) (.readPort 0x3C9))).1 := rfl
    have hphase : next.dac.readPhase = .red := by rw [hnext]; exact h
    rw [hreplies, ih next hphase, hred, hgreen, hblue, hnext, Dac.entriesFrom_succ]
    rfl

namespace SendsColours

variable {first : UInt8} {colours : List Colour}

theorem written_runAll (h : SendsColours first colours script) (m : Machine (Board bus)) :
    (runAll none m script).2.dac.written = (m.writeColours first colours).dac.written := by
  rw [written_runAll_filter h.ports rfl, h.writes, runAll_colourStream]

/-- At any point of the script a first part of the stream has been sent. -/
theorem exists_filter_take (h : SendsColours first colours script) (i : Nat) :
    ∃ k, (script.take i).filter writesColours = (colourStream first colours).take k ∧
      (script.take i).countP sendsComponent = k - 1 := by
  have hpart : (script.take i).filter writesColours <+: colourStream first colours :=
    h.writes ▸ (List.take_prefix i script).filter writesColours
  have hwrites : ∀ x ∈ script.take i,
      (sendsComponent x && writesColours x) = true ↔ sendsComponent x = true := by
    intro x _
    cases x <;> simp +contextual [sendsComponent, writesColours]
  refine ⟨_, List.prefix_iff_eq_take.mp hpart, ?_⟩
  rw [← countP_take_colourStream hpart.length_le, ← List.prefix_iff_eq_take.mp hpart,
    List.countP_filter, List.countP_congr hwrites]

/-- At any point of the script the entries hold the colours that have been sent whole. -/
theorem received_take (h : SendsColours first colours script) (m : Machine (Board bus)) (i : Nat) :
    m.dac.Received first (colours.take ((script.take i).countP sendsComponent / 3))
      (runAll none m (script.take i)).2.dac := by
  -- up to this point the script has written as `k` accesses of the plain stream would
  obtain ⟨k, hfilter, hcount⟩ := h.exists_filter_take i
  have hports : ∀ x ∈ script.take i, x.accessesPort = true :=
    fun x hx => h.ports x (List.mem_of_mem_take hx)
  have hwritten := written_runAll_filter (m := m) hports rfl
  rw [hfilter] at hwritten
  have hentries : (runAll none m (script.take i)).2.dac.entries =
      (runAll none m ((colourStream first colours).take k)).2.dac.entries := by
    rw [← Dac.entries_written, hwritten, Dac.entries_written]
  rw [hcount]
  cases k with
  | zero => exact (m.dac.received_pushColours first []).of_entries hentries
  | succ k =>
    exact (m.dac.received_pushColours first _).of_entries
      (hentries.trans (entries_runAll_take m first colours k))

end SendsColours

end Action

namespace Machine

variable {bus : BusWidth}

/-- The colour table takes colours and gives them back. Colours that are written fill successive
entries and no others, and the stream is left at the entry behind them, ready for a first component.
Accesses to ports in between, that write no colours themselves, make no difference; and at any point
between them the entries hold what has been sent whole. What is read is the components of successive
entries. -/
theorem colours_round_trip (m : Machine (Board bus)) (first : UInt8) (colours : List Colour) :
    let w := m.writeColours first colours
    (m.dac.Received first colours w.dac ∧
      w.dac.writeIndex = first + UInt8.ofNat colours.length ∧ w.dac.writePhase = .red) ∧
    (∀ script, Action.SendsColours first colours script →
      (Action.runAll none m script).2.dac.written = w.dac.written ∧
      ∀ i, m.dac.Received first (colours.take ((script.take i).countP Action.sendsComponent / 3))
        (Action.runAll none m (script.take i)).2.dac) ∧
    ∀ (u : Machine (Board bus)) (start : UInt8) (count : Nat),
      (Action.runAll none u (Action.colourReads start count)).1 =
        .done :: ((u.dac.entriesFrom start count).flatMap Colour.components).map .byte := by
  intro w
  have hw : w.dac = (m.dac.seekWrite first).pushColours colours := m.dac_writeColours first colours
  refine ⟨?_, fun script h => ⟨h.written_runAll m, h.received_take m⟩, fun u start count => ?_⟩
  · rw [hw]
    refine ⟨m.dac.received_pushColours first colours, ?_, ?_⟩
    · rw [Dac.pushColours_eq rfl]
      rfl
    · rw [Dac.pushColours_eq rfl]
      rfl
  · exact congrArg (.done :: ·) (Action.fst_runAll_reads (u.writePort 0x3C7 start) rfl count)

/-- Two colours to the last entry and the first one, disturbed between their bytes. Two bytes of
three leave the last entry as it was. -/
theorem colours_round_trip_disturbed :
    let m : Machine (Board .word) := .ofHardware (.powerOn .word)
    let script : List Action :=
      [.writePort 0x3C8 0xFF, .writePort 0x3C9 1, .readPort 0x3C9, .writePort 0x3C9 0x42,
        .writePort 0x3C7 3, .writePort 0x3C9 3, .writePort 0x3C9 4, .readPort 0x3DA,
        .writePort 0x3C9 5, .writePort 0x3C9 6]
    Action.SendsColours 0xFF [⟨1, 0x42, 3⟩, ⟨4, 5, 6⟩] script ∧
      (Action.runAll none m (script.take 5)).2.dac.entry 0xFF = m.dac.entry 0xFF ∧
      (Action.runAll none m (script.take 10)).2.dac.entry 0 = ⟨4, 5, 6⟩ := by
  intro m script
  have hscript : Action.SendsColours 0xFF [⟨1, 0x42, 3⟩, ⟨4, 5, 6⟩] script := ⟨by decide, rfl⟩
  obtain ⟨-, hsent, -⟩ := m.colours_round_trip 0xFF [⟨1, 0x42, 3⟩, ⟨4, 5, 6⟩]
  have hreceived := (hsent script hscript).2
  have hcounts : (script.take 5).countP Action.sendsComponent = 2 ∧
      (script.take 10).countP Action.sendsComponent = 6 := by decide
  have hpart := hreceived 5
  have hwhole := hreceived 10
  rw [hcounts.1] at hpart
  rw [hcounts.2] at hwhole
  exact ⟨hscript, hpart.kept 0xFF (by decide), hwhole.filled 1 ⟨4, 5, 6⟩ rfl (by decide)⟩

end Machine

end VgaFirmware
