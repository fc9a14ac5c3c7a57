import VgaFirmware.Proofs.LikeServices
import VgaFirmware.Proofs.StringCursor
import VgaFirmware.Proofs.ViewIndependence
import VgaFirmware.Proofs.WrittenCells

/-!
# What writing a string leaves

A string ends before its first zero byte, or where the search for one gives up, which is reported
(`stringLength_eq`). Its bytes replace characters, and its colour one attribute more than that
(`Showing.overwrites_putString`). Registers, window and the caller's memory come out as they were
(`Started.writeString_memory`).
-/

namespace VgaFirmware

variable {bus : BusWidth}

/-! ## The end of a string -/

namespace Board

/-- A search that stays clear of display memory finds the first zero byte, if there is one, and
changes nothing. -/
theorem findZero_eq (b : Board bus) (a : UInt32) (i : Nat) {count : Nat}
    (hscan : ∀ x ∈ Backend.scanned b a count, x.isDisplay = false) :
    Backend.findZero b a i count = (((b.ram.slice a count).findIdx? (· == 0)).map (· + i), b) := by
  induction count generalizing a i with
  | zero => rfl
  | succ count ih =>
    have hfetch : Backend.fetch b a = (b.ram.get (.ofLinear a), b) :=
      b.read_memory (hscan _ List.mem_cons_self)
    simp only [Backend.scanned, hfetch] at hscan
    simp only [Backend.findZero, hfetch, Ram.slice_succ, List.findIdx?_cons, beq_iff_eq]
    split
    · simp
    · next hv =>
      rw [if_neg hv] at hscan
      rw [ih (a + 1) (i + 1) fun x hx => hscan x (List.mem_cons_of_mem _ hx), Option.map_map]
      congr 2
      funext j
      simp only [Function.comp_apply]
      omega

/-! ## A string in the planes -/

variable {b : Board bus} {start index : UInt16} {first : Nat} {buffer : UInt32} {length : Nat}

/-- Bytes from outside display memory are copied to the view of a plane as they are. -/
theorem Showing.overwrites_copyIn {q : Plane} (h : b.Showing (.plane q) start)
    (hfirst : planeBase start + index = UInt16.ofNat first) (hlength : length ≤ 65536)
    (hread : ∀ i < length, (Address.ofLinear (buffer + UInt32.ofNat i)).isDisplay = false) :
    Overwrites first length (fun i => b.ram.get (.ofLinear (buffer + UInt32.ofNat i)))
      (b.adapter.planes.get q) ((Backend.copyIn b index buffer length).adapter.planes.get q) := by
  have hdata {c : Board bus} (hc : Backend.Accesses b c) (i : Nat) (hi : i < length) :
      (Backend.fetch c (buffer + UInt32.ofNat i)).1 =
        b.ram.get (.ofLinear (buffer + UInt32.ofNat i)) := by
    change (c.read _).1 = _
    rw [c.read_memory (hread i hi), (h.shielded.accesses hc).2]
  exact overwrites_of_planePlace hfirst hlength
    ((shows_plane q start).byte_copyIn h index buffer hlength hdata)

/-- A string replaces characters, and its colour as many attributes and one more. -/
theorem Showing.overwrites_putString (h : b.Showing (.plane .characters) start)
    (hfirst : planeBase start + index = UInt16.ofNat first) (hlength : length < 65536)
    (hread : ∀ i < length, (Address.ofLinear (buffer + UInt32.ofNat i)).isDisplay = false)
    (options : StringOptions) (attr : UInt8) :
    let planes := (b.putString options index buffer length attr).adapter.planes
    Overwrites first length (fun i => b.ram.get (.ofLinear (buffer + UInt32.ofNat i)))
        (b.adapter.planes.get .characters) (planes.get .characters) ∧
      if options.writeAttribute then
        Overwrites first (length + 1) (fun _ => attr) (b.adapter.planes.get .attributes)
          (planes.get .attributes)
      else planes.get .attributes = b.adapter.planes.get .attributes := by
  intro planes
  have hchars := h.overwrites_copyIn hfirst (Nat.le_of_lt hlength) hread
  have hcopied : Backend.Accesses b (Backend.copyIn b index buffer length) :=
    .copyIn .refl index buffer length
  obtain ⟨-, hattrs⟩ := (h.closed (p := .attributes) (by decide)).accesses hcopied
  simp only [planes, putString]
  split
  · -- either transfer runs while the plane of the other one is closed
    have hselect := ((sameRegisters_of_accesses hcopied).showing h).selectPlane .attributes
    have hmore : length + 1 ≤ 65536 := hlength
    have hfill := hselect.overwrites_fill hfirst attr hmore
    obtain ⟨-, hkept⟩ := (hselect.closed (p := .characters) (by decide)).accesses
      (.fill .refl index attr (length + 1))
    rw [(sameMemory_selectPlane _ _).planes] at hkept hfill
    rw [hattrs] at hfill
    exact ⟨hkept ▸ hchars, hfill⟩
  · exact ⟨hchars, hattrs⟩

end Board

/-! ## Events -/

namespace Machine

variable {B : Type} [Backend B] (m : Machine B)

@[simp] theorem events_writePortWord (port w : UInt16) :
    (m.writePortWord port w).events = m.events := by
  unfold writePortWord
  split <;> rfl

@[simp] theorem events_writeReg (c : Controller) (i v : UInt8) :
    (m.writeReg c i v).events = m.events :=
  m.events_writePortWord _ _

theorem events_writeRegPair (c : Controller) (i : UInt8) (w : UInt16) :
    (m.writeRegPair c i w).events = m.events := rfl

theorem events_selectPlane (p : Plane) : (m.selectPlane p).events = m.events := by
  simp [selectPlane]

theorem events_openView (v : View) (start : UInt16) :
    (m.openView v start).2.events = m.events.push (.viewOpened v (v.segment start)) := by
  have hprogram (n : Machine B) (r : ViewRegisters) : (n.program r).events = n.events := by
    simp [program]
  exact congrArg (·.push (.viewOpened v (v.segment start)))
    (hprogram m.capture.2 (v.registers ⟨m.capture.1.graphicsMisc⟩))

theorem events_closeView (saved : Saved) :
    (m.closeView saved).events = m.events.push .viewClosed := rfl

/-- A bracket reports its opening and its closing. -/
theorem events_edit (v : View) (start : UInt16) {body : Machine B → Machine B}
    (hbody : ∀ n, (body n).events = n.events) :
    (m.edit v start body).events =
      (m.events.push (.viewOpened v (v.segment start))).push .viewClosed := by
  rw [edit, events_closeView, hbody, events_openView]

end Machine

namespace Service

section

variable (s : Service (Board bus))

/-- What is reported while a string is written. -/
def stringEvents (buffer : UInt32) : List Event :=
  let limit := s.settings.scanLimit
  let start := s.screen.pageStart s.screen.activePage
  (if 0 ∈ s.machine.hardware.ram.slice buffer limit.toNat then []
    else [.scanLimitReached buffer limit]) ++
    [.viewOpened (.plane .characters) ((View.plane .characters).segment start), .viewClosed]

/-- A search without an end is all that is warned of. -/
theorem warnings_stringEvents (buffer : UInt32) :
    (s.stringEvents buffer).filter (·.level = .warn) =
      if 0 ∈ s.machine.hardware.ram.slice buffer s.settings.scanLimit.toNat then []
      else [.scanLimitReached buffer s.settings.scanLimit] := by
  simp only [stringEvents]
  split
  · rfl
  · rfl

theorem events_putText (page : UInt8) (options : StringOptions) (index : UInt16)
    (buffer : UInt32) (length : UInt16) (attr : UInt8) :
    (s.putText page options index buffer length attr).machine.events =
      (s.machine.events.push (.viewOpened (.plane .characters)
        ((View.plane .characters).segment (s.screen.pageStart page)))).push .viewClosed := by
  rw [putText, machine_update, Machine.events_edit]
  intro n
  simp only
  split
  · rw [Machine.events_update, Machine.events_selectPlane, Machine.events_update]
  · rfl

theorem events_setCursorPosition (page x y : UInt8) :
    (s.setCursorPosition page x y).2.machine.events = s.machine.events := by
  unfold setCursorPosition
  split
  · rfl
  · simp only
    split
    · exact Machine.events_writeRegPair _ _ _ _
    · rfl

end

variable {s : Service (Board bus)}

/-- A question that leaves the hardware as it is leaves the service as it is. -/
theorem query_of_unchanged {α : Type} {f : Board bus → α × Board bus} {a : α}
    (h : f s.machine.hardware = (a, s.machine.hardware)) : s.query (·.query f) = (a, s) := by
  obtain ⟨settings, screen, hardware, cycles, events⟩ := s
  simp only [query, Machine.query]
  rw [h]

section

variable {buffer : UInt32}
  (hscan : ∀ a ∈ Backend.scanned s.machine.hardware buffer s.settings.scanLimit.toNat,
    a.isDisplay = false)

include hscan

/-- The length of a string outside display memory. Looking for it changes nothing. -/
theorem stringLength_eq :
    let bytes := s.machine.hardware.ram.slice buffer s.settings.scanLimit.toNat
    s.stringLength buffer =
      (UInt16.ofNat (bytes.findIdx (· == 0)),
        if 0 ∈ bytes then s else s.emit (.scanLimitReached buffer s.settings.scanLimit)) := by
  intro bytes
  have hlength : bytes.length = s.settings.scanLimit.toNat := Ram.length_slice _ _ _
  simp only [stringLength]
  rw [query_of_unchanged (s.machine.hardware.findZero_eq buffer 0 hscan)]
  cases hzero : bytes.findIdx? (· == 0) with
  | some n =>
    obtain ⟨hlt, hfirst⟩ := List.findIdx?_eq_some_iff_findIdx_eq.mp hzero
    have hmem : 0 ∈ bytes := by
      rw [← hfirst, List.findIdx_lt_length] at hlt
      simpa using hlt
    rw [hfirst, if_pos hmem]
    rfl
  | none =>
    have hnone := List.findIdx?_eq_none_iff.mp hzero
    have hlast := (List.findIdx_eq_length.mpr hnone).trans hlength
    have hmem : 0 ∉ bytes := fun h => absurd (hnone 0 h) (by decide)
    rw [hlast, if_neg hmem, UInt16.ofNat_toNat]
    rfl

theorem toNat_stringLength :
    (s.stringLength buffer).1.toNat =
      (s.machine.hardware.ram.slice buffer s.settings.scanLimit.toNat).findIdx (· == 0) := by
  let bytes := s.machine.hardware.ram.slice buffer s.settings.scanLimit.toNat
  have hle : bytes.findIdx (· == 0) ≤ bytes.length := List.findIdx_le_length
  rw [Ram.length_slice] at hle
  rw [stringLength_eq hscan, UInt16.toNat_ofNat']
  exact Nat.mod_eq_of_lt (Nat.lt_of_le_of_lt hle s.settings.scanLimit.toNat_lt)

/-- Writing a string reports a search that found no end, and the view that it opens. -/
theorem events_writeString (options : StringOptions) (attr x y : UInt8) :
    (s.writeString options buffer attr x y).2.machine.events.toList =
      s.machine.events.toList ++ s.stringEvents buffer := by
  refine writeString_after (P := fun t => t.machine.events.toList = _) s ?_ ?_
  · rw [stringLength_eq hscan]
    simp only [events_putText, stringEvents]
    split
    · simp
    · have hreport (e : Event) : (s.emit e).machine.events = s.machine.events.push e := rfl
      have hscreen (e : Event) : (s.emit e).screen = s.screen := rfl
      simp [hreport, hscreen]
  · intro t page x y ht
    rw [events_setCursorPosition, ht]

/-- The planes after a string was written are those after it was put into the page. -/
theorem planes_writeString (options : StringOptions) (attr x y : UInt8) :
    (s.writeString options buffer attr x y).2.machine.hardware.adapter.planes =
      ((s.machine.hardware.openView (.plane .characters)
        (s.screen.pageStart s.screen.activePage)).putString options (s.screen.cellIndex ⟨x, y⟩)
          buffer (s.stringLength buffer).1.toNat attr).adapter.planes := by
  refine writeString_after (P := fun t => t.machine.hardware.adapter.planes = _) s ?_ ?_
  · have hsame : (s.stringLength buffer).2.machine.hardware = s.machine.hardware := by
      rw [stringLength_eq hscan]
      split <;> rfl
    simp only [hardware_putText, Board.planes_within]
    rw [hsame, (s.quiet_stringLength buffer).screen]
  · intro t page x y ht
    rw [← ht]
    exact (t.sameMemory_setCursorPosition page x y).planes

end

variable {window : UInt16} {spec : ModeSpec}

theorem Usable.fst_writeString (h : s.Usable window spec) (options : StringOptions)
    (buffer : UInt32) (attr x y : UInt8) :
    (s.writeString options buffer attr x y).1 = .ok (s.stringLength buffer).1 := by
  cases hmove : options.moveCursor with
  | false =>
    simp only [writeString, hmove]
    rfl
  | true =>
    let slot : Page := ⟨s.screen.activePage.toNat, h.screen.activePage⟩
    exact (h.cursor_writeString (rfl : slot.val = _) hmove buffer attr x y).1

/-- A string that lies outside display memory ends before its first zero byte, or at the limit of
the search, and only the latter is warned of. Its bytes replace characters of the active page from
the cell that is named, round the end of the plane if need be. Attributes are replaced from there
on as well if they are asked for, one more than there are characters. Nothing else in memory
changes, and the view registers and the window come out as they were. -/
theorem Started.writeString_memory (h : s.Started window) (options : StringOptions)
    (buffer : UInt32) (attr x y : UInt8)
    (hscan : ∀ a ∈ Backend.scanned s.machine.hardware buffer s.settings.scanLimit.toNat,
      a.isDisplay = false) :
    let ram := s.machine.hardware.ram
    let bytes := ram.slice buffer s.settings.scanLimit.toNat
    let first := s.screen.planeOffset s.screen.activePage ⟨x, y⟩
    ∃ n t emitted, s.writeString options buffer attr x y = (.ok n, t) ∧
      n.toNat = bytes.findIdx (· == 0) ∧
      t.machine.events.toList = s.machine.events.toList ++ emitted ∧
      emitted.filter (·.level = .warn) =
        (if 0 ∈ bytes then [] else [.scanLimitReached buffer s.settings.scanLimit]) ∧
      Overwrites first n.toNat (fun i => ram.get (.ofLinear (buffer + UInt32.ofNat i)))
        (s.plane .characters) (t.plane .characters) ∧
      (if options.writeAttribute then
        Overwrites first (n.toNat + 1) (fun _ => attr) (s.plane .attributes) (t.plane .attributes)
      else t.plane .attributes = s.plane .attributes) ∧
      (∀ q, 2 ≤ q.val → t.plane q = s.plane q) ∧ t.machine.hardware.ram = ram ∧
      t.machine.hardware.adapter.viewRegisters = s.machine.hardware.adapter.viewRegisters ∧
      t.machine.hardware.window = s.machine.hardware.window := by
  intro ram bytes first
  obtain ⟨spec, hs⟩ := h.usable
  have hopen := hs.ready.plain.showing_openView (.plane .characters)
    (s.screen.pageStart s.screen.activePage)
  have hread (i : Nat) (hi : i < (s.stringLength buffer).1.toNat) :=
    hscan _ (s.mem_scanned_of_stringLength buffer hi)
  have hput := hopen.overwrites_putString
    (Screen.planeBase_add_cellIndex (hs.pageStart_mod _) ⟨x, y⟩) (UInt16.toNat_lt _) hread options
    attr
  rw [← planes_writeString hscan options attr x y] at hput
  have hdone := (kept_usable window spec).writeString hs options buffer attr x y
  refine ⟨_, _, _, Prod.ext (hs.fst_writeString options buffer attr x y) rfl,
    toNat_stringLength hscan, events_writeString hscan options attr x y,
    s.warnings_stringEvents buffer, hput.1, hput.2, ?_, ?_, ?_, ?_⟩
  · intro q hq
    exact s.plane_writeString hq options buffer attr x y
  · exact s.ram_writeString options buffer attr x y
  · exact (kept_viewRegisters _).writeString rfl options buffer attr x y
  · exact hdone.ready.window.trans hs.ready.window.symm

/-- Powered on over a caller's memory, with strings searched for two bytes and no further. -/
def shortSearch (ram : Ram) : Service (Board .word) :=
  (Service.start { Settings.standard with scanLimit := 2 } ⟨0, ram, .powerOn⟩).powerOn.2

theorem ram_shortSearch (ram : Ram) : (shortSearch ram).machine.hardware.ram = ram := by
  unfold shortSearch
  rw [ram_powerOn _ (show ModeSpec.lookup 0x01 = .ok (.text 0x01 .narrow 0x0800) from rfl)]
  rfl

/-- Of a string whose end lies past the limit two bytes are written, and three attributes. -/
theorem Started.writeString_unterminated :
    let s := shortSearch (Ram.blank.write 0 [0x48, 0x69])
    Started 0 s ∧
      (∀ a ∈ Backend.scanned s.machine.hardware 0 s.settings.scanLimit.toNat,
        a.isDisplay = false) ∧
      ∃ t emitted, s.writeString ⟨false, true⟩ 0 0x1F 0 1 = (.ok 2, t) ∧
        t.machine.events.toList = s.machine.events.toList ++ emitted ∧
        emitted.filter (·.level = .warn) = [.scanLimitReached 0 2] ∧
        t.plane .characters 41 = 0x69 ∧ t.plane .attributes 42 = 0x1F := by
  have hne : Address.ofLinear 0 ≠ Address.ofLinear 1 := by decide
  have hsecond : (Ram.blank.write 0 [0x48, 0x69]).get (.ofLinear 1) = 0x69 := by
    simp [Ram.write, Ram.get_set]
  have hbytes : (Ram.blank.write 0 [0x48, 0x69]).slice 0 (2 : UInt16).toNat = [0x48, 0x69] := by
    simp [Ram.slice, Ram.write, Ram.get_set, List.range_succ, hne]
  -- nothing else matters of the caller's memory
  generalize Ram.blank.write 0 [0x48, 0x69] = ram at hsecond hbytes
  have hram := ram_shortSearch ram
  have hlimit : (shortSearch ram).settings.scanLimit = 2 :=
    congrArg Settings.scanLimit (settings_powerOn _)
  have hfirst : (shortSearch ram).screen.planeOffset (shortSearch ram).screen.activePage
      ⟨0, 1⟩ = 40 := by
    have hscreen : (shortSearch ram).screen = Screen.initial.enter (.text 0x01 .narrow 0x0800) :=
      screen_powerOn _ rfl
    rw [hscreen]
    decide +kernel
  have h : Started 0 (shortSearch ram) := .powerOn _ _
  have hscan (a : Address) (ha : a ∈ Backend.scanned (shortSearch ram).machine.hardware 0
      (shortSearch ram).settings.scanLimit.toNat) : a.isDisplay = false :=
    Backend.isDisplay_of_scanned_low (Nat.le_of_lt (UInt16.toNat_lt _)) ha
  obtain ⟨n, t, emitted, hwrite, hn, hevents, hwarn, hchars, hattrs, -⟩ :=
    h.writeString_memory ⟨false, true⟩ 0 0x1F 0 1 hscan
  rw [hram, hlimit, hbytes] at hn hwarn
  obtain rfl : n = 2 := UInt16.toNat_inj.mp hn
  rw [hfirst] at hchars hattrs
  rw [hram] at hchars
  exact ⟨h, hscan, t, emitted, hwrite, hevents, hwarn, (hchars.written 1 (by decide)).trans hsecond,
    hattrs.written 2 (by decide)⟩

end Service

end VgaFirmware
