import VgaFirmware.Proofs.BringUp

/-!
# Colours

The attribute controller takes indices and values in turn from one port, so a pair of writes sets a
register only if an index is expected; a read of the status port makes sure of that
(`attributes_resetAttributes`). The colour table takes components; a stream that starts at the first
component of an entry fills entry after entry, and goes round after the last one
(`Dac.entry_pushColours`).
-/

namespace VgaFirmware

/-! ## The attribute controller -/

namespace AttributeController

theorem index_and_mask {i : UInt8} (hi : i.toNat < 32) : i &&& 0x1F = i := by
  rw [← UInt8.toNat_inj, UInt8.toNat_and]
  exact (Nat.and_two_pow_sub_one_eq_mod i.toNat 5).trans (Nat.mod_eq_of_lt hi)

variable {c : AttributeController}

/-- A pair of writes sets the register that the first one names. -/
theorem push_push (h : c.expectsValue = false) {i : UInt8} (hi : i.toNat < 21) (v : UInt8) :
    (c.push i).push v = ⟨i, false, c.values.setIfInBounds i.toNat v⟩ := by
  have hmask := index_and_mask (i := i) (by omega)
  simp only [push, h, Bool.false_eq_true, if_false, if_true, hmask]

theorem read_push_push (h : c.expectsValue = false) {i j : UInt8} (hi : i.toNat < 21)
    (hj : j.toNat < 21) (v : UInt8) :
    ((c.push i).push v).read j = if j = i then v else c.read j := by
  rw [push_push h hi]
  simp only [read, index_and_mask (show j.toNat < 32 by omega), Vector.getElem?_setIfInBounds]
  by_cases hij : j = i
  · subst hij
    simp only [if_true, hj, Option.getD_some]
  · have hne : i.toNat ≠ j.toNat := fun e => hij (UInt8.toNat_inj.mp e).symm
    simp only [hij, hne, if_false]

theorem push_of_index (h : c.expectsValue = false) (v : UInt8) :
    c.push v = { c with index := v &&& 0x1F, expectsValue := true } := by
  simp only [push, h, Bool.false_eq_true, if_false]

theorem read_push_of_index (h : c.expectsValue = false) (v j : UInt8) :
    (c.push v).read j = c.read j := by
  rw [push_of_index h]
  rfl

/-- Each of the first registers is set to its own index. -/
def pushIndices (c : AttributeController) (n : Nat) : AttributeController :=
  (List.range n).foldl (fun c i => (c.push (UInt8.ofNat i)).push (UInt8.ofNat i)) c

theorem pushIndices_spec (h : c.expectsValue = false) {n : Nat} (hn : n ≤ 21) :
    (c.pushIndices n).expectsValue = false ∧
      ∀ j : UInt8, j.toNat < 21 →
        (c.pushIndices n).read j = if j.toNat < n then j else c.read j := by
  induction n with
  | zero => exact ⟨h, fun j _ => rfl⟩
  | succ n ih =>
    obtain ⟨hexpects, hread⟩ := ih (by omega)
    have hval : (UInt8.ofNat n).toNat = n := by
      rw [UInt8.toNat_ofNat']
      omega
    have hsucc : c.pushIndices (n + 1) =
        ((c.pushIndices n).push (UInt8.ofNat n)).push (UInt8.ofNat n) := by
      simp only [pushIndices, List.range_succ, List.foldl_append, List.foldl_cons, List.foldl_nil]
    rw [hsucc]
    refine ⟨?_, fun j hj => ?_⟩
    · rw [push_push hexpects (by omega)]
    · rw [read_push_push hexpects (by omega) hj, hread j hj]
      by_cases hjn : j = UInt8.ofNat n
      · subst hjn
        rw [if_pos rfl, hval, if_pos (Nat.lt_succ_self n)]
      · have hne : j.toNat ≠ n := fun e => hjn (UInt8.toNat_inj.mp (e.trans hval.symm))
        have hlt : j.toNat < n + 1 ↔ j.toNat < n := by omega
        simp only [if_neg hjn, hlt]

/-- Whatever was expected, the first registers are set to their indices and another to `0x08`, and
the display gets the colours back. -/
def passThrough (c : AttributeController) : AttributeController :=
  (((c.reset.pushIndices 16).push 0x10).push 0x08).push 0x20

theorem passThrough_spec (c : AttributeController) :
    c.passThrough.index = 0 ∧ c.passThrough.expectsValue = true ∧
      ∀ j : UInt8, j.toNat < 21 → c.passThrough.read j =
        if j = 0x10 then 0x08 else if j.toNat < 16 then j else c.read j := by
  obtain ⟨hexpects, hread⟩ := pushIndices_spec (c := c.reset) rfl (n := 16) (by omega)
  have hlast : (((c.reset.pushIndices 16).push 0x10).push 0x08).expectsValue = false := by
    rw [push_push hexpects (by decide)]
  refine ⟨?_, ?_, fun j hj => ?_⟩
  · rw [passThrough, push_of_index hlast]
    rfl
  · rw [passThrough, push_of_index hlast]
  · rw [passThrough, read_push_of_index hlast, read_push_push hexpects (by decide) hj, hread j hj]
    rfl

theorem read_passThrough (c : AttributeController) {j : UInt8} (hj : j.toNat ≤ 0x10) :
    c.passThrough.read j = if j = 0x10 then 0x08 else j := by
  rw [c.passThrough_spec.2.2 j (by omega)]
  by_cases h : j = 0x10
  · rw [if_pos h, if_pos h]
  · have hne : j.toNat ≠ 0x10 := fun e => h (UInt8.toNat_inj.mp e)
    rw [if_neg h, if_neg h, if_pos (by omega)]

/-- A controller is known by what it expects and what it reads. -/
theorem ext_read {c d : AttributeController} (hindex : c.index = d.index)
    (hexpects : c.expectsValue = d.expectsValue)
    (h : ∀ j : UInt8, j.toNat < 21 → c.read j = d.read j) : c = d := by
  obtain ⟨i, expects, values⟩ := c
  obtain ⟨i', expects', values'⟩ := d
  obtain rfl : i = i' := hindex
  obtain rfl : expects = expects' := hexpects
  congr 1
  apply Vector.ext
  intro k hk
  have hval : (UInt8.ofNat k).toNat = k := by
    rw [UInt8.toNat_ofNat']
    omega
  have hmask := index_and_mask (show (UInt8.ofNat k).toNat < 32 by omega)
  simpa [read, hmask, hval, hk] using h (UInt8.ofNat k) (by omega)

/-- Doing it again changes nothing. -/
theorem passThrough_passThrough (c : AttributeController) :
    c.passThrough.passThrough = c.passThrough := by
  obtain ⟨hindex, hexpects, hread⟩ := c.passThrough_spec
  obtain ⟨hindex', hexpects', hread'⟩ := c.passThrough.passThrough_spec
  refine ext_read (hindex'.trans hindex.symm) (hexpects'.trans hexpects.symm) fun j hj => ?_
  rw [hread' j hj, hread j hj]
  split
  · rfl
  · split <;> rfl

end AttributeController

/-! ## The colour table -/

namespace Dac

/-- Writes the components of a colour. -/
def pushColour (d : Dac) (c : Colour) : Dac := ((d.push c.red).push c.green).push c.blue

/-- Writes colours one after the other. -/
def pushColours (d : Dac) (colours : List Colour) : Dac := colours.foldl pushColour d

variable {d : Dac}

/-- From its first component on, a colour fills the entry at which the stream stands. -/
theorem pushColour_eq (h : d.writePhase = .red) (c : Colour) :
    d.pushColour c =
      { d with
        writeIndex := d.writeIndex + 1
        pending := c.sixBit
        entries := d.entries.set d.writeIndex.toNat c.sixBit d.writeIndex.toNat_lt } := by
  obtain ⟨mask, writeIndex, writePhase, pending, readIndex, readPhase, entries⟩ := d
  obtain rfl : writePhase = .red := h
  rfl

theorem entry_pushColour (h : d.writePhase = .red) (c : Colour) (e : UInt8) :
    (d.pushColour c).entry e = if e = d.writeIndex then c.sixBit else d.entry e := by
  have hval : d.writeIndex.toNat = e.toNat ↔ e = d.writeIndex := by
    rw [UInt8.toNat_inj, eq_comm]
  rw [pushColour_eq h]
  exact (Vector.getElem_set d.writeIndex.toNat_lt e.toNat_lt).trans (if_congr hval rfl rfl)

theorem ofNat_succ_add (i : UInt8) (k : Nat) :
    i + 1 + UInt8.ofNat k = i + UInt8.ofNat (k + 1) := by
  rw [UInt8.add_assoc, Nat.add_comm k 1, UInt8.ofNat_add]
  rfl

/-- An entry that the stream does not come to stays, and another holds the last colour that the
stream put there. -/
theorem entry_pushColours (h : d.writePhase = .red) (colours : List Colour) (e : UInt8) :
    ((∀ k < colours.length, d.writeIndex + UInt8.ofNat k ≠ e) →
      (d.pushColours colours).entry e = d.entry e) ∧
    ∀ k c, colours[k]? = some c → d.writeIndex + UInt8.ofNat k = e →
      (∀ l < colours.length, k < l → d.writeIndex + UInt8.ofNat l ≠ e) →
        (d.pushColours colours).entry e = c.sixBit := by
  induction colours generalizing d with
  | nil =>
    refine ⟨fun _ => rfl, fun k c hk => ?_⟩
    simp at hk
  | cons first rest ih =>
    have hphase : (d.pushColour first).writePhase = .red := by
      rw [pushColour_eq h]
      exact h
    have hindex : (d.pushColour first).writeIndex = d.writeIndex + 1 := by rw [pushColour_eq h]
    obtain ⟨hkept, hfilled⟩ := ih hphase
    simp only [hindex, ofNat_succ_add] at hkept hfilled
    refine ⟨fun hmiss => ?_, fun k c hk hhit hlast => ?_⟩
    · have hrest := hkept fun k hk => hmiss (k + 1) (Nat.succ_lt_succ hk)
      have hfirst : ¬ e = d.writeIndex := fun he =>
        hmiss 0 (Nat.zero_lt_succ _) ((UInt8.add_zero _).trans he.symm)
      exact hrest.trans ((entry_pushColour h first e).trans (if_neg hfirst))
    · cases k with
      | zero =>
        obtain rfl : first = c := Option.some.inj hk
        have hrest := hkept fun k hk => hlast (k + 1) (Nat.succ_lt_succ hk) (Nat.zero_lt_succ k)
        have hfirst : e = d.writeIndex := hhit.symm.trans (UInt8.add_zero _)
        exact hrest.trans ((entry_pushColour h first e).trans (if_pos hfirst))
      | succ k =>
        exact hfilled k c hk hhit fun l hl hkl =>
          hlast (l + 1) (Nat.succ_lt_succ hl) (Nat.succ_lt_succ hkl)

/-- Writing colours moves the stream past them, and the last of them stays pending. -/
theorem pushColours_eq (h : d.writePhase = .red) (colours : List Colour) :
    d.pushColours colours =
      { d with
        writeIndex := d.writeIndex + UInt8.ofNat colours.length
        pending := colours.foldl (fun _ c => c.sixBit) d.pending
        entries := (d.pushColours colours).entries } := by
  induction colours generalizing d with
  | nil =>
    have hindex : d.writeIndex + UInt8.ofNat 0 = d.writeIndex := UInt8.add_zero _
    rw [List.length_nil, hindex]
    rfl
  | cons c rest ih =>
    have hfirst := pushColour_eq h c
    have hphase : (d.pushColour c).writePhase = .red := by
      rw [hfirst]
      exact h
    have hstep : d.pushColours (c :: rest) = (d.pushColour c).pushColours rest := rfl
    rw [hstep, List.length_cons, ← ofNat_succ_add, List.foldl_cons]
    refine (ih hphase).trans ?_
    generalize ((d.pushColour c).pushColours rest).entries = entries
    rw [hfirst]

/-- Writes the palette from the first entry on. -/
def loadPalette (d : Dac) : Dac := (d.seekWrite 0).pushColours Palette.initial

theorem loadPalette_eq (d : Dac) :
    d.loadPalette =
      { d with
        writeIndex := 16
        writePhase := .red
        pending := ⟨63, 63, 63⟩
        entries := d.loadPalette.entries } :=
  pushColours_eq (d := d.seekWrite 0) rfl Palette.initial

theorem entry_loadPalette (d : Dac) (e : UInt8) :
    d.loadPalette.entry e = Palette.initial[e.toNat]?.getD (d.entry e) := by
  have hsix : ∀ c ∈ Palette.initial, c.sixBit = c := by decide
  have hlength : Palette.initial.length = 16 := rfl
  have hindex (k : Nat) : (d.seekWrite 0).writeIndex + UInt8.ofNat k = UInt8.ofNat k :=
    UInt8.zero_add _
  have hval {k : Nat} (hk : k < Palette.initial.length) (h : UInt8.ofNat k = e) :
      k = e.toNat := by
    rw [← h, UInt8.toNat_ofNat']
    omega
  obtain ⟨hkept, hfilled⟩ := entry_pushColours (d := d.seekWrite 0) rfl Palette.initial e
  simp only [hindex] at hkept hfilled
  cases hc : Palette.initial[e.toNat]? with
  | none =>
    have hout := List.getElem?_eq_none_iff.mp hc
    exact hkept fun k hk h => absurd (hval hk h) (by omega)
  | some c =>
    rw [loadPalette, hfilled e.toNat c hc UInt8.ofNat_toNat fun l hl hlt h =>
      absurd (hval hl h) (by omega), hsix c (List.mem_of_getElem? hc)]
    rfl

/-- The first entries hold the palette, whatever came before. -/
theorem palette_loadPalette (d : Dac) {e : UInt8} (he : e.toNat < 16) :
    Palette.initial[e.toNat]? = some (d.loadPalette.entry e) := by
  have hlength : Palette.initial.length = 16 := rfl
  obtain ⟨c, hc⟩ : ∃ c, Palette.initial[e.toNat]? = some c :=
    ⟨_, List.getElem?_eq_getElem (by rw [hlength]; exact he)⟩
  rw [entry_loadPalette, hc]
  rfl

/-- A table is known by its mask, its streams and its entries. -/
theorem ext_entry {d d' : Dac} (h : d' = { d with entries := d'.entries })
    (hentry : ∀ e, d'.entry e = d.entry e) : d' = d := by
  have hentries : d'.entries = d.entries := by
    apply Vector.ext
    intro k hk
    have hval : (UInt8.ofNat k).toNat = k := by
      rw [UInt8.toNat_ofNat']
      omega
    have hk := hentry (UInt8.ofNat k)
    simp only [entry, hval] at hk
    exact hk
  rw [h, hentries]

/-- Doing it again changes nothing. -/
theorem loadPalette_loadPalette (d : Dac) : d.loadPalette.loadPalette = d.loadPalette := by
  refine ext_entry ?_ fun e => ?_
  · refine d.loadPalette.loadPalette_eq.trans ?_
    rw [d.loadPalette_eq]
  · rw [entry_loadPalette, entry_loadPalette]
    cases Palette.initial[e.toNat]? <;> rfl

end Dac

/-! ## The colours of power-on -/

namespace Machine

variable {bus : BusWidth} (m : Machine (Board bus))

theorem attributes_writeColours (first : UInt8) (colours : List Colour) :
    (m.writeColours first colours).hardware.adapter.attributes =
      m.hardware.adapter.attributes := by
  have hfold (m : Machine (Board bus)) :
      (colours.foldl pushColour m).hardware.adapter.attributes = m.hardware.adapter.attributes := by
    induction colours generalizing m with
    | nil => rfl
    | cons c rest ih => exact ih (m.pushColour c)
  exact hfold (m.writePort 0x3C8 first)

theorem dac_writeColours (first : UInt8) (colours : List Colour) :
    (m.writeColours first colours).hardware.adapter.dac =
      (m.hardware.adapter.dac.seekWrite first).pushColours colours :=
  (List.foldl_hom (fun m : Machine (Board bus) => m.hardware.adapter.dac) fun _ _ => rfl).symm

theorem attributes_resetAttributes (base : CrtcBase) :
    (m.resetAttributes base).hardware.adapter.attributes =
      m.hardware.adapter.attributes.passThrough := by
  have hreset : (m.readPort base.statusPort).2.hardware.adapter.attributes =
      m.hardware.adapter.attributes.reset := by
    cases base <;> rfl
  have hfold : ((List.range 16).foldl (fun m i => m.writeAttribute (UInt8.ofNat i) (UInt8.ofNat i))
      (m.readPort base.statusPort).2).hardware.adapter.attributes =
        m.hardware.adapter.attributes.reset.pushIndices 16 := by
    rw [← hreset]
    exact (List.foldl_hom (fun m : Machine (Board bus) => m.hardware.adapter.attributes)
      fun _ _ => rfl).symm
  rw [AttributeController.passThrough, ← hfold]
  rfl

theorem dac_resetAttributes (base : CrtcBase) :
    (m.resetAttributes base).hardware.adapter.dac = m.hardware.adapter.dac := by
  have hread : (m.readPort base.statusPort).2.hardware.adapter.dac = m.hardware.adapter.dac := by
    cases base <;> rfl
  have hfold : ((List.range 16).foldl (fun m i => m.writeAttribute (UInt8.ofNat i) (UInt8.ofNat i))
      (m.readPort base.statusPort).2).hardware.adapter.dac = m.hardware.adapter.dac :=
    List.foldlRecOn
      (motive := fun n : Machine (Board bus) => n.hardware.adapter.dac = m.hardware.adapter.dac)
      _ _ hread fun _ h _ _ => h
  have hlast (n : Machine (Board bus)) :
      ((n.writeAttribute 0x10 0x08).writePort 0x3C0 0x20).hardware.adapter.dac =
        n.hardware.adapter.dac := rfl
  exact (hlast _).trans hfold

theorem attributes_resetColours (base : CrtcBase) :
    (m.resetColours base).hardware.adapter.attributes =
      m.hardware.adapter.attributes.passThrough := by
  rw [resetColours, attributes_writeColours, attributes_resetAttributes]

theorem dac_resetColours (base : CrtcBase) :
    (m.resetColours base).hardware.adapter.dac = m.hardware.adapter.dac.loadPalette := by
  rw [resetColours, dac_writeColours, dac_resetAttributes, Dac.loadPalette]

end Machine

end VgaFirmware
