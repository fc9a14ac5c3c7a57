import VgaFirmware.Proofs.Bracket

/-!
# What views leave of the adapter

The registers of the two banks that views set come back to their values, but their indices do
not: closing a view leaves them at the last registers that it puts back. All else of the adapter,
apart from latches and planes, is exactly what it was (`sameControls_within`). Changes that do not
look at these do the same to boards that agree on the rest (`SameControls.update`).
-/

namespace VgaFirmware

namespace RegisterBank

variable {n : Nat} {b c : RegisterBank n}

/-- A bank that fits its index is known by what it reads. -/
theorem ext_read (hn : n ≤ 256) (hindex : b.index = c.index) (h : ∀ i, b.read i = c.read i) :
    b = c := by
  obtain ⟨i, values⟩ := b
  obtain ⟨j, values'⟩ := c
  obtain rfl : i = j := hindex
  congr 1
  apply Vector.ext
  intro k hk
  have hval : (UInt8.ofNat k).toNat = k := by
    rw [UInt8.toNat_ofNat']
    omega
  simpa [read, hval, hk] using h (UInt8.ofNat k)

end RegisterBank

namespace Adapter

/-- Writing a timing register changes no other bank. -/
theorem writeIndexed_crtc_eq (a : Adapter) (base : CrtcBase) (i v : UInt8) :
    a.writeIndexed i v (.crtc base) =
      { a with crtc := (a.writeIndexed i v (.crtc base)).crtc } :=
  writeCrtc_eq _ v

/-- What becomes of the timing registers depends on them alone. -/
theorem crtc_writeIndexed_congr {a a' : Adapter} (h : a'.crtc = a.crtc) (i v : UInt8)
    (c : Controller) : (a'.writeIndexed i v c).crtc = (a.writeIndexed i v c).crtc := by
  cases c with
  | sequencer | graphics => exact h
  | crtc base =>
    simp only [writeIndexed, writeCrtc, h]
    split <;> rfl

end Adapter

/-- Where closing a view leaves the indices of the banks that views set. -/
def Adapter.afterView (a : Adapter) : Adapter :=
  { a with sequencer := a.sequencer.select 4, graphics := a.graphics.select 6 }

namespace Board

variable {bus : BusWidth}

/-- Same window, and the same adapter but for latches and planes. -/
structure SameControls (b c : Board bus) : Prop where
  window : c.window = b.window
  miscOutput : c.adapter.miscOutput = b.adapter.miscOutput
  sequencer : c.adapter.sequencer = b.adapter.sequencer
  graphics : c.adapter.graphics = b.adapter.graphics
  crtc : c.adapter.crtc = b.adapter.crtc
  attributes : c.adapter.attributes = b.adapter.attributes
  dac : c.adapter.dac = b.adapter.dac

/-- The same adapter but for latches and planes, the view registers, and the indices of their
banks. -/
structure BesideViews (b c : Board bus) : Prop where
  inside : Inside b c
  miscOutput : c.adapter.miscOutput = b.adapter.miscOutput
  crtc : c.adapter.crtc = b.adapter.crtc
  attributes : c.adapter.attributes = b.adapter.attributes
  dac : c.adapter.dac = b.adapter.dac

variable {b c d : Board bus} {v : View} {start : UInt16}

namespace SameControls

theorem refl (b : Board bus) : SameControls b b := ⟨rfl, rfl, rfl, rfl, rfl, rfl, rfl⟩

theorem trans (h : SameControls b c) (g : SameControls c d) : SameControls b d where
  window := g.window.trans h.window
  miscOutput := g.miscOutput.trans h.miscOutput
  sequencer := g.sequencer.trans h.sequencer
  graphics := g.graphics.trans h.graphics
  crtc := g.crtc.trans h.crtc
  attributes := g.attributes.trans h.attributes
  dac := g.dac.trans h.dac

theorem symm (h : SameControls b c) : SameControls c b :=
  ⟨h.window.symm, h.miscOutput.symm, h.sequencer.symm, h.graphics.symm, h.crtc.symm,
    h.attributes.symm, h.dac.symm⟩

/-- Only latches and planes can differ. -/
theorem adapter_eq (h : SameControls b c) :
    c.adapter =
      { b.adapter with latches := c.adapter.latches, planes := c.adapter.planes } := by
  change c.adapter = Adapter.mk b.adapter.miscOutput b.adapter.sequencer b.adapter.graphics
    b.adapter.crtc b.adapter.attributes b.adapter.dac c.adapter.latches c.adapter.planes
  rw [← h.miscOutput, ← h.sequencer, ← h.graphics, ← h.crtc, ← h.attributes, ← h.dac]

/-- With the same planes, too, only the latches can. -/
theorem adapter_eq_of_planes (h : SameControls b c)
    (hplanes : c.adapter.planes = b.adapter.planes) :
    c.adapter = { b.adapter with latches := c.adapter.latches } := by
  refine h.adapter_eq.trans ?_
  rw [hplanes]

theorem sameRegisters (h : SameControls b c) : SameRegisters [] b c :=
  ⟨h.window, fun i => by rw [h.sequencer], fun i => by rw [h.graphics],
    fun i _ => by rw [h.crtc]⟩

theorem besideViews (h : SameControls b c) : BesideViews b c :=
  ⟨h.sameRegisters.inside, h.miscOutput, h.crtc, h.attributes, h.dac⟩

/-- A change that does not look at latches and planes has the same effect on the controls. -/
theorem update {f : Adapter → Adapter}
    (hf : ∀ a latches planes, f { a with latches, planes } = { f a with latches, planes })
    (h : SameControls b c) : SameControls (b.updateAdapter f) (c.updateAdapter f) := by
  have hchanged := (congrArg f h.adapter_eq).trans (hf b.adapter _ _)
  refine ⟨h.window, ?_, ?_, ?_, ?_, ?_, ?_⟩
  all_goals rw [adapter_updateAdapter, hchanged, adapter_updateAdapter]

/-- A change that comes to rest after one time leaves the controls alone the second time. -/
theorem again {f : Adapter → Adapter}
    (hf : ∀ a latches planes, f { a with latches, planes } = { f a with latches, planes })
    (hrest : ∀ a, f (f a) = f a) (h : SameControls (b.updateAdapter f) c)
    (g : SameControls (c.updateAdapter f) d) : SameControls c d := by
  have htwice : (b.updateAdapter f).updateAdapter f = b.updateAdapter f := by
    rw [updateAdapter_updateAdapter]
    exact congrArg b.updateAdapter (funext hrest)
  have hagain := h.update hf
  rw [htwice] at hagain
  exact h.symm.trans (hagain.trans g)

end SameControls

namespace BesideViews

theorem symm (h : BesideViews b c) : BesideViews c b where
  inside :=
    ⟨fun i h₂ h₄ => (h.inside.sequencer i h₂ h₄).symm,
      fun i h₄ h₅ h₆ => (h.inside.graphics i h₄ h₅ h₆).symm, fun i => (h.inside.crtc i).symm⟩
  miscOutput := h.miscOutput.symm
  crtc := h.crtc.symm
  attributes := h.attributes.symm
  dac := h.dac.symm

theorem trans (h : BesideViews b c) (g : BesideViews c d) : BesideViews b d where
  inside := h.inside.trans g.inside
  miscOutput := g.miscOutput.trans h.miscOutput
  crtc := g.crtc.trans h.crtc
  attributes := g.attributes.trans h.attributes
  dac := g.dac.trans h.dac

end BesideViews

theorem sameControls_read (b : Board bus) (a : Address) : SameControls b (b.read a).2 := by
  unfold read
  split
  · have h := b.adapter.hostRead_eq a.val
    refine ⟨rfl, ?_, ?_, ?_, ?_, ?_, ?_⟩
    all_goals rw [adapter_queryAdapter, h]
  · exact .refl b

theorem sameControls_write (b : Board bus) (a : Address) (v : UInt8) :
    SameControls b (b.write a v) := by
  unfold write
  split
  · have h := b.adapter.hostWrite_eq a.val v
    refine ⟨rfl, ?_, ?_, ?_, ?_, ?_, ?_⟩
    all_goals rw [adapter_updateAdapter, h]
  · exact ⟨rfl, rfl, rfl, rfl, rfl, rfl, rfl⟩

/-- Memory accesses change latches and planes at most. -/
theorem sameControls_of_accesses (h : Backend.Accesses b c) : SameControls b c :=
  h.keeps (fun c _ hc => hc.trans (c.sameControls_read _))
    (fun c _ v hc => hc.trans (c.sameControls_write _ v))
    (fun c _ hc => hc.trans (c.sameControls_read _)) (.refl b)

theorem besideViews_of_accesses (h : Backend.Accesses b c) : BesideViews b c :=
  (sameControls_of_accesses h).besideViews

theorem besideViews_openView (b : Board bus) (v : View) (start : UInt16) :
    BesideViews b (b.openView v start) :=
  ⟨b.inside_openView v start, rfl, rfl, rfl, rfl⟩

theorem besideViews_selectPlane (b : Board bus) (p : Plane) : BesideViews b (b.selectPlane p) :=
  ⟨b.inside_selectPlane p, rfl, rfl, rfl, rfl⟩

theorem besideViews_closeView (b : Board bus) (s : Saved) : BesideViews b (b.closeView s) where
  inside :=
    ⟨fun i h₂ h₄ => by simp [closeView, Adapter.sequencer_setView_read, h₂, h₄],
      fun i h₄ h₅ h₆ => by simp [closeView, Adapter.graphics_setView_read, h₄, h₅, h₆],
      fun _ => rfl⟩
  miscOutput := rfl
  crtc := rfl
  attributes := rfl
  dac := rfl

/-- Closing a view puts back all but the indices. -/
theorem BesideViews.sameControls_closeView (h : BesideViews b c) :
    SameControls (b.updateAdapter .afterView) (c.closeView b.saved) where
  window := rfl
  miscOutput := h.miscOutput
  sequencer := RegisterBank.ext_read (by decide) rfl h.inside.sameRegisters_closeView.sequencer
  graphics := RegisterBank.ext_read (by decide) rfl h.inside.sameRegisters_closeView.graphics
  crtc := h.crtc
  attributes := h.attributes
  dac := h.dac

/-- A bracket leaves all of the adapter but latches and planes, and two indices. -/
theorem sameControls_within {work : Board bus → Board bus}
    (h : BesideViews (b.openView v start) (work (b.openView v start))) :
    SameControls (b.updateAdapter .afterView) (b.within v start work) :=
  ((b.besideViews_openView v start).trans h).sameControls_closeView

theorem besideViews_afterView (b : Board bus) : BesideViews b (b.updateAdapter .afterView) :=
  ⟨⟨fun _ _ _ => rfl, fun _ _ _ _ => rfl, fun _ => rfl⟩, rfl, rfl, rfl, rfl⟩

end Board

end VgaFirmware
