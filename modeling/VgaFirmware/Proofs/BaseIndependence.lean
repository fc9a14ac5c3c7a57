import VgaFirmware.Proofs.Controls
import VgaFirmware.Proofs.LikeServices
import VgaFirmware.Proofs.Usable

/-!
# The base of the timing controller

At either base the same timing controller answers, and reading the status port at either puts the
attribute controller back. Beside its ports, the base decides the value that power-on gives to the
miscellaneous output, on which no access depends (`miscLikeness`). So two services that differ in
the base alone answer every call the same, and leave boards that differ in that value alone
(`powerOn_serve_base`).
-/

namespace VgaFirmware

variable {bus : BusWidth}

/-- Changes the miscellaneous output only. -/
def Adapter.withMisc (a : Adapter) (misc : UInt8) : Adapter := { a with miscOutput := misc }

theorem Adapter.hostRead_withMisc (a : Adapter) (misc : UInt8) (address : Nat) :
    (a.withMisc misc).hostRead address =
      ((a.hostRead address).1, (a.hostRead address).2.withMisc misc) := by
  have htarget : (a.withMisc misc).target address = a.target address := rfl
  unfold hostRead
  rw [htarget]
  split <;> rfl

theorem Adapter.hostWrite_withMisc (a : Adapter) (misc : UInt8) (address : Nat) (x : UInt8) :
    (a.withMisc misc).hostWrite address x = (a.hostWrite address x).withMisc misc := by
  have htarget : (a.withMisc misc).target address = a.target address := rfl
  have hmask : (a.withMisc misc).mapMask = a.mapMask := rfl
  unfold hostWrite
  rw [htarget]
  split
  · rw [hmask]
    split <;> rfl
  · rfl
  · rfl

theorem Adapter.writeIndexed_withMisc (a : Adapter) (misc i x : UInt8) (c : Controller) :
    (a.withMisc misc).writeIndexed i x c = (a.writeIndexed i x c).withMisc misc := by
  cases c with
  | sequencer | graphics => rfl
  | crtc base =>
    have hcrtc : (a.withMisc misc).crtc = a.crtc := rfl
    rw [writeIndexed_crtc_eq, a.writeIndexed_crtc_eq, crtc_writeIndexed_congr hcrtc]
    rfl

theorem Adapter.selectIndexed_withMisc (a : Adapter) (misc i : UInt8) (c : Controller) :
    (a.withMisc misc).selectIndexed i c = (a.selectIndexed i c).withMisc misc := by
  cases c <;> rfl

namespace Board

def withMisc (b : Board bus) (misc : UInt8) : Board bus := b.updateAdapter (·.withMisc misc)

variable (b : Board bus) (misc : UInt8)

theorem read_withMisc (a : Address) :
    (b.withMisc misc).read a = ((b.read a).1, (b.read a).2.withMisc misc) := by
  unfold read
  split
  · simp only [withMisc, updateAdapter, queryAdapter, Adapter.hostRead_withMisc]
  · rfl

theorem write_withMisc (a : Address) (x : UInt8) :
    (b.withMisc misc).write a x = (b.write a x).withMisc misc := by
  unfold write
  split
  · simp only [withMisc, updateAdapter, Adapter.hostWrite_withMisc]
  · rfl

/-- What a board has in common with itself at another value of the miscellaneous output. -/
def miscLikeness (bus : BusWidth) (misc : UInt8) : Likeness bus where
  outside b c := c = b.withMisc misc
  inside _ _ b c := c = b.withMisc misc
  visible _ := True
  crtc h _ := h ▸ rfl
  selectIndexed h i k := by
    subst h
    simp only [withMisc, updateAdapter, Adapter.selectIndexed_withMisc]
  writeIndexed h i x k := by
    subst h
    simp only [withMisc, updateAdapter, Adapter.writeIndexed_withMisc]
  recolour h _ _ := h ▸ rfl
  openView h _ _ := h ▸ rfl
  closeView h g := by
    subst h g
    rfl
  selectPlane h _ := h ▸ rfl
  load {b _ _ _} h off := by
    subst h
    exact Prod.ext_iff.mp (b.read_withMisc misc (.ofSegment b.window off))
  store {b _ _ _} h off x := by
    subst h
    exact b.write_withMisc misc (.ofSegment b.window off) x
  fetch {b _} h a _ := by
    subst h
    exact Prod.ext_iff.mp (b.read_withMisc misc (.ofLinear a))
  fetchInside {b _ _ _} h a _ := by
    subst h
    exact Prod.ext_iff.mp (b.read_withMisc misc (.ofLinear a))

end Board

/-! ## Power-on -/

namespace Machine

variable {m n : Machine (Board bus)}

theorem like_resetPath_base (h : n.hardware = m.hardware) (base base' : CrtcBase) :
    (m.resetPath base).Like (Board.miscLikeness bus base'.miscOutput) (n.resetPath base') := by
  unfold Like
  rw [hardware_resetPath, hardware_resetPath, h]
  rfl

/-- The first thing that power-on writes is the miscellaneous output, and this is where boards that
were the same begin to differ. -/
theorem like_bringUp_base (h : n.hardware = m.hardware) {settings settings' : Settings}
    (hsettings : settings' = { settings with crtc := settings'.crtc }) :
    (m.bringUp settings).Like (Board.miscLikeness bus settings'.crtc.miscOutput)
      (n.bringUp settings') :=
  Like.bringUp hsettings (like_resetPath_base h _ _)

end Machine

namespace Service

/-- Services that differ in the base alone are powered on alike, and the boards end up with the
value of the base in the miscellaneous output. -/
theorem agree_powerOn_base {s t : Service (Board bus)} {spec : ModeSpec}
    (hmode : ModeSpec.lookup s.settings.initialMode = .ok spec)
    (hsettings : t.settings = { s.settings with crtc := t.settings.crtc })
    (hscreen : t.screen = s.screen) (hhardware : t.machine.hardware = s.machine.hardware) :
    Agree (Board.miscLikeness bus t.settings.crtc.miscOutput) s.powerOn t.powerOn :=
  agree_powerOn hmode hsettings hscreen (Machine.like_bringUp_base hhardware hsettings)

/-- A value in common of the miscellaneous output, whatever the bases, outlasts all calls. -/
theorem serve_base {settings : Settings} {b : Board bus} (misc : CrtcBase → UInt8)
    (h : ∀ base base', Agree (Board.miscLikeness bus (misc base'))
      (start { settings with crtc := base } b).powerOn
      (start { settings with crtc := base' } b).powerOn)
    (calls : List RegisterImage) :
    let s := (start { settings with crtc := .mono } b).powerOn
    let t := (start { settings with crtc := .colour } b).powerOn
    let c := (s.2.serve calls).machine.hardware
    let d := (t.2.serve calls).machine.hardware
    t.1 = s.1 ∧ t.2.replies calls = s.2.replies calls ∧
      (t.2.serve calls).screen = (s.2.serve calls).screen ∧
      d = c.withMisc d.adapter.miscOutput ∧
      c.adapter.miscOutput = misc .mono ∧ d.adapter.miscOutput = misc .colour := by
  intro s t c d
  obtain ⟨hresult, hlike⟩ := h .mono .colour
  obtain ⟨hreplies, hserved⟩ := hlike.serve (fun _ => trivial) calls
  -- The first run compared to itself tells the value that it leaves.
  have hself := ((h .mono .mono).2.serve (fun _ => trivial) calls).2.machine
  have hd : d = c.withMisc (misc .colour) := hserved.machine
  have hc : c = c.withMisc (misc .mono) := hself
  have hmisc : d.adapter.miscOutput = misc .colour := by rw [hd]; rfl
  refine ⟨hresult, hreplies, hserved.screen, ?_, ?_, hmisc⟩
  · rw [hmisc]
    exact hd
  · rw [hc]
    rfl

/-- From the same board, and under settings that differ in the base alone, power-on and any calls
after it succeed, fail and answer the same at both bases, and leave the same screen and the same
board but for the miscellaneous output. Where power-on succeeds, this holds the value of the base;
where the initial mode is unknown, it is as it was at both. -/
theorem powerOn_serve_base (settings : Settings) (b : Board bus) (calls : List RegisterImage) :
    let s := (start { settings with crtc := .mono } b).powerOn
    let t := (start { settings with crtc := .colour } b).powerOn
    let c := (s.2.serve calls).machine.hardware
    let d := (t.2.serve calls).machine.hardware
    t.1 = s.1 ∧ t.2.replies calls = s.2.replies calls ∧
      (t.2.serve calls).screen = (s.2.serve calls).screen ∧
      d = c.withMisc d.adapter.miscOutput ∧
      match ModeSpec.lookup settings.initialMode with
      | .ok _ => c.adapter.miscOutput = 0x02 ∧ d.adapter.miscOutput = 0x03
      | .error _ => c.adapter.miscOutput = b.adapter.miscOutput ∧
        d.adapter.miscOutput = b.adapter.miscOutput := by
  cases hmode : ModeSpec.lookup settings.initialMode with
  | ok spec =>
    exact serve_base CrtcBase.miscOutput
      (fun _ _ => agree_powerOn_base hmode rfl rfl rfl) calls
  | error e =>
    refine serve_base (fun _ => b.adapter.miscOutput) (fun base base' => ?_) calls
    rw [powerOn_refused _ hmode, powerOn_refused _ hmode]
    exact ⟨rfl, rfl, rfl, rfl⟩

/-- Under an unknown initial mode the base is never written: both runs leave the miscellaneous
output as it was on a fresh adapter. -/
theorem powerOn_unknown_base :
    let settings := { Settings.standard with initialMode := 0x42 }
    let s := (start { settings with crtc := .mono } (Board.powerOn .word)).powerOn
    let t := (start { settings with crtc := .colour } (Board.powerOn .word)).powerOn
    s.1 = .error (.unknownMode 0x42) ∧
      ¬ (s.2.machine.hardware.adapter.miscOutput = 0x02 ∧
        t.2.machine.hardware.adapter.miscOutput = 0x03) := by
  refine ⟨rfl, ?_⟩
  rintro ⟨hmono, -⟩
  cases hmono

end Service

end VgaFirmware
