import VgaFirmware.Adapter.Dac
import VgaFirmware.Proofs.Checked

/-!
# The colour table, checked

The colour table whose streams count components in a byte. A component is the index of a byte of
the colour that is being written, so the count must stay below three; that it does is what
`push_raw` and `pull_raw` need of it.
-/

namespace VgaFirmware

/-- The colour table with its streams at component numbers. -/
structure RawDac where
  mask : UInt8
  writeIndex : UInt8
  writeComponent : UInt8
  pending : Vector UInt8 3
  readIndex : UInt8
  readComponent : UInt8
  entries : Vector Colour 256

namespace RawDac

/-- The component after one. -/
def next (component : UInt8) : Checked UInt8 := do
  let n ← Checked.byte (component.toNat + 1)
  return n % 3

/-- Takes the next component of the write stream. -/
def push (d : RawDac) (v : UInt8) : Checked RawDac := do
  let pending ← Checked.set d.pending d.writeComponent.toNat (v &&& 0x3F)
  let component ← next d.writeComponent
  let d := { d with pending := pending, writeComponent := component }
  if component ≠ 0 then return d
  else
    let colour : Colour := ⟨pending[0], pending[1], pending[2]⟩
    let entries ← Checked.set d.entries d.writeIndex.toNat colour
    return { d with entries := entries, writeIndex := d.writeIndex + 1 }

/-- Gives the next component of the read stream. -/
def pull (d : RawDac) : Checked (UInt8 × RawDac) := do
  let colour ← Checked.get d.entries d.readIndex.toNat
  let v := match d.readComponent with
    | 0 => colour.red
    | 1 => colour.green
    | _ => colour.blue
  let component ← next d.readComponent
  let d := { d with readComponent := component }
  return (v, if component = 0 then { d with readIndex := d.readIndex + 1 } else d)

end RawDac

/-- The number of a component. -/
def Component.number : Component → UInt8
  | red => 0
  | green => 1
  | blue => 2

def Dac.raw (d : Dac) : RawDac where
  mask := d.mask
  writeIndex := d.writeIndex
  writeComponent := d.writePhase.number
  pending := #v[d.pending.red, d.pending.green, d.pending.blue]
  readIndex := d.readIndex
  readComponent := d.readPhase.number
  entries := d.entries

namespace RawDac

theorem next_number (k : Component) : next k.number = .ok k.next.number := by
  have hbyte : Checked.byte (k.number.toNat + 1) = .ok (UInt8.ofNat (k.number.toNat + 1)) :=
    Checked.byte_eq rfl (by cases k <;> decide)
  rw [next, hbyte]
  cases k <;> rfl

theorem set_pending (d : Dac) (v : UInt8) :
    Checked.set d.raw.pending d.raw.writeComponent.toNat v =
      .ok { d with pending := d.pending.set d.writePhase v }.raw.pending := by
  have hnumber : d.writePhase.number.toNat < 3 := by cases d.writePhase <;> decide
  refine (Checked.set_eq _ hnumber v).trans ?_
  obtain ⟨_, _, phase, _, _, _, _⟩ := d
  cases phase <;> rfl

theorem push_raw (d : Dac) (v : UInt8) : d.raw.push v = .ok (d.push v).raw := by
  have hnext : next d.raw.writeComponent = .ok d.writePhase.next.number := next_number _
  have hset := Checked.set_eq d.entries d.writeIndex.toNat_lt
  simp only [push, set_pending, hnext, Checked.ok_bind]
  obtain ⟨mask, writeIndex, phase, pending, readIndex, readPhase, entries⟩ := d
  cases phase with
  | red | green => rfl
  | blue =>
    -- the third component completes the colour
    change (Checked.set entries writeIndex.toNat ⟨pending.red, pending.green, v &&& 0x3F⟩ >>= _) = _
    rw [hset]
    rfl

theorem pull_raw (d : Dac) : d.raw.pull = .ok (d.pull.1, d.pull.2.raw) := by
  have hget : Checked.get d.raw.entries d.raw.readIndex.toNat = .ok (d.entry d.readIndex) :=
    Checked.get_eq d.entries d.readIndex.toNat_lt
  have hnext : next d.raw.readComponent = .ok d.readPhase.next.number := next_number _
  simp only [pull, hget, hnext, Checked.ok_bind]
  obtain ⟨mask, writeIndex, phase, pending, readIndex, readPhase, entries⟩ := d
  cases readPhase <;> rfl

end RawDac

end VgaFirmware
