/-!
# The colour table

256 colours of three components, written and read as streams of component bytes. Each stream
has its own entry index, which moves on after every third byte. A colour being written is held
back until its last component arrives, so the table never shows half of one.
-/

namespace VgaFirmware

structure Colour where
  red : UInt8
  green : UInt8
  blue : UInt8
  deriving DecidableEq, Repr

/-- One of the three components, in the order of the streams. -/
inductive Component where
  | red | green | blue
  deriving DecidableEq, Repr

def Component.next : Component → Component
  | red => green
  | green => blue
  | blue => red

namespace Colour

def black : Colour := ⟨0, 0, 0⟩

def get (c : Colour) : Component → UInt8
  | .red => c.red
  | .green => c.green
  | .blue => c.blue

def set (c : Colour) (k : Component) (v : UInt8) : Colour :=
  match k with
  | .red => { c with red := v }
  | .green => { c with green := v }
  | .blue => { c with blue := v }

def sixBit (c : Colour) : Colour := ⟨c.red &&& 0x3F, c.green &&& 0x3F, c.blue &&& 0x3F⟩

end Colour

structure Dac where
  mask : UInt8
  writeIndex : UInt8
  writePhase : Component
  pending : Colour
  readIndex : UInt8
  readPhase : Component
  entries : Vector Colour 256
  deriving DecidableEq

namespace Dac

def blank : Dac where
  mask := 0xFF
  writeIndex := 0
  writePhase := .red
  pending := .black
  readIndex := 0
  readPhase := .red
  entries := Vector.replicate 256 .black

def entry (d : Dac) (i : UInt8) : Colour := d.entries.get ⟨i.toNat, i.toNat_lt⟩

/-- Moves the write stream to the first component of an entry. -/
def seekWrite (d : Dac) (i : UInt8) : Dac := { d with writeIndex := i, writePhase := .red }

/-- Moves the read stream to the first component of an entry. -/
def seekRead (d : Dac) (i : UInt8) : Dac := { d with readIndex := i, readPhase := .red }

def push (d : Dac) (v : UInt8) : Dac :=
  let colour := d.pending.set d.writePhase (v &&& 0x3F)
  match d.writePhase with
  | .blue =>
    { d with
      writeIndex := d.writeIndex + 1
      writePhase := .red
      pending := colour
      entries := d.entries.set d.writeIndex.toNat colour d.writeIndex.toNat_lt }
  | phase => { d with writePhase := phase.next, pending := colour }

def pull (d : Dac) : UInt8 × Dac :=
  let v := (d.entry d.readIndex).get d.readPhase
  match d.readPhase with
  | .blue => (v, { d with readIndex := d.readIndex + 1, readPhase := .red })
  | phase => (v, { d with readPhase := phase.next })

end Dac

end VgaFirmware
