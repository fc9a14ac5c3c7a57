/-!
# The attribute controller

Index and data share one port: writes to it are taken as an index and as a value in turn, and a
reset puts the controller back to expecting an index.
-/

namespace VgaFirmware

/-- Twenty-one registers behind a five-bit index. -/
structure AttributeController where
  index : UInt8
  /-- The next write is a value. -/
  expectsValue : Bool
  values : Vector UInt8 21
  deriving DecidableEq, Repr

namespace AttributeController

def blank : AttributeController := ⟨0, false, Vector.replicate 21 0⟩

/-- Only the low five bits of an index count; registers past the end read as zero. -/
def read (c : AttributeController) (i : UInt8) : UInt8 := c.values[(i &&& 0x1F).toNat]?.getD 0

def push (c : AttributeController) (v : UInt8) : AttributeController :=
  if c.expectsValue then
    { c with
      expectsValue := false
      values := c.values.setIfInBounds (c.index &&& 0x1F).toNat v }
  else
    { c with index := v &&& 0x1F, expectsValue := true }

/-- Makes the next write an index. -/
def reset (c : AttributeController) : AttributeController := { c with expectsValue := false }

end AttributeController

end VgaFirmware
