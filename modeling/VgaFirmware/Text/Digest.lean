/-!
# Digests of memory images

The 32-bit digest by which two memory images are compared: each byte is mixed into the low end
of the running value, which is then multiplied by a fixed prime.
-/

namespace VgaFirmware.Digest

def empty : UInt32 := 0x811C9DC5

/-- The multiplier that spreads a byte over the whole value. -/
def multiplier : UInt32 := 0x01000193

def add (digest : UInt32) (byte : UInt8) : UInt32 := (digest ^^^ byte.toUInt32) * multiplier

def ofBytes (bytes : List UInt8) : UInt32 := bytes.foldl add empty

end VgaFirmware.Digest
