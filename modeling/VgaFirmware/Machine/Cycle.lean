import VgaFirmware.Text.Hex

/-!
# Bus cycles

The accesses by which a machine reaches its registers, as they appear on the bus: port reads
with the value found, port writes of one byte or of a word, and moves of the memory window.
-/

namespace VgaFirmware

inductive Cycle where
  | readByte (port : UInt16) (value : UInt8)
  | writeByte (port : UInt16) (value : UInt8)
  | writeWord (port value : UInt16)
  | moveWindow (segment : UInt16)
  deriving DecidableEq, Repr

namespace Cycle

def text : Cycle → String
  | readByte port value => "i" ++ Hex.padded 1 port.toNat ++ "=" ++ Hex.padded 2 value.toNat
  | writeByte port value => "o" ++ Hex.padded 1 port.toNat ++ "=" ++ Hex.padded 2 value.toNat
  | writeWord port value => "w" ++ Hex.padded 1 port.toNat ++ "=" ++ Hex.padded 4 value.toNat
  | moveWindow segment => "s" ++ Hex.padded 4 segment.toNat

/-- What a cycle asks of the ports, without the answer; moves of the window ask nothing. -/
def portText? : Cycle → Option String
  | readByte port _ => some ("i" ++ Hex.padded 1 port.toNat)
  | moveWindow _ => none
  | cycle => some cycle.text

end Cycle

end VgaFirmware
