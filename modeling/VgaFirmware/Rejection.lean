import VgaFirmware.Text.Hex

/-!
# Rejected requests

The two reasons for which the service refuses a request.
-/

namespace VgaFirmware

inductive Rejection where
  | unknownMode (mode : UInt8)
  | noSuchPage (page : UInt8)
  deriving DecidableEq, Repr

def Rejection.message : Rejection → String
  | unknownMode mode => "unsupported video mode " ++ Hex.marked 2 mode.toNat
  | noSuchPage page => "display page " ++ toString page.toNat ++ " out of range (expected 0-7)"

end VgaFirmware
