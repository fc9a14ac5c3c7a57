import VgaFirmware.Display.View
import VgaFirmware.Service.Selector
import VgaFirmware.Rejection

/-!
# Events

What the service reports while it works. An event is a value; its level, its message and its
fields are read off it.
-/

namespace VgaFirmware

inductive Level where
  | trace | debug | warn
  deriving DecidableEq, Repr

inductive Event where
  | viewOpened (view : View) (segment : UInt16)
  | viewClosed
  | modeSet (mode columns rows : UInt8) (pageSize : UInt16)
  | initialised (mode : UInt8)
  | pageShown (page : UInt8) (start : UInt16)
  | scanLimitReached (buffer : UInt32) (limit : UInt16)
  | unknownFunction (code : UInt8)
  | called (function : Selector) (ax : UInt16)
  | modeRefused (cause : Rejection)
  | requestIgnored (function : Selector) (cause : Rejection)
  deriving DecidableEq, Repr

def Level.name : Level → String
  | trace => "TRACE"
  | debug => "DEBUG"
  | warn => "WARN"

/-- A map mask, plane by plane, and behind them the bits that name none. -/
def MapMask.text (m : MapMask) : String :=
  let planes := ((List.finRange 4).filter m.has).map fun p => "PLANE" ++ toString p.val
  let others := m.bits &&& 0xF0
  let names := if others = 0 then planes else planes ++ [Hex.marked 2 others.toNat]
  "PlaneMask(" ++ (if names.isEmpty then "0x0" else String.intercalate " | " names) ++ ")"

def View.text : View → String
  | cells => "Interleaved"
  | planes write read =>
    "Planar \x7b write: " ++ write.text ++ ", read: " ++ toString read.toNat ++ " \x7d"

namespace Event

def level : Event → Level
  | modeSet .. | initialised _ | pageShown .. => .debug
  | scanLimitReached .. => .warn
  | viewOpened .. | viewClosed | unknownFunction _ | called .. | modeRefused _
  | requestIgnored .. => .trace

def message : Event → String
  | viewOpened .. => "planar session opened"
  | viewClosed => "planar session closed"
  | modeSet .. => "video mode set"
  | initialised _ => "video adapter initialised"
  | pageShown .. => "active page changed"
  | scanLimitReached .. => "write string reached the scan limit without a terminator"
  | unknownFunction _ => "unsupported int10 function"
  | called .. => "int10"
  | modeRefused _ => "set mode failed"
  | requestIgnored .. => "int10 request ignored"

def fields : Event → List (String × String)
  | viewOpened view segment => [("access", view.text), ("segment", Hex.marked 4 segment.toNat)]
  | viewClosed => []
  | modeSet mode columns rows pageSize =>
    [("mode", Hex.marked 2 mode.toNat), ("columns", toString columns.toNat),
      ("rows", toString rows.toNat), ("page_size", toString pageSize.toNat)]
  | initialised mode => [("mode", Hex.marked 2 mode.toNat)]
  | pageShown page start => [("page", toString page.toNat), ("start", toString start.toNat)]
  | scanLimitReached buffer limit =>
    [("buffer", Hex.marked 5 buffer.toNat), ("limit", toString limit.toNat)]
  | unknownFunction code => [("ah", Hex.marked 2 code.toNat)]
  | called function ax => [("function", function.name), ("ax", Hex.marked 4 ax.toNat)]
  | modeRefused cause => [("err", cause.message)]
  | requestIgnored function cause => [("function", function.name), ("err", cause.message)]

end Event

end VgaFirmware
