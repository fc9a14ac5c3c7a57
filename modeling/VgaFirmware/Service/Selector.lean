/-!
# Function selectors

The functions that a caller selects by number. `ofCode?_code` says that the numbers tell them
apart.
-/

namespace VgaFirmware

inductive Selector where
  | setMode
  | setCursorShape
  | moveCursor
  | readCursor
  | showPage
  | scrollUp
  | scrollDown
  | readCell
  | writeCells
  | writeCharacters
  | setPalette
  | teletype
  | getMode
  | writeString
  deriving DecidableEq, Repr

namespace Selector

def code : Selector → UInt8
  | setMode => 0x00
  | setCursorShape => 0x01
  | moveCursor => 0x02
  | readCursor => 0x03
  | showPage => 0x05
  | scrollUp => 0x06
  | scrollDown => 0x07
  | readCell => 0x08
  | writeCells => 0x09
  | writeCharacters => 0x0A
  | setPalette => 0x0B
  | teletype => 0x0E
  | getMode => 0x0F
  | writeString => 0x13

def ofCode? (code : UInt8) : Option Selector :=
  match code with
  | 0x00 => some setMode
  | 0x01 => some setCursorShape
  | 0x02 => some moveCursor
  | 0x03 => some readCursor
  | 0x05 => some showPage
  | 0x06 => some scrollUp
  | 0x07 => some scrollDown
  | 0x08 => some readCell
  | 0x09 => some writeCells
  | 0x0A => some writeCharacters
  | 0x0B => some setPalette
  | 0x0E => some teletype
  | 0x0F => some getMode
  | 0x13 => some writeString
  | _ => none

/-- The name under which a function is reported. -/
def name : Selector → String
  | setMode => "SetMode"
  | setCursorShape => "SetCursorShape"
  | moveCursor => "SetCursorPosition"
  | readCursor => "GetCursorPosition"
  | showPage => "SetActivePage"
  | scrollUp => "ScrollUp"
  | scrollDown => "ScrollDown"
  | readCell => "ReadCharAttr"
  | writeCells => "WriteCharAttr"
  | writeCharacters => "WriteChar"
  | setPalette => "SetColorPalette"
  | teletype => "WriteTeletype"
  | getMode => "GetMode"
  | writeString => "WriteString"

@[simp] theorem ofCode?_code (s : Selector) : ofCode? s.code = some s := by
  cases s <;> rfl

end Selector

end VgaFirmware
