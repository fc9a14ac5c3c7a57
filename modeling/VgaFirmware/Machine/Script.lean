import VgaFirmware.Machine.Bracket

/-!
# Scripts

Programs of hardware accesses as data: ports, registers, window memory, and blocks that run a
script of their own inside a view. `Action.run` is their meaning on a machine.
-/

namespace VgaFirmware

inductive Action where
  | readPort (port : UInt16)
  | writePort (port : UInt16) (v : UInt8)
  | writePortWord (port w : UInt16)
  | setWindow (segment : UInt16)
  | window
  | load (off : UInt16)
  | loadWord (off : UInt16)
  | store (off : UInt16) (v : UInt8)
  | storeWord (off w : UInt16)
  | fetch (a : UInt32)
  | copy (dst src : UInt16) (count : Nat)
  | fill (dst : UInt16) (v : UInt8) (count : Nat)
  | fillWords (dst w : UInt16) (count : Nat)
  | copyIn (dst : UInt16) (src : UInt32) (count : Nat)
  | writeReg (c : Controller) (index v : UInt8)
  | writeRegSplit (c : Controller) (index v : UInt8)
  | readReg (c : Controller) (index : UInt8)
  | writeAttribute (index v : UInt8)
  | writeColours (first : UInt8) (colours : List Colour)
  | capture
  | restore (r : ViewRegisters)
  /-- Turns the view of the enclosing block to one plane. -/
  | selectPlane (p : Plane)
  /-- The registers that the enclosing block will put back. -/
  | saved
  /-- Runs a script inside a view. -/
  | block (view : View) (start : UInt16) (body : List Action)

inductive Reply where
  | done
  | byte (v : UInt8)
  | word (w : UInt16)
  | registers (r : ViewRegisters)
  | block (replies : List Reply)

namespace Action

variable {B : Type} [Backend B]

mutual

/-- Runs one step. `enclosing` holds what the innermost open block has saved. -/
def run (enclosing : Option Saved) (m : Machine B) : Action → Reply × Machine B
  | readPort port =>
    let (v, m) := m.readPort port
    (.byte v, m)
  | writePort port v => (.done, m.writePort port v)
  | writePortWord port w => (.done, m.writePortWord port w)
  | setWindow segment => (.done, m.setWindow segment)
  | window =>
    let segment := m.window
    (.word segment, m)
  | load off =>
    let (v, m) := m.query (Backend.load · off)
    (.byte v, m)
  | loadWord off =>
    let (w, m) := m.query (Backend.loadWord · off)
    (.word w, m)
  | store off v => (.done, m.update (Backend.store · off v))
  | storeWord off w => (.done, m.update (Backend.storeWord · off w))
  | fetch a =>
    let (v, m) := m.query (Backend.fetch · a)
    (.byte v, m)
  | copy dst src count => (.done, m.update (Backend.copy · dst src count))
  | fill dst v count => (.done, m.update (Backend.fill · dst v count))
  | fillWords dst w count => (.done, m.update (Backend.fillWords · dst w count))
  | copyIn dst src count => (.done, m.update (Backend.copyIn · dst src count))
  | writeReg c index v => (.done, m.writeReg c index v)
  | writeRegSplit c index v => (.done, m.writeRegSplit c index v)
  | readReg c index =>
    let (v, m) := m.readReg c index
    (.byte v, m)
  | writeAttribute index v => (.done, m.writeAttribute index v)
  | writeColours first colours => (.done, m.writeColours first colours)
  | capture =>
    let (r, m) := m.capture
    (.registers r, m)
  | restore r => (.done, m.restore r)
  | selectPlane p => (.done, m.selectPlane p)
  | saved =>
    match enclosing with
    | some s => (.registers s.registers, m)
    | none => (.done, m)
  | block view start body =>
    let (s, m) := m.openView view start
    let (replies, m) := runAll (some s) m body
    (.block replies, m.closeView s)

def runAll (enclosing : Option Saved) (m : Machine B) : List Action → List Reply × Machine B
  | [] => ([], m)
  | a :: rest =>
    let (reply, m) := run enclosing m a
    let (replies, m) := runAll enclosing m rest
    (reply :: replies, m)

end

end Action

end VgaFirmware
