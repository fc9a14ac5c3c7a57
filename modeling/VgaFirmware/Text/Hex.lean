/-!
# Hexadecimal text

Numbers and byte sequences in lower-case hexadecimal.
-/

namespace VgaFirmware.Hex

/-- The digit of a number below sixteen; larger numbers are reduced. -/
def digit (n : Nat) : Char := Nat.digitChar (n % 16)

def digit? (c : Char) : Option Nat :=
  if '0' ≤ c ∧ c ≤ '9' then some (c.toNat - '0'.toNat)
  else if 'a' ≤ c ∧ c ≤ 'f' then some (c.toNat - 'a'.toNat + 10)
  else none

/-- All digits of `n`, and zeros before them where there are fewer than `width`. -/
def padded (width n : Nat) : String :=
  let digits := Nat.toDigits 16 n
  String.ofList (List.replicate (width - digits.length) '0' ++ digits)

def marked (width n : Nat) : String := "0x" ++ padded width n

def encode (bytes : List UInt8) : List Char :=
  bytes.flatMap fun b => [digit (b.toNat / 16), digit b.toNat]

/-- Reads digits in pairs; an odd number of digits or a foreign character is refused. -/
def decode : List Char → Option (List UInt8)
  | [] => some []
  | [_] => none
  | h :: l :: rest => do
    let high ← digit? h
    let low ← digit? l
    let bytes ← decode rest
    pure (UInt8.ofNat (16 * high + low) :: bytes)

def ofBytes (bytes : List UInt8) : String := String.ofList (encode bytes)

def toBytes? (text : String) : Option (List UInt8) := decode text.toList

end VgaFirmware.Hex
