import Proximity.Text.Literal

/-! Byte strings as hexadecimal digits. Written in lower case, read in either case; a text that is
no even run of digits is refused with the first octet at fault. -/

set_option autoImplicit false

namespace Proximity

abbrev Bytes := List UInt8

namespace Text

def utf8 (text : List Char) : Bytes :=
  text.flatMap String.utf8EncodeChar

end Text

namespace Hex

def digit (value : Nat) : Char :=
  if value < 10 then Char.ofNat (48 + value) else Char.ofNat (87 + value)

def value? (octet : UInt8) : Option Nat :=
  let code := octet.toNat
  if 48 ≤ code ∧ code ≤ 57 then some (code - 48)
  else if 97 ≤ code ∧ code ≤ 102 then some (code - 87)
  else if 65 ≤ code ∧ code ≤ 70 then some (code - 55)
  else none

def encode : Bytes → List Char
  | [] => []
  | byte :: rest => digit (byte.toNat / 16) :: digit (byte.toNat % 16) :: encode rest

inductive Fault where
  | oddLength
  | badDigit (octet : UInt8) (index : Nat)
  deriving DecidableEq, Repr

def Fault.message : Fault → String
  | .oddLength => "Odd number of digits"
  | .badDigit octet index =>
    "Invalid character " ++ Text.quotedChar (Char.ofNat octet.toNat) ++ " at position " ++
      toString index

def decodePairs (index : Nat) : Bytes → Except Fault Bytes
  | [] => .ok []
  | [_] => .error .oddLength
  | high :: low :: rest =>
    match value? high, value? low with
    | none, _ => .error (.badDigit high index)
    | some _, none => .error (.badDigit low (index + 1))
    | some h, some l => (decodePairs (index + 2) rest).map (UInt8.ofNat (16 * h + l) :: ·)

def decode (text : List Char) : Except Fault Bytes :=
  let octets := Text.utf8 text
  if octets.length % 2 = 1 then .error .oddLength else decodePairs 0 octets

end Hex

end Proximity
