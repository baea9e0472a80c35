import Proximity.Json.Reader

/-! The inside of a JSON string, from behind its opening quote to behind its closing one: read into
characters, or only passed over; and the text a list of characters is written as. -/

set_option autoImplicit false

namespace Proximity.Json

def shortEscape? : Char → Option Char
  | '"' => some '"'
  | '\\' => some '\\'
  | '/' => some '/'
  | 'b' => some '\x08'
  | 'f' => some '\x0c'
  | 'n' => some '\n'
  | 'r' => some '\r'
  | 't' => some '\t'
  | _ => none

def hexValue? (c : Char) : Option Nat :=
  if c.toNat < 128 then Hex.value? (UInt8.ofNat c.toNat) else none

/-- The four digits of a unit escape. Four octets are taken whatever they are. -/
def unit (text : List Char) : Except Failure Nat :=
  if octets (text.take 4) < 4 then .error (ended .text)
  else
    match text.take 4 |>.mapM hexValue? with
    | some [a, b, c, d] => .ok (((a * 16 + b) * 16 + c) * 16 + d)
    | _ => .error (.placed (.malformed .invalidEscape) ⟨text, 4⟩)

def isHighSurrogate (unit : Nat) : Bool := 0xD800 ≤ unit && unit ≤ 0xDBFF

def isLowSurrogate (unit : Nat) : Bool := 0xDC00 ≤ unit && unit ≤ 0xDFFF

def pairChar (high low : Nat) : Char :=
  Char.ofNat ((high - 0xD800) * 0x400 + (low - 0xDC00) + 0x10000)

def secondHalf (high : Nat) : List Char → Except Failure Char
  | [] => .error (ended .text)
  | c :: rest =>
    if c ≠ '\\' then .error (faultAt .unpairedSurrogate (c :: rest))
    else
      match rest with
      | [] => .error (ended .text)
      | u :: rest =>
        if u ≠ 'u' then .error (faultAt .unpairedSurrogate (u :: rest))
        else do
          let low ← unit rest
          if isLowSurrogate low then .ok (pairChar high low)
          else .error (faultBefore .loneSurrogate (rest.drop 4))

/-- The escape behind a backslash: its character, and how many characters it takes. -/
def escape : List Char → Except Failure (Char × Nat)
  | [] => .error (ended .text)
  | c :: rest =>
    match shortEscape? c with
    | some plain => .ok (plain, 1)
    | none =>
      if c ≠ 'u' then .error (faultAt .invalidEscape (c :: rest))
      else do
        let first ← unit rest
        if isLowSurrogate first then .error (faultBefore .loneSurrogate (rest.drop 4))
        else if isHighSurrogate first then do
          let paired ← secondHalf first (rest.drop 4)
          .ok (paired, 11)
        else .ok (Char.ofNat first, 5)

/-- An escape that nobody will look at: surrogates need no partner. -/
def passEscape : List Char → Except Failure Nat
  | [] => .error (ended .text)
  | c :: rest =>
    match shortEscape? c with
    | some _ => .ok 1
    | none =>
      if c ≠ 'u' then .error (faultAt .invalidEscape (c :: rest))
      else do
        let _ ← unit rest
        .ok 5

/-- Read a string up to its closing quote. The first `taken` characters belong to an escape that
has been read already. -/
def textFrom : Nat → List Char → Except Failure (List Char × List Char)
  | _, [] => .error (ended .text)
  | taken + 1, _ :: rest => textFrom taken rest
  | 0, c :: rest =>
    if c = '"' then .ok ([], rest)
    else if c = '\\' then
      match escape rest with
      | .error failure => .error failure
      | .ok (plain, length) =>
        (textFrom length rest).map fun result => (plain :: result.1, result.2)
    else if c.toNat < 0x20 then .error (faultBefore .controlCharacter rest)
    else (textFrom 0 rest).map fun result => (c :: result.1, result.2)

def passTextFrom : Nat → List Char → Except Failure (List Char)
  | _, [] => .error (ended .text)
  | taken + 1, _ :: rest => passTextFrom taken rest
  | 0, c :: rest =>
    if c = '"' then .ok rest
    else if c = '\\' then
      match passEscape rest with
      | .error failure => .error failure
      | .ok length => passTextFrom length rest
    else if c.toNat < 0x20 then .error (faultBefore .controlCharacter (c :: rest))
    else passTextFrom 0 rest

/-- One character inside a written string: only quotes, backslashes and controls are escaped. -/
def writeChar (c : Char) : List Char :=
  if c = '"' then ['\\', '"']
  else if c = '\\' then ['\\', '\\']
  else if c = '\x08' then ['\\', 'b']
  else if c = '\x0c' then ['\\', 'f']
  else if c = '\n' then ['\\', 'n']
  else if c = '\r' then ['\\', 'r']
  else if c = '\t' then ['\\', 't']
  else if c.toNat < 0x20 then
    ['\\', 'u', '0', '0', Hex.digit (c.toNat / 16), Hex.digit (c.toNat % 16)]
  else [c]

def writeText (text : List Char) : List Char :=
  '"' :: text.flatMap writeChar ++ ['"']

end Proximity.Json
