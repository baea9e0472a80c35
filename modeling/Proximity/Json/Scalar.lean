import Proximity.Json.Skip

/-! Readers of the plain types, and what those types are written as: truth values, numbers of a
fixed width, strings, one of several names, and values that may be absent. -/

set_option autoImplicit false

namespace Proximity.Json

/-- What stands where `expected` was asked for. A plain value is read first, and a fault inside it
wins. -/
def mismatch (expected : String) : List Char → Failure
  | [] => ended .value
  | c :: rest =>
    let found (what : Found) (rest : List Char) : Failure :=
      .placed (.mismatch (.wrongType what expected)) ⟨rest, 0⟩
    let after (letters : List Char) (what : Found) : Failure :=
      match word letters rest with
      | .ok rest => found what rest
      | .error failure => failure
    if c = 'n' then after ['u', 'l', 'l'] .null
    else if c = 't' then after ['r', 'u', 'e'] (.boolean true)
    else if c = 'f' then after ['a', 'l', 's', 'e'] (.boolean false)
    else if c = '-' ∨ c.isDigit then
      match number (c :: rest) with
      | .ok (.integer value, rest) => found (.integer value) rest
      | .ok (.real value, rest) => found (.real value) rest
      | .error failure => failure
    else if c = '"' then
      match textFrom 0 rest with
      | .ok (value, rest) => found (.text value) rest
      | .error failure => failure
    else if c = '[' then found .sequence (c :: rest)
    else if c = '{' then found .object (c :: rest)
    else faultAt .expectedValue (c :: rest)

def boolean : Reader Bool := fun text =>
  match skipBlank text with
  | [] => .error (ended .value)
  | c :: rest =>
    if c = 't' then (word ['r', 'u', 'e'] rest).map (true, ·)
    else if c = 'f' then (word ['a', 'l', 's', 'e'] rest).map (false, ·)
    else .error (mismatch "a boolean" (c :: rest))

/-- A natural number below `limit`; `expected` names the type with that limit. -/
def natural (limit : Nat) (expected : String) : Reader Nat := fun text =>
  match skipBlank text with
  | [] => .error (ended .value)
  | c :: rest =>
    if c = '-' ∨ c.isDigit then
      match number (c :: rest) with
      | .error failure => .error failure
      | .ok (.integer value, rest) =>
        if 0 ≤ value ∧ value < limit then .ok (value.toNat, rest)
        else .error (.placed (.mismatch (.outOfRange value expected)) ⟨rest, 0⟩)
      | .ok (.real value, rest) =>
        .error (.placed (.mismatch (.wrongType (.real value) expected)) ⟨rest, 0⟩)
    else .error (mismatch expected (c :: rest))

def octet : Reader UInt8 := fun text =>
  (natural UInt8.size "u8" text).map fun result => (UInt8.ofNat result.1, result.2)

def word32 : Reader UInt32 := fun text =>
  (natural UInt32.size "u32" text).map fun result => (UInt32.ofNat result.1, result.2)

def text : Reader (List Char) := fun input =>
  match skipBlank input with
  | [] => .error (ended .value)
  | c :: rest => if c = '"' then textFrom 0 rest else .error (mismatch "a string" (c :: rest))

def unitValue : Reader Unit := fun text =>
  match skipBlank text with
  | [] => .error (ended .value)
  | c :: rest =>
    if c = 'n' then (word ['u', 'l', 'l'] rest).map ((), ·)
    else .error (mismatch "unit" (c :: rest))

def optional {α : Type} (read : Reader α) : Reader (Option α) := fun text =>
  match skipBlank text with
  | 'n' :: rest => (word ['u', 'l', 'l'] rest).map (none, ·)
  | rest => (read rest).map fun result => (some result.1, result.2)

def named {α : Type} (cases : List (String × α)) (name : List Char) (rest : List Char) :
    Except Failure (α × List Char) :=
  match cases.find? fun entry => entry.1.toList = name with
  | some (_, value) => .ok (value, rest)
  | none =>
    let cause := Mismatch.unknownVariant (String.ofList name) (cases.map (·.1))
    .error (.placed (.mismatch cause) ⟨rest, 0⟩)

/-- One of several names: as a string, or as the only key of an object whose value is `null`. -/
def variant {α : Type} (cases : List (String × α)) : Reader α := fun text =>
  match skipBlank text with
  | [] => .error (ended .value)
  | c :: rest =>
    if c = '"' then do
      let (name, rest) ← textFrom 0 rest
      named cases name rest
    else if c = '{' then
      match skipBlank rest with
      | [] => .error (ended .object)
      | c :: rest =>
        if c = '"' then do
          let (name, rest) ← textFrom 0 rest
          let (value, rest) ← named cases name rest
          let rest ← colon rest
          let (_, rest) ← unitValue rest
          match skipBlank rest with
          | [] => .error (ended .object)
          | c :: rest =>
            if c = '}' then .ok (value, rest) else .error (faultBefore .expectedValue (c :: rest))
        else if c = '}' then .error (faultAt .expectedValue (c :: rest))
        else .error (faultAt .expectedKey (c :: rest))
    else .error (faultAt .expectedValue (c :: rest))

def writeNatural (n : Nat) : List Char := Nat.toDigits 10 n

def writeBoolean (b : Bool) : List Char :=
  if b then ['t', 'r', 'u', 'e'] else ['f', 'a', 'l', 's', 'e']

def writeNull : List Char := ['n', 'u', 'l', 'l']

end Proximity.Json
