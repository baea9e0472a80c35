import Proximity.Json.Reader

/-! JSON numbers. Digits are collected into 64 bits; what does not fit only scales the number, and a
number with a fraction, an exponent or too many digits is a floating-point number. -/

set_option autoImplicit false

namespace Proximity.Json

inductive Number where
  | integer (value : Int)
  | real (value : Float)
  deriving Repr

def digitValue (c : Char) : Nat := c.toNat - 48

def startsWithDigit : List Char → Bool
  | c :: _ => c.isDigit
  | [] => false

/-- Take digits as long as the number they make is below `limit`: that number, how many digits were
taken, and what is left. -/
def gather (limit value : Nat) : List Char → Nat × Nat × List Char
  | [] => (value, 0, [])
  | c :: rest =>
    if c.isDigit && value * 10 + digitValue c < limit then
      let (total, count, left) := gather limit (value * 10 + digitValue c) rest
      (total, count + 1, left)
    else (value, 0, c :: rest)

def skipDigits (text : List Char) : List Char := text.dropWhile Char.isDigit

def powerOfTen (n : Nat) : Float := Float.ofScientific 1 false n

def maxPower : Nat := 308

/-- `value * 10 ^ power`, each step rounded; `none` when it is too large. -/
def scale (value : Float) (power : Int) : Option Float :=
  if power.natAbs ≤ maxPower then
    if 0 ≤ power then
      let scaled := value * powerOfTen power.natAbs
      if scaled.isInf then none else some scaled
    else some (value / powerOfTen power.natAbs)
  else if value == 0.0 then some value
  else if 0 ≤ power then none
  else scale (value / powerOfTen maxPower) (power + maxPower)
termination_by (-power).toNat
decreasing_by simp only [maxPower] at *; omega

def signed (negative : Bool) (value : Float) : Float := if negative then -value else value

def real (negative : Bool) (significand : Nat) (power : Int) (rest : List Char) :
    Except Failure (Number × List Char) :=
  match scale (UInt64.ofNat significand).toFloat power with
  | some value => .ok (.real (signed negative value), rest)
  | none => .error (faultBefore .numberOutOfRange rest)

/-- From behind the `e`. An exponent beyond 32 bits makes the number zero or too large. -/
def exponent (negative : Bool) (significand : Nat) (power : Int) (text : List Char) :
    Except Failure (Number × List Char) :=
  let (shrinks, text) := match text with
    | '+' :: rest => (false, rest)
    | '-' :: rest => (true, rest)
    | _ => (false, text)
  match text with
  | [] => .error (ended .value)
  | c :: _ =>
    if !c.isDigit then .error (faultAt .invalidNumber text)
    else
      let (size, _, rest) := gather (UInt32.size / 2) 0 text
      if startsWithDigit rest then
        -- A number that is too large is reported behind the first digit that did not fit.
        if significand ≠ 0 ∧ !shrinks then .error (faultBefore .numberOutOfRange (rest.drop 1))
        else .ok (.real (signed negative 0.0), skipDigits rest)
      else real negative significand (if shrinks then power - size else power + size) rest

/-- What may follow the digits of a number that is already known to be a floating-point one. -/
def realTail (negative : Bool) (significand : Nat) (power : Int) (text : List Char) :
    Except Failure (Number × List Char) :=
  match text with
  | 'e' :: rest | 'E' :: rest => exponent negative significand power rest
  | _ => real negative significand power text

def fraction (negative : Bool) (significand : Nat) (power : Int) (text : List Char) :
    Except Failure (Number × List Char) :=
  let (significand, count, rest) := gather UInt64.size significand text
  if startsWithDigit rest then realTail negative significand (power - count) (skipDigits rest)
  else if count = 0 then
    match rest with
    | [] => .error (ended .value)
    | _ => .error (faultAt .invalidNumber rest)
  else realTail negative significand (power - count) rest

def wholeTail (negative : Bool) (significand : Nat) (leftOut : Nat) (text : List Char) :
    Except Failure (Number × List Char) :=
  match text with
  | '.' :: rest => fraction negative significand leftOut rest
  | _ => realTail negative significand leftOut text

/-- A number without a sign that neither fraction nor exponent follows. Zero keeps a sign only as
a floating-point number, and negative integers reach down to `-2 ^ 63`. -/
def whole (negative : Bool) (significand : Nat) : Number :=
  if !negative then .integer significand
  else if significand = 0 ∨ UInt64.size / 2 < significand then
    .real (-(UInt64.ofNat significand).toFloat)
  else .integer (-(significand : Int))

def magnitude (negative : Bool) (text : List Char) : Except Failure (Number × List Char) :=
  match text with
  | [] => .error (ended .value)
  | c :: rest =>
    if !c.isDigit then .error (faultAt .invalidNumber text)
    else if c = '0' ∧ startsWithDigit rest then .error (faultAt .invalidNumber rest)
    else
      let (significand, _, left) := gather UInt64.size 0 text
      if startsWithDigit left then
        let tail := skipDigits left
        wholeTail negative significand (left.length - tail.length) tail
      else
        match left with
        | '.' :: _ | 'e' :: _ | 'E' :: _ => wholeTail negative significand 0 left
        | _ => .ok (whole negative significand, left)

def number : Reader Number
  | '-' :: rest => magnitude true rest
  | text => magnitude false text

def passExponent (text : List Char) : Except Failure (List Char) :=
  let text := match text with
    | '+' :: rest | '-' :: rest => rest
    | _ => text
  if startsWithDigit text then .ok (skipDigits text)
  else .error (faultAt .invalidNumber text)

def passTail (text : List Char) : Except Failure (List Char) :=
  match text with
  | 'e' :: rest | 'E' :: rest => passExponent rest
  | '.' :: rest =>
    if !startsWithDigit rest then .error (faultAt .invalidNumber rest)
    else
      match skipDigits rest with
      | 'e' :: rest | 'E' :: rest => passExponent rest
      | rest => .ok rest
  | _ => .ok text

def passMagnitude (text : List Char) : Except Failure (List Char) :=
  match text with
  | '0' :: rest =>
    if startsWithDigit rest then .error (faultAt .invalidNumber rest) else passTail rest
  | _ => if startsWithDigit text then passTail (skipDigits text)
    else .error (faultAt .invalidNumber text)

end Proximity.Json
