import Proximity.Json.Text
import Proximity.Json.Number

/-! Passing over a whole JSON value of any depth. The brackets that are open are kept in a list, so
nesting costs no recursion. -/

set_option autoImplicit false

namespace Proximity.Json

inductive Bracket where
  | list
  | object
  deriving DecidableEq, Repr

def Bracket.closer : Bracket → Char
  | .list => ']'
  | .object => '}'

def Bracket.unfinished : Bracket → Unfinished
  | .list => .list
  | .object => .object

def Bracket.expectedEnd : Bracket → Malformed
  | .list => .expectedListEnd
  | .object => .expectedObjectEnd

def word : List Char → List Char → Except Failure (List Char)
  | [], text => .ok text
  | _ :: _, [] => .error (ended .value)
  | letter :: letters, c :: rest =>
    if c = letter then word letters rest else .error (faultAt .expectedWord (c :: rest))

def colon (text : List Char) : Except Failure (List Char) :=
  match skipBlank text with
  | [] => .error (ended .object)
  | c :: rest => if c = ':' then .ok rest else .error (faultAt .expectedColon (c :: rest))

/-- Pass over the start of a value: all of a plain one, or the bracket that opens a list or an
object. -/
def passOpening (text : List Char) : Except Failure (Option Bracket × List Char) :=
  match skipBlank text with
  | [] => .error (ended .value)
  | c :: rest =>
    if c = 'n' then (word ['u', 'l', 'l'] rest).map (none, ·)
    else if c = 't' then (word ['r', 'u', 'e'] rest).map (none, ·)
    else if c = 'f' then (word ['a', 'l', 's', 'e'] rest).map (none, ·)
    else if c = '-' then (passMagnitude rest).map (none, ·)
    else if c.isDigit then (passMagnitude (c :: rest)).map (none, ·)
    else if c = '"' then (passTextFrom 0 rest).map (none, ·)
    else if c = '[' then .ok (some .list, rest)
    else if c = '{' then .ok (some .object, rest)
    else .error (faultAt .expectedValue (c :: rest))

/-- Inside `bracket`, right after a value when `filled` and right after the opening otherwise: take
closing brackets, and a comma if more follows. The result is the brackets still open, none when the
outermost has been closed. -/
def passClosings (bracket : Bracket) (filled : Bool) :
    List Bracket → List Char → Except Failure (List Bracket × List Char)
  | [], text =>
    match skipBlank text with
    | [] => .error (ended bracket.unfinished)
    | c :: rest =>
      if filled ∧ c = ',' then .ok ([bracket], rest)
      else if c = bracket.closer then .ok ([], rest)
      else if filled then .error (faultAt bracket.expectedEnd (c :: rest))
      else .ok ([bracket], c :: rest)
  | outer :: others, text =>
    match skipBlank text with
    | [] => .error (ended bracket.unfinished)
    | c :: rest =>
      if filled ∧ c = ',' then .ok (bracket :: outer :: others, rest)
      else if c = bracket.closer then passClosings outer true others rest
      else if filled then .error (faultAt bracket.expectedEnd (c :: rest))
      else .ok (bracket :: outer :: others, c :: rest)

def passKey (text : List Char) : Except Failure (List Char) :=
  match skipBlank text with
  | [] => .error (ended .object)
  | c :: rest =>
    if c = '"' then do
      let rest ← passTextFrom 0 rest
      colon rest
    else .error (faultAt .expectedKey (c :: rest))

/-- Pass over a value inside the brackets `opened`, and over everything up to the end of the
outermost. Each round takes at least one character, so `rounds` is never used up when it starts at
the length of the text. -/
def passWithin : Nat → List Bracket → List Char → Except Failure (List Char)
  | 0, _, _ => .error (ended .value)
  | rounds + 1, opened, text => do
    let (bracket, rest) ← passOpening text
    let (opened, rest) ← match bracket, opened with
      | some bracket, opened => passClosings bracket false opened rest
      | none, bracket :: outer => passClosings bracket true outer rest
      | none, [] => .ok ([], rest)
    match opened with
    | [] => .ok rest
    | .list :: _ => passWithin rounds opened rest
    | .object :: _ => do
      let rest ← passKey rest
      passWithin rounds opened rest

def skipValue (text : List Char) : Except Failure (List Char) :=
  passWithin (text.length + 1) [] text

end Proximity.Json
