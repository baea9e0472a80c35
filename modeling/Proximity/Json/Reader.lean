import Proximity.Json.Error

/-! Readers take a value off the front of a text. A reader that fails says where: the text that was
left, and how many octets of it had been looked at as well. A mismatch is first raised without a
place; the innermost number, text, list or object around it gives it one. -/

set_option autoImplicit false

namespace Proximity.Json

/-- A place in a text, `ahead` octets into what is left of it. -/
structure Spot where
  rest : List Char
  ahead : Nat
  deriving DecidableEq, Repr

inductive Failure where
  | loose (cause : Mismatch) (rest : List Char)
  | placed (cause : Cause) (spot : Spot)
  deriving Repr

def Failure.cause : Failure → Cause
  | .loose cause _ => .mismatch cause
  | .placed cause _ => cause

def Failure.spot : Failure → Spot
  | .loose _ rest => ⟨rest, 0⟩
  | .placed _ spot => spot

abbrev Reader (α : Type) := List Char → Except Failure (α × List Char)

def ended (what : Unfinished) : Failure := .placed (.unfinished what) ⟨[], 0⟩

/-- A fault at the octet that comes next, which is counted as looked at. -/
def faultAt (what : Malformed) (rest : List Char) : Failure := .placed (.malformed what) ⟨rest, 1⟩

/-- A fault found once everything before `rest` had been taken. -/
def faultBefore (what : Malformed) (rest : List Char) : Failure :=
  .placed (.malformed what) ⟨rest, 0⟩

def isBlank (c : Char) : Bool := c = ' ' || c = '\n' || c = '\t' || c = '\r'

def skipBlank (text : List Char) : List Char := text.dropWhile isBlank

/-- How a list or an object ends: the text left over, and what is wrong with the end if anything
is. -/
abbrev EndRule := List Char → List Char × Option Failure

def listEnd : EndRule := fun text =>
  match skipBlank text with
  | [] => ([], some (ended .list))
  | c :: rest =>
    if c = ']' then (rest, none)
    -- A list takes the comma to see what is behind it; an object leaves it.
    else if c = ',' then
      let rest := skipBlank rest
      match rest with
      | ']' :: _ => (rest, some (faultAt .trailingComma rest))
      | _ => (rest, some (faultAt .trailingCharacters rest))
    else (c :: rest, some (faultAt .trailingCharacters (c :: rest)))

def objectEnd : EndRule := fun text =>
  match skipBlank text with
  | [] => ([], some (ended .object))
  | c :: rest =>
    if c = '}' then (rest, none)
    else if c = ',' then (c :: rest, some (faultAt .trailingComma (c :: rest)))
    else (c :: rest, some (faultAt .trailingCharacters (c :: rest)))

/-- Close a list or an object whose content has been read. The end is looked for even when the
content failed, and a mismatch in the content is placed behind it. -/
def close {α : Type} (rule : EndRule) :
    Except Failure (α × List Char) → Except Failure (α × List Char)
  | .ok (value, text) =>
    match rule text with
    | (rest, none) => .ok (value, rest)
    | (_, some failure) => .error failure
  | .error (.loose cause text) => .error (.placed (.mismatch cause) ⟨(rule text).1, 0⟩)
  | .error failure => .error failure

def advance (line column : Nat) : Nat → List Char → Nat × Nat
  | 0, _ => (line, column)
  | _, [] => (line, column)
  | octets + 1, c :: rest =>
    if c = '\n' then advance (line + 1) 0 octets rest
    else if octets + 1 < c.utf8Size then (line, column + (octets + 1))
    else advance line (column + c.utf8Size) (octets + 1 - c.utf8Size) rest

def octets (text : List Char) : Nat := text.foldr (fun c after => c.utf8Size + after) 0

def Spot.locate (text : List Char) (spot : Spot) : Nat × Nat :=
  let before := text.take (text.length - spot.rest.length)
  advance 1 0 (octets before + spot.ahead) text

def Failure.locate (text : List Char) (failure : Failure) : ParseError :=
  let place := failure.spot.locate text
  ⟨failure.cause, place.1, place.2⟩

/-- Read a whole text: one value with nothing but blanks around it. -/
def Reader.parse {α : Type} (read : Reader α) (text : List Char) : Except ParseError α :=
  match read text with
  | .error failure => .error (failure.locate text)
  | .ok (value, rest) =>
    match skipBlank rest with
    | [] => .ok value
    | left => .error ((faultAt .trailingCharacters left).locate text)

end Proximity.Json
