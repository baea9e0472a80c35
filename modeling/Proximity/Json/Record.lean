import Proximity.Json.Scalar

/-! Lists of values of one type, and values with named members. A layout lists the members in the
order they are written; one reader and one writer serve every layout. Members are read in any order
from an object, or in the written order from a list. -/

set_option autoImplicit false

namespace Proximity.Json

/-! ### Lists -/

def nextElement (first : Bool) (text : List Char) : Except Failure (Bool × List Char) :=
  match skipBlank text with
  | [] => .error (ended .list)
  | c :: rest =>
    if c = ']' then .ok (false, c :: rest)
    else if first then .ok (true, c :: rest)
    else if c = ',' then
      match skipBlank rest with
      | [] => .error (ended .value)
      | c :: rest =>
        if c = ']' then .error (faultAt .trailingComma (c :: rest)) else .ok (true, c :: rest)
    else .error (faultAt .expectedListEnd (c :: rest))

/-- Elements up to the closing bracket. Each takes at least one character, so `rounds` is never
used up when it starts at the length of the text. -/
def elements {α : Type} (read : Reader α) : Nat → Bool → Reader (List α)
  | 0, _, _ => .error (ended .list)
  | rounds + 1, first, text => do
    let (more, rest) ← nextElement first text
    if more then
      let (value, rest) ← read rest
      let (values, rest) ← elements read rounds false rest
      .ok (value :: values, rest)
    else .ok ([], rest)

def list {α : Type} (read : Reader α) : Reader (List α) := fun text =>
  match skipBlank text with
  | [] => .error (ended .value)
  | c :: rest =>
    if c = '[' then close listEnd (elements read (rest.length + 1) true rest)
    else .error (mismatch "a sequence" (c :: rest))

def separated : List (List Char) → List Char
  | [] => []
  | [only] => only
  | first :: rest => first ++ ',' :: separated rest

def writeList (values : List (List Char)) : List Char :=
  '[' :: separated values ++ [']']

/-! ### Records -/

/-- The members of a type: their names, their own readers and writers, and how a value is taken
apart and put together. -/
structure Layout (α : Type) where
  Member : Type
  memberEq : DecidableEq Member
  members : List Member
  mem_members : ∀ m, m ∈ members
  label : Member → String
  Value : Member → Type
  read : (m : Member) → Reader (Value m)
  write : (m : Member) → Value m → List Char
  /-- The value of a member that an object leaves out, if it may be left out. -/
  absent : (m : Member) → Option (Value m)
  /-- Whether members with other names are refused instead of passed over. -/
  exclusive : Bool
  /-- What a text of another type is told to be. -/
  title : String
  /-- What a list with too few elements is told to be. -/
  arity : String
  get : α → (m : Member) → Value m
  build : ((m : Member) → Value m) → Except Mismatch α

namespace Layout

variable {α : Type} (layout : Layout α)

abbrev Slots := (m : layout.Member) → Option (layout.Value m)

def Slots.empty : layout.Slots := fun _ => none

variable {layout} in
def Slots.set (slots : layout.Slots) (m : layout.Member) (value : layout.Value m) :
    layout.Slots := fun other =>
  match layout.memberEq m other with
  | isTrue same => some (same ▸ value)
  | isFalse _ => slots other

def member? (key : List Char) : Option layout.Member :=
  layout.members.find? fun m => (layout.label m).toList = key

/-- What is known of a member in the end: what was read, or what its absence means. -/
def settled (slots : layout.Slots) (m : layout.Member) : Option (layout.Value m) :=
  (slots m).orElse fun _ => layout.absent m

/-- Put a value together; the first member in written order that is missing is reported. -/
def assemble (slots : layout.Slots) : Except Mismatch α :=
  match found : layout.members.find? fun m => (layout.settled slots m).isNone with
  | some m => .error (.missingMember (layout.label m))
  | none =>
    layout.build fun m => (layout.settled slots m).get <| by
      have := List.find?_eq_none.1 found m (layout.mem_members m)
      simpa [Option.isSome_iff_ne_none] using this

/-- Whether another key follows; then what is left begins behind its opening quote. -/
def nextMember (first : Bool) (text : List Char) : Except Failure (Bool × List Char) :=
  match skipBlank text with
  | [] => .error (ended .object)
  | c :: rest =>
    if c = '}' then .ok (false, c :: rest)
    else if first then
      if c = '"' then .ok (true, rest) else .error (faultAt .expectedKey (c :: rest))
    else if c = ',' then
      match skipBlank rest with
      | [] => .error (ended .value)
      | c :: rest =>
        if c = '"' then .ok (true, rest)
        else if c = '}' then .error (faultAt .trailingComma (c :: rest))
        else .error (faultAt .expectedKey (c :: rest))
    else .error (faultAt .expectedObjectEnd (c :: rest))

/-- One member behind its key: kept, or passed over when its name is not known. -/
def takeMember (slots : layout.Slots) (key : List Char) (text : List Char) :
    Except Failure (layout.Slots × List Char) :=
  match layout.member? key with
  | some m =>
    -- A repeated key is refused before its colon is looked for.
    if (slots m).isSome then .error (.loose (.duplicateMember (layout.label m)) text)
    else do
      let text ← colon text
      let (value, text) ← layout.read m text
      .ok (slots.set m value, text)
  | none =>
    if layout.exclusive then
      .error (.loose (.unknownMember (String.ofList key) (layout.members.map layout.label)) text)
    else do
      let text ← colon text
      let text ← skipValue text
      .ok (slots, text)

/-- Members up to the closing brace. Each takes at least one character, so `rounds` is never used
up when it starts at the length of the text. -/
def takeMembers : Nat → Bool → layout.Slots → Reader layout.Slots
  | 0, _, _, _ => .error (ended .object)
  | rounds + 1, first, slots, text => do
    let (more, text) ← nextMember first text
    if more then
      let (key, text) ← textFrom 0 text
      let (slots, text) ← layout.takeMember slots key text
      takeMembers rounds false slots text
    else .ok (slots, text)

def takeElements : Nat → List layout.Member → layout.Slots → Reader layout.Slots
  | _, [], slots, text => .ok (slots, text)
  | index, m :: members, slots, text => do
    let (more, text) ← nextElement (index = 0) text
    if more then
      let (value, text) ← layout.read m text
      takeElements (index + 1) members (slots.set m value) text
    else .error (.loose (.wrongLength index layout.arity) text)

def finish (result : Except Failure (layout.Slots × List Char)) : Except Failure (α × List Char) :=
  match result with
  | .error failure => .error failure
  | .ok (slots, text) =>
    match layout.assemble slots with
    | .ok value => .ok (value, text)
    | .error cause => .error (.loose cause text)

def reader : Reader α := fun text =>
  match skipBlank text with
  | [] => .error (ended .value)
  | c :: rest =>
    if c = '{' then
      close objectEnd (layout.finish (layout.takeMembers (rest.length + 1) true (Slots.empty layout)
        rest))
    else if c = '[' then
      close listEnd (layout.finish (layout.takeElements 0 layout.members (Slots.empty layout) rest))
    else .error (mismatch layout.title (c :: rest))

def writeMember (value : α) (m : layout.Member) : List Char :=
  writeText (layout.label m).toList ++ ':' :: layout.write m (layout.get value m)

def writer (value : α) : List Char :=
  '{' :: separated (layout.members.map (layout.writeMember value)) ++ ['}']

end Layout

end Proximity.Json
