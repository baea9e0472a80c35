import Proximity.Decimal.Shortest
import Proximity.Text.Hex

/-! Why a JSON text is refused: it ended too soon, it is not JSON, or it is JSON of another type
than the one asked for. Each cause has one wording; a reported error adds where it was found. -/

set_option autoImplicit false

namespace Proximity.Json

/-- What was still open when the text ended. -/
inductive Unfinished where
  | value
  | text
  | list
  | object
  deriving DecidableEq, Repr

inductive Malformed where
  | expectedColon
  | expectedListEnd
  | expectedObjectEnd
  | expectedWord
  | expectedValue
  | expectedKey
  | invalidEscape
  | invalidNumber
  | numberOutOfRange
  | controlCharacter
  | loneSurrogate
  | unpairedSurrogate
  | trailingComma
  | trailingCharacters
  deriving DecidableEq, Repr

/-- A value that stands where one of another type was asked for. -/
inductive Found where
  | null
  | boolean (value : Bool)
  | integer (value : Int)
  | real (value : Float)
  | text (value : List Char)
  | sequence
  | object
  deriving Repr

inductive Mismatch where
  | wrongType (found : Found) (expected : String)
  | outOfRange (value : Int) (expected : String)
  | unknownVariant (name : String) (expected : List String)
  | unknownMember (name : String) (expected : List String)
  | duplicateMember (name : String)
  | missingMember (name : String)
  | wrongLength (count : Nat) (expected : String)
  | durationOverflow
  | notHex (fault : Hex.Fault)
  deriving Repr

inductive Cause where
  | unfinished (what : Unfinished)
  | malformed (what : Malformed)
  | mismatch (what : Mismatch)
  deriving Repr

inductive Category where
  | unfinished
  | malformed
  | mismatch
  deriving DecidableEq, Repr

def Cause.category : Cause → Category
  | .unfinished _ => .unfinished
  | .malformed _ => .malformed
  | .mismatch _ => .mismatch

def Unfinished.message : Unfinished → String
  | .value => "EOF while parsing a value"
  | .text => "EOF while parsing a string"
  | .list => "EOF while parsing a list"
  | .object => "EOF while parsing an object"

def Malformed.message : Malformed → String
  | .expectedColon => "expected `:`"
  | .expectedListEnd => "expected `,` or `]`"
  | .expectedObjectEnd => "expected `,` or `\x7d`"
  | .expectedWord => "expected ident"
  | .expectedValue => "expected value"
  | .expectedKey => "key must be a string"
  | .invalidEscape => "invalid escape"
  | .invalidNumber => "invalid number"
  | .numberOutOfRange => "number out of range"
  | .controlCharacter => "control character (\\u0000-\\u001F) found while parsing a string"
  | .loneSurrogate => "lone leading surrogate in hex escape"
  | .unpairedSurrogate => "unexpected end of hex escape"
  | .trailingComma => "trailing comma"
  | .trailingCharacters => "trailing characters"

def Found.message : Found → String
  | .null => "null"
  | .boolean value => "boolean `" ++ (if value then "true" else "false") ++ "`"
  | .integer value => "integer `" ++ toString value ++ "`"
  | .real value => "floating point `" ++ Decimal.render value ++ "`"
  | .text value => "string " ++ Text.quotedText value
  | .sequence => "sequence"
  | .object => "map"

/-- Names in backquotes: one alone, two with "or" between them, more as a list. -/
def alternatives : List String → String
  | [] => "there are no variants"
  | [only] => "expected `" ++ only ++ "`"
  | [first, second] => "expected `" ++ first ++ "` or `" ++ second ++ "`"
  | names => "expected one of " ++ ", ".intercalate (names.map fun name => "`" ++ name ++ "`")

def Mismatch.message : Mismatch → String
  | .wrongType found expected => "invalid type: " ++ found.message ++ ", expected " ++ expected
  | .outOfRange value expected =>
    "invalid value: integer `" ++ toString value ++ "`, expected " ++ expected
  | .unknownVariant name expected => "unknown variant `" ++ name ++ "`, " ++ alternatives expected
  | .unknownMember name expected => "unknown field `" ++ name ++ "`, " ++ alternatives expected
  | .duplicateMember name => "duplicate field `" ++ name ++ "`"
  | .missingMember name => "missing field `" ++ name ++ "`"
  | .wrongLength count expected =>
    "invalid length " ++ toString count ++ ", expected " ++ expected
  | .durationOverflow => "overflow deserializing Duration"
  | .notHex fault => fault.message

def Cause.message : Cause → String
  | .unfinished what => what.message
  | .malformed what => what.message
  | .mismatch what => what.message

/-- A refusal as it is reported: lines count from one, columns count the octets before. -/
structure ParseError where
  cause : Cause
  line : Nat
  column : Nat
  deriving Repr

def ParseError.category (e : ParseError) : Category := e.cause.category

def ParseError.message (e : ParseError) : String :=
  e.cause.message ++ " at line " ++ toString e.line ++ " column " ++ toString e.column

end Proximity.Json
