import Proximity.Identity
import Proximity.Json.Record

/-! Network specifiers name a peer found out of band. To a session they are opaque; they are written
as JSON with byte fields in hexadecimal. An absent token stands for any token, an empty one only for
an empty one. -/

set_option autoImplicit false

namespace Proximity

inductive Role where
  | initiator
  | responder
  deriving DecidableEq, Repr

namespace Role

def names : List (String × Role) := [("initiator", .initiator), ("responder", .responder)]

def name : Role → String
  | .initiator => "initiator"
  | .responder => "responder"

def write (r : Role) : List Char := Json.writeText r.name.toList

def read : Json.Reader Role := Json.variant names

end Role

inductive SpecifierType where
  /-- Obtained out of band, for an attached client. -/
  | client
  deriving DecidableEq, Repr

namespace SpecifierType

def names : List (String × SpecifierType) := [("client", .client)]

def name : SpecifierType → String
  | .client => "client"

def write (t : SpecifierType) : List Char := Json.writeText t.name.toList

def read : Json.Reader SpecifierType := Json.variant names

end SpecifierType

structure Specifier where
  type : SpecifierType := .client
  role : Role
  clientId : ClientId
  peer : Option Bytes
  token : Option Bytes
  deriving DecidableEq, Repr

def writeHex : Option Bytes → List Char
  | none => Json.writeNull
  | some bytes => Json.writeText (Hex.encode bytes)

/-- The digits are looked at once the string has been read; a fault in them is left for the object
around to place. -/
def readHex : Json.Reader (Option Bytes) := fun text =>
  match Json.optional Json.text text with
  | .error failure => .error failure
  | .ok (none, rest) => .ok (none, rest)
  | .ok (some digits, rest) =>
    match Hex.decode digits with
    | .ok bytes => .ok (some bytes, rest)
    | .error fault => .error (.loose (.notHex fault) rest)

namespace Specifier

def addressLength : Nat := 6

/-- The specifier of a client; a peer address of the wrong length is handed back with that
length. -/
def checked (clientId : ClientId) (role : Role) (peer token : Option Bytes) :
    Except Nat Specifier :=
  match peer with
  | none => .ok { role, clientId, peer, token }
  | some address =>
    if address.length = addressLength then .ok { role, clientId, peer, token }
    else .error address.length

inductive Member where
  | type
  | role
  | clientId
  | peer
  | token
  deriving DecidableEq, Repr

def layout : Json.Layout Specifier where
  Member := Member
  memberEq := inferInstance
  members := [.type, .role, .clientId, .peer, .token]
  mem_members m := by cases m <;> simp
  label
    | .type => "type"
    | .role => "role"
    | .clientId => "client_id"
    | .peer => "peer_mac"
    | .token => "token"
  Value
    | .type => SpecifierType
    | .role => Role
    | .clientId => ClientId
    | .peer => Option Bytes
    | .token => Option Bytes
  read
    | .type => SpecifierType.read
    | .role => Role.read
    | .clientId => ClientId.read
    | .peer => readHex
    | .token => readHex
  write
    | .type => SpecifierType.write
    | .role => Role.write
    | .clientId => ClientId.write
    | .peer => writeHex
    | .token => writeHex
  absent _ := none
  exclusive := false
  title := "struct NetworkSpecifier"
  arity := "struct NetworkSpecifier with 5 elements"
  get s
    | .type => s.type
    | .role => s.role
    | .clientId => s.clientId
    | .peer => s.peer
    | .token => s.token
  build parts := .ok {
    type := parts .type
    role := parts .role
    clientId := parts .clientId
    peer := parts .peer
    token := parts .token }

def encode (s : Specifier) : List Char := layout.writer s

def parse (text : List Char) : Except Json.ParseError Specifier := layout.reader.parse text

end Specifier

end Proximity
