import Proximity.Discovery.Config

/-! Configs as JSON: one object with all members in a fixed order. -/

set_option autoImplicit false

namespace Proximity

namespace PublishType

def names : List (String × PublishType) :=
  [("unsolicited", .unsolicited), ("solicited", .solicited)]

def name : PublishType → String
  | .unsolicited => "unsolicited"
  | .solicited => "solicited"

def write (t : PublishType) : List Char := Json.writeText t.name.toList

def read : Json.Reader PublishType := Json.variant names

end PublishType

namespace SubscribeType

def names : List (String × SubscribeType) :=
  [("passive", .passive), ("active", .active)]

def name : SubscribeType → String
  | .passive => "passive"
  | .active => "active"

def write (t : SubscribeType) : List Char := Json.writeText t.name.toList

def read : Json.Reader SubscribeType := Json.variant names

end SubscribeType

namespace MatchStyle

def names : List (String × MatchStyle) := [("all", .all), ("first_only", .firstOnly)]

def name : MatchStyle → String
  | .all => "all"
  | .firstOnly => "first_only"

def write (t : MatchStyle) : List Char := Json.writeText t.name.toList

def read : Json.Reader MatchStyle := Json.variant names

end MatchStyle

def writeBytes (bytes : Bytes) : List Char :=
  Json.writeList (bytes.map fun byte => Json.writeNatural byte.toNat)

def readBytes : Json.Reader Bytes := Json.list Json.octet

def writeFilter (filter : List Bytes) : List Char := Json.writeList (filter.map writeBytes)

def readFilter : Json.Reader (List Bytes) := Json.list readBytes

def writeTtl : Option Duration → List Char
  | none => Json.writeNull
  | some d => Duration.layout.writer d

def readTtl : Json.Reader (Option Duration) := Json.optional Duration.layout.reader

def readName : Json.Reader String := fun text =>
  (Json.text text).map fun result => (String.ofList result.1, result.2)

namespace PublishConfig

inductive Member where
  | serviceName
  | serviceInfo
  | matchFilter
  | publishType
  | publishCount
  | ttl
  | terminateNotification
  deriving DecidableEq, Repr

def layout : Json.Layout PublishConfig where
  Member := Member
  memberEq := inferInstance
  members := [.serviceName, .serviceInfo, .matchFilter, .publishType, .publishCount, .ttl,
    .terminateNotification]
  mem_members m := by cases m <;> simp
  label
    | .serviceName => "service_name"
    | .serviceInfo => "service_specific_info"
    | .matchFilter => "match_filter"
    | .publishType => "publish_type"
    | .publishCount => "publish_count"
    | .ttl => "ttl"
    | .terminateNotification => "terminate_notification"
  Value
    | .serviceName => String
    | .serviceInfo => Bytes
    | .matchFilter => List Bytes
    | .publishType => PublishType
    | .publishCount => UInt32
    | .ttl => Option Duration
    | .terminateNotification => Bool
  read
    | .serviceName => readName
    | .serviceInfo => readBytes
    | .matchFilter => readFilter
    | .publishType => PublishType.read
    | .publishCount => Json.word32
    | .ttl => readTtl
    | .terminateNotification => Json.boolean
  write
    | .serviceName => fun name => Json.writeText name.toList
    | .serviceInfo => writeBytes
    | .matchFilter => writeFilter
    | .publishType => PublishType.write
    | .publishCount => fun count => Json.writeNatural count.toNat
    | .ttl => writeTtl
    | .terminateNotification => Json.writeBoolean
  absent
    | .ttl => some none
    | _ => none
  exclusive := false
  title := "struct PublishConfig"
  arity := "struct PublishConfig with 7 elements"
  get c
    | .serviceName => c.serviceName
    | .serviceInfo => c.serviceInfo
    | .matchFilter => c.matchFilter
    | .publishType => c.publishType
    | .publishCount => c.publishCount
    | .ttl => c.ttl
    | .terminateNotification => c.terminateNotification
  build parts := .ok {
    serviceName := parts .serviceName
    serviceInfo := parts .serviceInfo
    matchFilter := parts .matchFilter
    publishType := parts .publishType
    publishCount := parts .publishCount
    ttl := parts .ttl
    terminateNotification := parts .terminateNotification }

def encode (c : PublishConfig) : List Char := layout.writer c

def parse (text : List Char) : Except Json.ParseError PublishConfig := layout.reader.parse text

end PublishConfig

namespace SubscribeConfig

inductive Member where
  | serviceName
  | serviceInfo
  | matchFilter
  | subscribeType
  | subscribeCount
  | ttl
  | matchStyle
  | terminateNotification
  deriving DecidableEq, Repr

def layout : Json.Layout SubscribeConfig where
  Member := Member
  memberEq := inferInstance
  members := [.serviceName, .serviceInfo, .matchFilter, .subscribeType, .subscribeCount, .ttl,
    .matchStyle, .terminateNotification]
  mem_members m := by cases m <;> simp
  label
    | .serviceName => "service_name"
    | .serviceInfo => "service_specific_info"
    | .matchFilter => "match_filter"
    | .subscribeType => "subscribe_type"
    | .subscribeCount => "subscribe_count"
    | .ttl => "ttl"
    | .matchStyle => "match_style"
    | .terminateNotification => "terminate_notification"
  Value
    | .serviceName => String
    | .serviceInfo => Bytes
    | .matchFilter => List Bytes
    | .subscribeType => SubscribeType
    | .subscribeCount => UInt32
    | .ttl => Option Duration
    | .matchStyle => MatchStyle
    | .terminateNotification => Bool
  read
    | .serviceName => readName
    | .serviceInfo => readBytes
    | .matchFilter => readFilter
    | .subscribeType => SubscribeType.read
    | .subscribeCount => Json.word32
    | .ttl => readTtl
    | .matchStyle => MatchStyle.read
    | .terminateNotification => Json.boolean
  write
    | .serviceName => fun name => Json.writeText name.toList
    | .serviceInfo => writeBytes
    | .matchFilter => writeFilter
    | .subscribeType => SubscribeType.write
    | .subscribeCount => fun count => Json.writeNatural count.toNat
    | .ttl => writeTtl
    | .matchStyle => MatchStyle.write
    | .terminateNotification => Json.writeBoolean
  absent
    | .ttl => some none
    | _ => none
  exclusive := false
  title := "struct SubscribeConfig"
  arity := "struct SubscribeConfig with 8 elements"
  get c
    | .serviceName => c.serviceName
    | .serviceInfo => c.serviceInfo
    | .matchFilter => c.matchFilter
    | .subscribeType => c.subscribeType
    | .subscribeCount => c.subscribeCount
    | .ttl => c.ttl
    | .matchStyle => c.matchStyle
    | .terminateNotification => c.terminateNotification
  build parts := .ok {
    serviceName := parts .serviceName
    serviceInfo := parts .serviceInfo
    matchFilter := parts .matchFilter
    subscribeType := parts .subscribeType
    subscribeCount := parts .subscribeCount
    ttl := parts .ttl
    matchStyle := parts .matchStyle
    terminateNotification := parts .terminateNotification }

def encode (c : SubscribeConfig) : List Char := layout.writer c

def parse (text : List Char) : Except Json.ParseError SubscribeConfig := layout.reader.parse text

end SubscribeConfig

def Config.encode : Config → List Char
  | .publish c => c.encode
  | .subscribe c => c.encode

end Proximity
