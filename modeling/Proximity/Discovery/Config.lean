import Proximity.Duration

/-! What an application asks for: to publish a service, or to look for publishers of one. The
discovery service sets limits; a config is checked before anything is sent, and the first violation
is reported. -/

set_option autoImplicit false

namespace Proximity

/-- How a publisher advertises: unasked, or only in answer to active subscribers. -/
inductive PublishType where
  | unsolicited
  | solicited
  deriving DecidableEq, Repr

/-- How a subscriber looks for publishers: by listening, or by sending queries. -/
inductive SubscribeType where
  | passive
  | active
  deriving DecidableEq, Repr

inductive MatchStyle where
  | all
  | firstOnly
  deriving DecidableEq, Repr

structure PublishConfig where
  serviceName : String := ""
  /-- Opaque bytes for matching subscribers. -/
  serviceInfo : Bytes := []
  /-- Elements that a subscriber has to match, in order. -/
  matchFilter : List Bytes := []
  publishType : PublishType := .unsolicited
  /-- Number of advertisements; zero for no limit. -/
  publishCount : UInt32 := 0
  /-- Lifetime of the session; without one it runs until it is destroyed. -/
  ttl : Option Duration := none
  terminateNotification : Bool := true
  deriving DecidableEq, Repr

structure SubscribeConfig where
  serviceName : String := ""
  /-- Opaque bytes for matching publishers. -/
  serviceInfo : Bytes := []
  /-- Elements that a publisher has to match, in order. -/
  matchFilter : List Bytes := []
  subscribeType : SubscribeType := .passive
  /-- Number of queries; zero for no limit. -/
  subscribeCount : UInt32 := 0
  /-- Lifetime of the session; without one it runs until it is destroyed. -/
  ttl : Option Duration := none
  matchStyle : MatchStyle := .all
  terminateNotification : Bool := true
  deriving DecidableEq, Repr

inductive Kind where
  | publish
  | subscribe
  deriving DecidableEq, Repr

inductive Config where
  | publish (config : PublishConfig)
  | subscribe (config : SubscribeConfig)
  deriving DecidableEq, Repr

def Config.kind : Config → Kind
  | .publish _ => .publish
  | .subscribe _ => .subscribe

/-! ### Limits -/

/-- Most bytes in a service name, a block of service information, a filter element or a whole
encoded filter. -/
def maxFieldLength : Nat := 255

inductive Violation where
  | emptyName
  | longName (octets : Nat)
  | badNameChar (c : Char)
  | longInfo (octets : Nat)
  | longElement (octets : Nat)
  | longFilter (octets : Nat)
  deriving DecidableEq, Repr

namespace Violation

def message : Violation → String
  | .emptyName => "service name is empty"
  | .longName n => "service name is " ++ toString n ++ " bytes, limit is 255"
  | .badNameChar c => "service name contains invalid character " ++ Text.quotedChar c
  | .longInfo n => "service specific info is " ++ toString n ++ " bytes, limit is 255"
  | .longElement n => "match filter element is " ++ toString n ++ " bytes, limit is 255"
  | .longFilter n => "encoded match filter is " ++ toString n ++ " bytes, limit is 255"

end Violation

def isNameChar (c : Char) : Bool := c.isAlphanum || c = '-' || c = '.'

/-- Length of a filter as it is sent: each element has one byte of length before it. -/
def encodedFilterLength (filter : List Bytes) : Nat :=
  filter.foldr (fun element rest => 1 + element.length + rest) 0

def checkLimits (name : String) (info : Bytes) (filter : List Bytes) : Except Violation Unit :=
  if name.utf8ByteSize = 0 then .error .emptyName
  else if maxFieldLength < name.utf8ByteSize then .error (.longName name.utf8ByteSize)
  else
    match name.toList.find? fun c => !isNameChar c with
    | some c => .error (.badNameChar c)
    | none =>
      if maxFieldLength < info.length then .error (.longInfo info.length)
      else
        match filter.find? fun element => maxFieldLength < element.length with
        | some element => .error (.longElement element.length)
        | none =>
          if maxFieldLength < encodedFilterLength filter then
            .error (.longFilter (encodedFilterLength filter))
          else .ok ()

def PublishConfig.check (c : PublishConfig) : Except Violation Unit :=
  checkLimits c.serviceName c.serviceInfo c.matchFilter

def SubscribeConfig.check (c : SubscribeConfig) : Except Violation Unit :=
  checkLimits c.serviceName c.serviceInfo c.matchFilter

def Config.check : Config → Except Violation Unit
  | .publish c => c.check
  | .subscribe c => c.check

end Proximity
