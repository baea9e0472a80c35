import Proximity.DataPath.Specifier
import Proximity.Discovery.Config
import Proximity.Identity

/-! What comes of a call: errors, which reach a caller or the log, the outcomes of requests as the
application is told them, and the channels it takes them from. -/

set_option autoImplicit false

namespace Proximity

/-! ### Errors -/

inductive Error where
  | invalidConfig (reason : String)
  | service (reason : String)
  | unknownClient (client : ClientId)
  | invalidPeerAddress (length : Nat)
  | specifier (cause : Json.ParseError)
  deriving Repr

namespace Error

def message : Error → String
  | .invalidConfig reason => "Invalid discovery config: " ++ reason
  | .service reason => "Discovery service error: " ++ reason
  | .unknownClient client => "Unknown client: " ++ client.display
  | .invalidPeerAddress length =>
    "Invalid peer address: expected 6 bytes, got " ++ toString length
  | .specifier cause => "Network specifier error: " ++ cause.message

def ofViolation (v : Violation) : Error := .invalidConfig v.message

end Error

/-! ### Outcomes -/

structure Started where
  client : ClientId
  session : SessionId
  kind : Kind
  deriving DecidableEq, Repr

inductive Event where
  | publishStarted (started : Started)
  | subscribeStarted (started : Started)
  | configFailed
  deriving DecidableEq, Repr

def Event.ofStarted (started : Started) : Event :=
  match started.kind with
  | .publish => .publishStarted started
  | .subscribe => .subscribeStarted started

inductive Poll where
  | pending
  | event (event : Event)
  | ended
  deriving DecidableEq, Repr

/-! ### Channels -/

inductive Pending where
  /-- Waits for an event, or for the last sender to go. -/
  | waiting
  /-- Was not looked at; nothing but the end of its target's turn wakes it. -/
  | putOff
  | woken
  deriving DecidableEq, Repr

structure Channel where
  buffer : List Event := []
  receiver : Bool := true
  pending : Option Pending := none

namespace Channel

def wake (c : Channel) : Channel :=
  if c.pending = some .waiting then { c with pending := some .woken } else c

def send (c : Channel) (event : Event) : Channel :=
  { c with buffer := c.buffer ++ [event] }.wake

/-- Give out the oldest event. With none left, the stream is pending as long as somebody may still
send, and has ended otherwise. -/
def poll (c : Channel) (sendable : Bool) : Poll × Channel :=
  match c.buffer with
  | event :: rest => (.event event, { c with buffer := rest })
  | [] => if sendable then (.pending, { c with pending := some .waiting }) else (.ended, c)

def putOff (c : Channel) : Channel := { c with pending := some .putOff }

def resume (c : Channel) : Channel :=
  if c.pending = some .putOff then { c with pending := some .woken } else c

/-- The receiver goes, and with it what it has not taken and the poll that waits. A poll that was
put off is woken all the same. -/
def close (c : Channel) : Channel :=
  { buffer := [], receiver := false, pending := c.pending.filter (· ≠ .waiting) }

end Channel

end Proximity
