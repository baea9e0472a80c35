import Proximity.Discovery.Event
import Proximity.Run.Dispatch
import Proximity.Run.Step

/-! What happens in a run: what the library logs, what reaches the service, what callbacks note, and
beside these the occurrences that laws about a whole run speak of. -/

set_option autoImplicit false

namespace Proximity

/-! ### Notices -/

inductive Operation where
  | request (kind : Kind)
  | specifier
  deriving DecidableEq, Repr

def Kind.name : Kind → String
  | .publish => "publish"
  | .subscribe => "subscribe"

def Kind.title : Kind → String
  | .publish => "Publish"
  | .subscribe => "Subscribe"

def Operation.name : Operation → String
  | .request kind => kind.name
  | .specifier => "create_network_specifier"

inductive Refusal where
  | managerDropped
  | terminated
  deriving DecidableEq, Repr

inductive Level where
  | trace
  | debug
  | info
  | warn
  | error
  deriving DecidableEq, Repr

inductive Notice where
  | sessionCreated (session : SessionRef) (client : ClientId)
  | alreadyDestroyed (session : SessionRef) (client : ClientId)
  | managerDropped (session : SessionRef) (client : ClientId)
  | sessionDestroyed (session : SessionRef) (client : ClientId)
  | sessionLeaked (session : SessionRef)
  | callRefused (session : SessionRef) (client : ClientId) (operation : Operation)
      (refusal : Refusal)
  | clientAttached (client : ClientId)
  | tokenMismatch (client : ClientId)
  | disconnectUnknown (client : ClientId)
  | clientDetached (task : TaskRef) (client : ClientId)
  | detachFailed (task : TaskRef) (client : ClientId) (error : Error)
  | requestRejected (client : ClientId) (kind : Kind) (reason : Error)
  | discoveryStarted (started : Started)
  | discoveryFailed (client : ClientId) (kind : Kind) (error : Error)
  | specifierUnknown (client : ClientId)
  | specifierFailed (client : ClientId) (role : Role) (error : Error)
  | receiverDropped

namespace Notice

def level : Notice → Level
  | .sessionCreated .. | .alreadyDestroyed .. | .sessionDestroyed .. | .discoveryStarted .. =>
    .debug
  | .clientAttached .. | .clientDetached .. => .info
  | .managerDropped .. | .sessionLeaked .. | .callRefused .. | .tokenMismatch ..
  | .disconnectUnknown .. | .requestRejected .. | .discoveryFailed .. | .specifierUnknown .. =>
    .warn
  | .detachFailed .. | .specifierFailed .. => .error
  | .receiverDropped => .trace

def message : Notice → String
  | .sessionCreated .. => "new discovery session"
  | .alreadyDestroyed .. => "destroy: already terminated"
  | .managerDropped .. => "destroy: service manager already dropped"
  | .sessionDestroyed .. => "session destroyed"
  | .sessionLeaked .. => "resource dropped without calling destroy()"
  | .callRefused _ _ operation .managerDropped =>
    operation.name ++ ": called after the service manager was dropped"
  | .callRefused _ _ operation .terminated => operation.name ++ ": called after termination"
  | .clientAttached .. => "client attached"
  | .tokenMismatch .. => "disconnect: revocation token mismatch, ignoring"
  | .disconnectUnknown .. => "disconnect: unknown client"
  | .clientDetached .. => "client detached"
  | .detachFailed .. => "failed to detach client"
  | .requestRejected _ kind _ => kind.name ++ ": request rejected"
  | .discoveryStarted .. => "discovery session started"
  | .discoveryFailed .. => "discovery session failed to start"
  | .specifierUnknown .. => "derive_network_specifier: unknown client"
  | .specifierFailed .. => "failed to derive network specifier"
  | .receiverDropped => "discovery event receiver dropped"

def fields : Notice → List (String × String)
  | .sessionCreated _ client | .alreadyDestroyed _ client | .managerDropped _ client
  | .sessionDestroyed _ client | .clientAttached client | .tokenMismatch client
  | .disconnectUnknown client | .clientDetached _ client | .specifierUnknown client =>
    [("client_id", client.display)]
  | .sessionLeaked _ => [("resource", "AwareSession"), ("method", "destroy")]
  | .callRefused _ client operation _ =>
    [("client_id", client.display), ("op", operation.name)]
  | .detachFailed _ client error => [("client_id", client.display), ("error", error.message)]
  | .requestRejected client kind reason =>
    [("client_id", client.display), ("op", kind.name), ("reason", reason.message)]
  | .discoveryStarted started =>
    [("client_id", started.client.display), ("session_id", started.session.display),
      ("kind", started.kind.title)]
  | .discoveryFailed client kind error =>
    [("client_id", client.display), ("kind", kind.title), ("error", error.message)]
  | .specifierFailed client role error =>
    [("client_id", client.display), ("role", role.name), ("error", error.message)]
  | .receiverDropped => []

end Notice

/-! ### Occurrences -/

/-- A call that reaches the service, or a manager that has none. -/
inductive Call where
  | attach
  | detach (task : TaskRef) (client : ClientId)
  | start (task : TaskRef) (client : ClientId) (config : Config)
  | disconnect (client : ClientId) (token : Token)
  | reenter (terminated : Option Bool)
  | request (client : ClientId) (config : Config)
  | specifier (client : ClientId)
  deriving DecidableEq

inductive Answer where
  | nothing
  /-- The step could not be taken and had no effect. -/
  | impossible
  | client (client : ClientId)
  | failed (error : Error)
  | session (client : ClientId) (terminated : Bool)
  | text (text : String)
  /-- Whether the manager is gone for good. -/
  | last (last : Bool)
  | truth (holds : Bool)
  | count (n : Nat)
  | polled (poll : Poll)

inductive Note where
  | callback (tag : String) (on : Option Target) (event : Event) (answers : List Answer)
  | task (tag : String) (on : Target)

inductive SessionCall where
  | destroy
  | request (config : Config) (listener : Listener) (on : Option Target)
  | specifier (role : Role) (peer token : Option Bytes)

inductive ManagerCall where
  /-- With the task that detaches the client when the call is honoured. -/
  | disconnect (client : ClientId) (token : Token) (task : Option TaskRef)
  /-- With the task that brings the outcome, and why there will be none but failure. -/
  | request (task : TaskRef) (request : Request) (target : Target) (rejection : Option Error)
  | specifier (client : ClientId) (role : Role) (peer token : Option Bytes)

inductive Occurrence where
  | logged (notice : Notice)
  /-- A call on the service, while a target may be running. -/
  | called (running : Option Target) (call : Call)
  | noted (note : Note)
  | attached (client : ClientId) (session : SessionRef) (token : Token)
  /-- A call on a session, and why it was not passed on. -/
  | asked (session : SessionRef) (call : SessionCall) (refusal : Option Refusal)
  /-- A call on the manager, from a session or past any, while a target may be running. -/
  | received (origin : Option SessionRef) (running : Option Target) (call : ManagerCall)
  | suspended (task : TaskRef) (gate : Name)
  | answered (task : TaskRef) (result : Except Error (Option SessionId))
  /-- A callback method has been called, by a task or past any. -/
  | invoked (task : Option TaskRef) (running : Option Target) (listener : Listener) (event : Event)
  /-- A task was dropped without running to its end. -/
  | discarded (task : TaskRef)
  | polled (channel : ChannelRef) (poll : Poll)
  /-- A poll was left pending only because its task had polled too often. -/
  | putOff (channel : ChannelRef)
  /-- Nobody holds a sender of the channel any more. -/
  | abandoned (channel : ChannelRef)

def Occurrence.managerCall? : Occurrence → Option ManagerCall
  | .received _ _ call => some call
  | _ => none

end Proximity
