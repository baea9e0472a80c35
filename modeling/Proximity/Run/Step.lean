import Proximity.DataPath.Specifier
import Proximity.Discovery.Event

/-! What a run is made of: steps that use the library from outside, and callbacks that are told the
outcome of a request and may take steps themselves. -/

set_option autoImplicit false

namespace Proximity

abbrev Name := String

abbrev SessionRef := Nat

abbrev ChannelRef := Nat

abbrev TaskRef := Nat

/-- Where callbacks are delivered. Each target runs its tasks one after another, and only when it is
pumped. -/
inductive Target where
  | main
  | alt
  deriving DecidableEq, Repr

/-- Receives an outcome: not at all, by passing it on to a sender of an event channel, or by noting
it under a tag after taking some steps. -/
inductive Callback (σ step : Type) where
  | silent
  | channel (sender : σ)
  | record (tag : String) (steps : List step)

inductive Step where
  /-- Attach a new client and own its session. -/
  | attach (as : Name)
  /-- Make a session on the manager directly. -/
  | session (as : Name) (client : ClientId) (token : Name) (on : Option Target)
  /-- Own the same session under another name as well. -/
  | share (owner as : Name)
  /-- Give up an owner; the last one takes the session with it. -/
  | drop (owner : Name)
  | destroy (owner : Name)
  | info (owner : Name)
  | request (owner : Name) (config : Config) (callback : Callback Name Step) (on : Option Target)
  | specifier (owner : Name) (role : Role) (peer token : Option Bytes)
  | dropManager
  /-- Call the manager past any session. -/
  | managerDisconnect (client : ClientId) (token : Name)
  | managerRequest (client : ClientId) (config : Config) (callback : Callback Name Step)
      (on : Option Target)
  | managerSpecifier (client : ClientId) (role : Role) (peer token : Option Bytes)
  | isAttached (client : ClientId)
  /-- Make an event channel; its sender and its receiver get the same name. -/
  | channel (as : Name)
  | cloneSender (sender as : Name)
  | dropSender (sender : Name)
  | dropReceiver (receiver : Name)
  /-- Call a callback past any request. -/
  | send (callback : Callback Name Step) (event : Event)
  | poll (receiver : Name)
  /-- Whether the last poll that was left pending has been woken. -/
  | woken (receiver : Name)
  /-- Queue a task that only notes that it ran. -/
  | spawn (on : Target) (tag : String)
  /-- Run the tasks of a target until none can go on. -/
  | pump (on : Target)
  /-- Open a gate for good. -/
  | openGate (gate : Name)
  | shutdown (on : Target)
  /-- Whether a current target is found from inside one, or from outside any. A target that was
  shut down is still found. -/
  | current (inside : Option Target)
  /-- Destroy a session from many threads at once. -/
  | raceDestroy (owner : Name) (threads : Nat)
  /-- A step on a target that is not there. -/
  | nowhere

end Proximity
