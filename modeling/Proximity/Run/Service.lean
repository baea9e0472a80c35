import Proximity.Discovery.Event
import Proximity.Run.Step

/-! The discovery service behind a manager, as a script: what each call answers, and which gate it
waits for before it does. -/

set_option autoImplicit false

namespace Proximity

/-- What a call answers: an error, a given number, or the next one that is free. -/
inductive Verdict where
  | failure (error : Error)
  | number (n : UInt32)
  | next
  deriving Repr

structure Reply where
  gate : Option Name := none
  verdict : Verdict := .next
  deriving Repr

structure Service where
  attach : List Reply := []
  disconnect : List Reply := []
  publish : List Reply := []
  subscribe : List Reply := []
  /-- The next client that an attach answers by itself. -/
  nextClient : UInt32 := 1
  /-- The next session that a publish or subscribe answers by itself. -/
  nextSession : UInt32 := 1

namespace Service

/-- The first reply of a script; a script that is used up answers by itself. -/
def first (script : List Reply) : Reply := script.headD {}

def takeStart (b : Service) : Kind → Reply × Service
  | .publish => (first b.publish, { b with publish := b.publish.tail })
  | .subscribe => (first b.subscribe, { b with subscribe := b.subscribe.tail })

def takeDisconnect (b : Service) : Reply × Service :=
  (first b.disconnect, { b with disconnect := b.disconnect.tail })

def takeAttach (b : Service) : Reply × Service :=
  (first b.attach, { b with attach := b.attach.tail })

/-- The answer to an attach; the counter moves only when it is used. -/
def answerAttach (b : Service) : Verdict → Except Error ClientId × Service
  | .failure error => (.error error, b)
  | .number n => (.ok ⟨n⟩, b)
  | .next => (.ok ⟨b.nextClient⟩, { b with nextClient := b.nextClient + 1 })

def answerStart (b : Service) : Verdict → Except Error SessionId × Service
  | .failure error => (.error error, b)
  | .number n => (.ok ⟨n⟩, b)
  | .next => (.ok ⟨b.nextSession⟩, { b with nextSession := b.nextSession + 1 })

def answerDisconnect : Verdict → Except Error Unit
  | .failure error => .error error
  | _ => .ok ()

end Service

end Proximity
