import Proximity.Discovery.Event
import Proximity.Run.ClientTable
import Proximity.Run.Trace

/-! Everything that a run changes, and the single effects that all operations are made of. -/

set_option autoImplicit false

namespace Proximity

/-- One attachment. Sessions are counted from zero in the order they are made, and stay here when
their last owner is gone. -/
structure Session where
  client : ClientId
  token : Token
  /-- Where callbacks go when a request names no target. -/
  dispatch : Target
  terminated : Bool := false
  /-- The leak guard: open until the session has been torn down. -/
  guarded : Bool := true

/-- What a manager of any other kind does when it is called. -/
structure Reaction where
  /-- Steps it takes before it returns, with sessions and callbacks as anybody can. -/
  steps : List Step := []
  /-- What it tells the callback of a request, and on which targets; without a session it is
  failure. -/
  outcomes : List (Target × Option Started) := []
  /-- The specifier it answers. -/
  text : String := ""

/-- The manager of a run: the one that keeps a client table and drives the service; one that passes
everything and, if it is reentrant, calls a session back from within a disconnect; or any other,
whose conduct may depend on every call it has got, the latest first. -/
inductive ManagerKind where
  | registry
  | permissive (reentrant : Bool)
  | foreign (conduct : List ManagerCall → Reaction)

def ManagerKind.isRegistry : ManagerKind → Bool
  | .registry => true
  | _ => false

structure World where
  manager : ManagerKind
  /-- Whether the manager is still owned. Sessions do not own it. -/
  held : Bool := true
  /-- How many calls on the manager have not returned. Each keeps it alive. -/
  engaged : Nat := 0
  clients : ClientTable := .empty
  service : Service := {}
  /-- The next session that a permissive manager starts. -/
  nextStarted : UInt32 := 100
  sessions : List Session := []
  owners : List (Name × SessionRef) := []
  tokens : List (Name × Token) := []
  minted : Nat := 0
  channels : List Channel := []
  senders : List (Name × Sender) := []
  /-- Dropped receivers keep their names. -/
  receivers : List (Name × ChannelRef) := []
  sendersMade : Nat := 0
  dispatch : Dispatch := {}
  tasksMade : Nat := 0
  gates : List Name := []
  /-- The target that is being pumped. -/
  running : Option Target := none
  /-- How many tasks it has begun to run. -/
  tasksRun : Nat := 0
  /-- How often the task that is being run may still poll and get an answer. -/
  budget : Nat := 0
  /-- What has happened, the latest first. -/
  trace : List Occurrence := []

/-- Polls that one run of a task gets an answer to. Beyond them it has to let others run. -/
def taskBudget : Nat := 128

/-- Tasks that a target runs in one go. After them it wakes the polls that were put off. -/
def tasksPerTurn : Nat := 61

def defaultTarget : Target := .main

def withoutName {α : Type} (name : Name) (entries : List (Name × α)) : List (Name × α) :=
  entries.filter fun entry => entry.1 ≠ name

def isTaken {α : Type} (name : Name) (entries : List (Name × α)) : Bool :=
  (entries.lookup name).isSome

namespace World

def initial (manager : ManagerKind) (service : Service) : World := { manager, service }

def emit (w : World) (o : Occurrence) : World := { w with trace := o :: w.trace }

def log (w : World) (notice : Notice) : World := w.emit (.logged notice)

def call (w : World) (call : Call) : World := w.emit (.called w.running call)

def alive (w : World) : Bool := w.held || w.engaged ≠ 0

def managerCalls (w : World) : List ManagerCall := w.trace.filterMap Occurrence.managerCall?

@[simp] theorem managerCalls_received (w : World) (origin : Option SessionRef)
    (running : Option Target) (call : ManagerCall) :
    (w.emit (.received origin running call)).managerCalls = call :: w.managerCalls := rfl

def mint (w : World) : Token × World := (⟨w.minted⟩, { w with minted := w.minted + 1 })

def tokenNamed (w : World) (name : Name) : Token × World :=
  match w.tokens.lookup name with
  | some token => (token, w)
  | none =>
    let (token, w) := w.mint
    (token, { w with tokens := w.tokens ++ [(name, token)] })

def updateSession (w : World) (session : SessionRef) (change : Session → Session) : World :=
  { w with sessions := w.sessions.modify session change }

theorem getElem?_updateSession (w : World) (session other : SessionRef)
    (change : Session → Session) :
    (w.updateSession session change).sessions[other]? =
      if session = other then (w.sessions[other]?).map change else w.sessions[other]? := by
  simp only [updateSession, List.getElem?_modify]
  split <;> simp

def isActive (w : World) (session : SessionRef) : Bool :=
  (w.sessions[session]?).any fun s => !s.terminated

def terminate (w : World) (session : SessionRef) : World :=
  w.updateSession session fun s => { s with terminated := true }

def closeGuard (w : World) (session : SessionRef) : World :=
  w.updateSession session fun s => { s with guarded := false }

def addSession (w : World) (client : ClientId) (token : Token) (dispatch : Target) : World :=
  let session : Session := { client, token, dispatch }
  { w with sessions := w.sessions ++ [session] }.log (.sessionCreated w.sessions.length client)

def isOwned (w : World) (session : SessionRef) : Bool := w.owners.any (·.2 = session)

def updateChannel (w : World) (channel : ChannelRef) (change : Channel → Channel) : World :=
  { w with channels := w.channels.modify channel change }

/-- Whether a sender of the channel is held by the run or by a task that has not ended. -/
def isSendable (w : World) (channel : ChannelRef) : Bool :=
  w.senders.any (·.2.channel = channel) || w.dispatch.tasks.any (·.holds channel)

/-- A reference to a sender is gone; if it was the last one, the receiver is woken. -/
def releaseChannel (w : World) (channel : ChannelRef) : World :=
  if w.isSendable channel then w
  else (w.updateChannel channel Channel.wake).emit (.abandoned channel)

def releaseListener (w : World) : Listener → World
  | .channel sender => w.releaseChannel sender.channel
  | _ => w

def discard (w : World) (task : Task) : World :=
  let w := w.emit (.discarded task.id)
  match task.job.listener? with
  | some listener => w.releaseListener listener
  | none => w

def nextTask (w : World) : TaskRef := w.tasksMade

/-- Queue a new task. A target that was shut down drops it at once. -/
def spawn (w : World) (target : Target) (job : Job) : World :=
  let task : Task := { id := w.tasksMade, job }
  let w := { w with tasksMade := w.tasksMade + 1 }
  if (w.dispatch.queue target).closed then w.discard task
  else { w with dispatch := w.dispatch.push w.running target task }

/-- Whether a poll has to be put off. Only a task that is being run has a budget. -/
def isSpent (w : World) : Bool := w.running.isSome && w.budget = 0

/-- Take an answered poll off the budget; one that is left pending costs nothing. -/
def spend (w : World) (poll : Poll) : World :=
  if poll = .pending then w else { w with budget := w.budget - 1 }

def resumePolls (w : World) : World := { w with channels := w.channels.map Channel.resume }

/-- Give a task its budget before it runs, less the poll that finds the gate open it waited for.
If a turn is over, wake the polls that were put off first. -/
def beginTask (w : World) (task : Task) : World :=
  let w := if w.tasksRun % tasksPerTurn = 0 then w.resumePolls else w
  { w with
    tasksRun := w.tasksRun + 1
    budget := if task.verdict.isSome then taskBudget - 1 else taskBudget }

/-- The target that is being pumped has nothing more to run. -/
def rest (w : World) : World := { w.resumePolls with running := none }

def sendEvent (w : World) (channel : ChannelRef) (event : Event) : World :=
  match w.channels[channel]? with
  | some c =>
    if c.receiver then w.updateChannel channel (·.send event) else w.log .receiverDropped
  | none => w

end World

end Proximity
