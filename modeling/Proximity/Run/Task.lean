import Proximity.Run.Session

/-! Running one task: the call on the service, the wait for its gate, and the outcome told to the
callback. -/

set_option autoImplicit false

namespace Proximity

namespace World

/-- Call a callback method. A callback that notes the event takes its own steps first. -/
def invoke (w : World) (task : Option TaskRef) (listener : Listener) (event : Event) :
    World × List Frame :=
  let w := w.emit (.invoked task w.running listener event)
  match listener with
  | .silent => (w, [])
  | .channel sender => (w.sendEvent sender.channel event, [])
  | .record tag steps => (w, [.callback tag event steps []])

/-- Call a callback for the last time: the task that held it ends. -/
def conveyOutcome (w : World) (task : Task) (listener : Listener) (event : Event) :
    World × List Frame :=
  let (w, frames) := w.invoke (some task.id) listener event
  (w.releaseListener listener, frames)

def answerStart (w : World) (task : Task) (request : Request) (verdict : Verdict) :
    World × List Frame :=
  let (answer, service) := w.service.answerStart verdict
  let w := { w with service }.emit (.answered task.id (answer.map some))
  match answer with
  | .ok session =>
    let started : Started := ⟨request.client, session, request.config.kind⟩
    (w.log (.discoveryStarted started)).conveyOutcome task request.listener (.ofStarted started)
  | .error error =>
    (w.log (.discoveryFailed request.client request.config.kind error)).conveyOutcome task
      request.listener .configFailed

/-- The service answers that a client is detached, or why not. The client is forgotten either
way. -/
def answerDetach (w : World) (task : Task) (client : ClientId) (verdict : Verdict) : World :=
  let answer := Service.answerDisconnect verdict
  let w := w.emit (.answered task.id (answer.map fun _ => none))
  match answer with
  | .ok _ => w.log (.clientDetached task.id client)
  | .error error => w.log (.detachFailed task.id client error)

def closedGate? (w : World) (reply : Reply) : Option Name :=
  reply.gate.filter fun gate => !w.gates.contains gate

def suspend (w : World) (gate : Name) (target : Target) (task : Task) (verdict : Verdict) :
    World :=
  let waiting : Waiting := ⟨gate, target, { task with verdict := some verdict }⟩
  let w := w.emit (.suspended task.id gate)
  { w with dispatch := { w.dispatch with waiting := w.dispatch.waiting ++ [waiting] } }

def startCall (w : World) (target : Target) (task : Task) (request : Request) :
    World × List Frame :=
  let w := w.call (.start task.id request.client request.config)
  let (reply, service) := w.service.takeStart request.config.kind
  let w := { w with service }
  match w.closedGate? reply with
  | some gate => (w.suspend gate target task reply.verdict, [])
  | none => w.answerStart task request reply.verdict

def detachCall (w : World) (target : Target) (task : Task) (client : ClientId) : World :=
  let w := w.call (.detach task.id client)
  let (reply, service) := w.service.takeDisconnect
  let w := { w with service }
  match w.closedGate? reply with
  | some gate => w.suspend gate target task reply.verdict
  | none => w.answerDetach task client reply.verdict

/-- Go on with a task that was taken from the queue of `target`. A call on the service is made once;
a task that had to wait for its gate goes on with the answer it was to get. -/
def runTask (w : World) (target : Target) (task : Task) : World × List Frame :=
  match task.job, task.verdict with
  | .start request, none => w.startCall target task request
  | .start request, some verdict => w.answerStart task request verdict
  | .detach client, none => (w.detachCall target task client, [])
  | .detach client, some verdict => (w.answerDetach task client verdict, [])
  | .refuse listener, _ => w.conveyOutcome task listener .configFailed
  | .announce started listener, _ => w.conveyOutcome task listener (.ofStarted started)
  | .mark tag, _ => (w.emit (.noted (.task tag target)), [])

end World

end Proximity
