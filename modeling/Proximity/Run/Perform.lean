import Proximity.Run.Task

/-! Taking one step of a run. A step that cannot be taken changes nothing and says so. -/

set_option autoImplicit false

namespace Proximity

/-- What a step does at once, and what it leaves for the run to go on with. -/
structure Effect where
  world : World
  answer : Answer := .nothing
  frames : List Frame := []

namespace World

def owned? (w : World) (owner : Name) : Option SessionRef := w.owners.lookup owner

def own (w : World) (as : Name) (session : SessionRef) : World :=
  { w with owners := w.owners ++ [(as, session)] }

def listener? (w : World) : Callback Name Step → Option Listener
  | .silent => some .silent
  | .channel sender => (w.senders.lookup sender).map .channel
  | .record tag steps => some (.record tag steps)

/-- Attach a client: the service gives the number, the manager mints a token and records it, and
the new session is owned under `as`. -/
def attach (w : World) (as : Name) : Option Effect :=
  -- An attach answers at once, so it cannot be taken while its gate is closed.
  let (reply, service) := w.service.takeAttach
  if !w.held || !w.manager.isRegistry || isTaken as w.owners || (w.closedGate? reply).isSome then
    none
  else
    let w := w.call .attach
    let (answer, service) := service.answerAttach reply.verdict
    let w := { w with service }
    match answer with
    | .error error => some { world := w, answer := .failed error }
    | .ok client =>
      let (token, w) := w.mint
      let w := { w with clients := w.clients.insert client token }
      let w := (w.log (.clientAttached client)).emit (.attached client w.sessions.length token)
      let session := w.sessions.length
      some { world := (w.addSession client token defaultTarget).own as session,
             answer := .client client }

def makeSession (w : World) (as : Name) (client : ClientId) (token : Name) (on : Option Target) :
    Option Effect :=
  if !w.held || isTaken as w.owners then none
  else
    let (token, w) := w.tokenNamed token
    let session := w.sessions.length
    some { world := (w.addSession client token (on.getD defaultTarget)).own as session,
           answer := .client client }

/-- Give up an owner. Only the last one matters to the session. -/
def dropOwner (w : World) (owner : Name) : Option Effect := do
  let session ← w.owned? owner
  let w := { w with owners := withoutName owner w.owners }
  if w.isOwned session then return { world := w }
  else
    let (w, frames) := w.dropSession session
    return { world := w, frames }

def makeChannel (w : World) (as : Name) : Option Effect :=
  if isTaken as w.senders || isTaken as w.receivers then none
  else
    let channel := w.channels.length
    some { world := { w with
      channels := w.channels ++ [{}]
      senders := w.senders ++ [(as, ⟨channel, w.sendersMade⟩)]
      receivers := w.receivers ++ [(as, channel)]
      sendersMade := w.sendersMade + 1 } }

def cloneSender (w : World) (sender as : Name) : Option Effect := do
  let copied ← w.senders.lookup sender
  if isTaken as w.senders then none
  else
    return { world := { w with
      senders := w.senders ++ [(as, ⟨copied.channel, w.sendersMade⟩)]
      sendersMade := w.sendersMade + 1 } }

def dropSender (w : World) (name : Name) : Option Effect := do
  let sender ← w.senders.lookup name
  return { world :=
    { w with senders := withoutName name w.senders }.releaseChannel sender.channel }

def receiving? (w : World) (name : Name) : Option (ChannelRef × Channel) := do
  let channel ← w.receivers.lookup name
  let c ← w.channels[channel]?
  if c.receiver then return (channel, c) else none

def dropReceiver (w : World) (name : Name) : Option Effect := do
  let (channel, _) ← w.receiving? name
  return { world := w.updateChannel channel Channel.close }

/-- Poll a stream once, as long as the task that polls has not done so too often. -/
def pollChannel (w : World) (name : Name) : Option Effect := do
  let (channel, c) ← w.receiving? name
  if w.isSpent then
    return { world := (w.updateChannel channel Channel.putOff).emit (.putOff channel),
             answer := .polled .pending }
  else
    let (poll, c) := c.poll (w.isSendable channel)
    return { world := ((w.updateChannel channel fun _ => c).spend poll).emit (.polled channel poll),
             answer := .polled poll }

def wokenChannel (w : World) (name : Name) : Option Effect := do
  let channel ← w.receivers.lookup name
  let c ← w.channels[channel]?
  return { world := w, answer := .truth (c.pending = some .woken) }

def openGate (w : World) (gate : Name) : Effect :=
  { world := { w with
      gates := gate :: w.gates
      dispatch := w.dispatch.release w.running gate },
    answer := .count (w.dispatch.waiting.filter (·.gate = gate)).length }

def shutdown (w : World) (target : Target) : World :=
  let (dropped, dispatch) := w.dispatch.shutdown target
  dropped.foldl World.discard { w with dispatch }

def isClosed (w : World) (target : Target) : Bool := (w.dispatch.queue target).closed

/-- One step, `nested` when a callback takes it; `none` when it cannot be taken. -/
def act? (w : World) (nested : Bool) : Step → Option Effect
  | .attach as => w.attach as
  | .session as client token on => w.makeSession as client token on
  | .share owner as => do
    let session ← w.owned? owner
    if isTaken as w.owners then none else return { world := w.own as session }
  | .drop owner => w.dropOwner owner
  | .destroy owner => do
    let session ← w.owned? owner
    let (w, frames) := w.teardown session
    return { world := w, frames }
  | .info owner => do
    let session ← w.owned? owner
    let s ← w.sessions[session]?
    return { world := w, answer := .session s.client s.terminated }
  | .request owner config callback on => do
    let session ← w.owned? owner
    let listener ← w.listener? callback
    let (w, frames) := w.sessionRequest session config listener on
    return { world := w, frames }
  | .specifier owner role peer token => do
    let session ← w.owned? owner
    let (text, w, frames) := w.sessionSpecifier session role peer token
    return { world := w, answer := .text text, frames }
  | .dropManager =>
    if w.held then some { world := { w with held := false }, answer := .last (w.engaged = 0) }
    else none
  | .managerDisconnect client token =>
    if w.held then
      let (token, w) := w.tokenNamed token
      let (w, frames) := w.managerDisconnect none client token
      some { world := w, frames }
    else none
  | .managerRequest client config callback on =>
    if w.held then do
      let listener ← w.listener? callback
      let (w, frames) :=
        w.managerRequest none ⟨client, config, listener⟩ (on.getD defaultTarget)
      return { world := w, frames }
    else none
  | .managerSpecifier client role peer token =>
    if w.held then
      let (text, w, frames) := w.managerSpecifier none client role peer token
      some { world := w, answer := .text text, frames }
    else none
  | .isAttached client =>
    if w.held && w.manager.isRegistry then
      some { world := w, answer := .truth (w.clients.isAttached client) }
    else none
  | .channel as => w.makeChannel as
  | .cloneSender sender as => w.cloneSender sender as
  | .dropSender sender => w.dropSender sender
  | .dropReceiver receiver => w.dropReceiver receiver
  | .send callback event => do
    let listener ← w.listener? callback
    let (w, frames) := w.invoke none listener event
    return { world := w, frames }
  | .poll receiver => w.pollChannel receiver
  | .woken receiver => w.wokenChannel receiver
  | .spawn on tag => some { world := w.spawn on (.mark tag) }
  | .pump on =>
    if nested || w.isClosed on then none
    else some { world := { w with running := some on, tasksRun := 0 } }
  | .openGate gate => some (w.openGate gate)
  | .shutdown on => if nested || w.isClosed on then none else some { world := w.shutdown on }
  | .current inside =>
    if nested then none else some { world := w, answer := .truth inside.isSome }
  | .raceDestroy owner threads =>
    if nested then none
    else do
      let session ← w.owned? owner
      return { world := w, frames := List.replicate threads (.teardown session) }
  | .nowhere => none

def perform (w : World) (nested : Bool) (step : Step) : Effect :=
  (w.act? nested step).getD { world := w, answer := .impossible }

end World

end Proximity
