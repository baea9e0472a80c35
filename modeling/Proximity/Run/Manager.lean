import Proximity.Run.World

/-! What a manager does when it is called: by a session, or past any. -/

set_option autoImplicit false

namespace Proximity

/-- Work that an operation leaves for the run to go on with, innermost first. -/
inductive Frame where
  /-- A callback that has steps left to take, with the answers so far. -/
  | callback (tag : String) (event : Event) (steps : List Step) (answers : List Answer)
  | teardown (session : SessionRef)
  /-- A publish request that a reentrant manager makes on a session. -/
  | republish (session : SessionRef)
  /-- The rest of a `destroy` after the manager has been told. -/
  | conclude (session : SessionRef)
  /-- A step that a manager takes before it returns. -/
  | step (step : Step)
  /-- The end of a call on a manager that takes steps. -/
  | returned

namespace World

/-! ### The manager with a client table -/

/-- Why a request is rejected. A client that is not attached comes before any fault of the config.
-/
def rejection? (w : World) (client : ClientId) (config : Config) : Option Error :=
  if w.clients.isAttached client then
    match config.check with
    | .ok _ => none
    | .error violation => some (.ofViolation violation)
  else some (.unknownClient client)

def registryRequest (w : World) (origin : Option SessionRef) (request : Request) (target : Target) :
    World :=
  let rejection := w.rejection? request.client request.config
  let w := w.emit (.received origin w.running (.request w.nextTask request target rejection))
  match rejection with
  | some reason =>
    (w.log (.requestRejected request.client request.config.kind reason)).spawn target
      (.refuse request.listener)
  | none => w.spawn target (.start request)

/-- A disconnect is honoured when its token is the recorded one: the client is forgotten at once,
and a task on the manager's own target tells the service. -/
def registryDisconnect (w : World) (origin : Option SessionRef) (client : ClientId)
    (token : Token) : World :=
  let received (task : Option TaskRef) :=
    w.emit (.received origin w.running (.disconnect client token task))
  match w.clients.token? client with
  | none => (received none).log (.disconnectUnknown client)
  | some known =>
    if known = token then
      -- The entry goes now; a later attach that answers the same client makes a new one.
      let w := received (some w.nextTask)
      { w with clients := w.clients.erase client }.spawn defaultTarget (.detach client)
    else (received none).log (.tokenMismatch client)

def registrySpecifier (w : World) (origin : Option SessionRef) (client : ClientId) (role : Role)
    (peer token : Option Bytes) : String × World :=
  let w := w.emit (.received origin w.running (.specifier client role peer token))
  if w.clients.isAttached client then
    match Specifier.checked client role peer token with
    | .ok specifier => (String.ofList specifier.encode, w)
    | .error length => ("", w.log (.specifierFailed client role (.invalidPeerAddress length)))
  else ("", w.log (.specifierUnknown client))

/-! ### The manager that passes everything -/

def permissiveRequest (w : World) (origin : Option SessionRef) (request : Request)
    (target : Target) : World :=
  let w := w.emit (.received origin w.running (.request w.nextTask request target none))
  let w := w.call (.request request.client request.config)
  let started : Started := ⟨request.client, ⟨w.nextStarted⟩, request.config.kind⟩
  { w with nextStarted := w.nextStarted + 1 }.spawn target (.announce started request.listener)

def latestSession? (w : World) (client : ClientId) : Option SessionRef :=
  (List.range w.sessions.length).reverse.find? fun session =>
    (w.sessions[session]?).any (·.client = client)

/-- A disconnect is noted. A reentrant manager then calls the latest session of the client back, if
anybody still owns it: it destroys the session and asks it for a publish. -/
def permissiveDisconnect (w : World) (origin : Option SessionRef) (client : ClientId)
    (token : Token) (reentrant : Bool) : World × List Frame :=
  let w := w.emit (.received origin w.running (.disconnect client token none))
  let w := w.call (.disconnect client token)
  if reentrant then
    match (w.latestSession? client).filter w.isOwned with
    | some session =>
      (w.call (.reenter ((w.sessions[session]?).map (·.terminated))),
        [.teardown session, .republish session])
    | none => (w.call (.reenter none), [])
  else (w, [])

def hexOrNone : Option Bytes → String
  | none => "none"
  | some bytes => "[" ++ String.ofList (Hex.encode bytes) ++ "]"

def permissiveSpecifier (w : World) (origin : Option SessionRef) (client : ClientId) (role : Role)
    (peer token : Option Bytes) : String × World :=
  let w := w.emit (.received origin w.running (.specifier client role peer token))
  (client.display ++ "/" ++ role.name ++ "/" ++ hexOrNone peer ++ "/" ++ hexOrNone token,
    w.call (.specifier client))

/-! ### A manager of any other kind -/

def engage (w : World) (steps : List Step) : World × List Frame :=
  ({ w with engaged := w.engaged + 1 }, steps.map .step ++ [.returned])

def disengage (w : World) : World := { w with engaged := w.engaged - 1 }

def outcomeJob (listener : Listener) : Option Started → Job
  | some started => .announce started listener
  | none => .refuse listener

def tellOutcomes (w : World) (listener : Listener) (outcomes : List (Target × Option Started)) :
    World :=
  (outcomes.foldl (fun w outcome => w.spawn outcome.1 (outcomeJob listener outcome.2))
    w).releaseListener listener

def foreignRequest (w : World) (conduct : List ManagerCall → Reaction) (origin : Option SessionRef)
    (request : Request) (target : Target) : World × List Frame :=
  let w := w.emit (.received origin w.running (.request w.nextTask request target none))
  let reaction := conduct w.managerCalls
  (w.tellOutcomes request.listener reaction.outcomes).engage reaction.steps

def foreignDisconnect (w : World) (conduct : List ManagerCall → Reaction)
    (origin : Option SessionRef) (client : ClientId) (token : Token) : World × List Frame :=
  let w := w.emit (.received origin w.running (.disconnect client token none))
  w.engage (conduct w.managerCalls).steps

def foreignSpecifier (w : World) (conduct : List ManagerCall → Reaction)
    (origin : Option SessionRef) (client : ClientId) (role : Role) (peer token : Option Bytes) :
    String × World × List Frame :=
  let w := w.emit (.received origin w.running (.specifier client role peer token))
  let reaction := conduct w.managerCalls
  (reaction.text, w.engage reaction.steps)

/-! ### Any manager -/

def managerRequest (w : World) (origin : Option SessionRef) (request : Request) (target : Target) :
    World × List Frame :=
  match w.manager with
  | .registry => (w.registryRequest origin request target, [])
  | .permissive _ => (w.permissiveRequest origin request target, [])
  | .foreign conduct => w.foreignRequest conduct origin request target

def managerDisconnect (w : World) (origin : Option SessionRef) (client : ClientId) (token : Token) :
    World × List Frame :=
  match w.manager with
  | .registry => (w.registryDisconnect origin client token, [])
  | .permissive reentrant => w.permissiveDisconnect origin client token reentrant
  | .foreign conduct => w.foreignDisconnect conduct origin client token

def managerSpecifier (w : World) (origin : Option SessionRef) (client : ClientId) (role : Role)
    (peer token : Option Bytes) : String × World × List Frame :=
  match w.manager with
  | .registry =>
    let (text, w) := w.registrySpecifier origin client role peer token
    (text, w, [])
  | .permissive _ =>
    let (text, w) := w.permissiveSpecifier origin client role peer token
    (text, w, [])
  | .foreign conduct => w.foreignSpecifier conduct origin client role peer token

end World

end Proximity
