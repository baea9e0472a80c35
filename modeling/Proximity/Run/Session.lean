import Proximity.Run.Manager

/-! What a session does when it is called. It passes calls on while its manager is there and it has
not been terminated; after that every call is refused and logged. It is torn down once. -/

set_option autoImplicit false

namespace Proximity

namespace World

/-- Why a session refuses a call, if it does. A manager that is gone is noticed first. -/
def refusal? (w : World) (session : Session) : Option Refusal :=
  if !w.alive then some .managerDropped
  else if session.terminated then some .terminated
  else none

/-- `destroy`: the flag is set before the manager is told, so a call that comes back from the
manager finds the session terminated. -/
def teardown (w : World) (session : SessionRef) : World × List Frame :=
  match w.sessions[session]? with
  | none => (w, [])
  | some s =>
    if s.terminated then
      ((w.emit (.asked session .destroy (some .terminated))).log
        (.alreadyDestroyed session s.client), [])
    else if !w.alive then
      let w := (w.emit (.asked session .destroy (some .managerDropped))).terminate session
      ((w.log (.managerDropped session s.client)).closeGuard session, [])
    else
      -- The guard stays open until the manager has returned, whatever it calls back.
      let w := (w.emit (.asked session .destroy none)).terminate session
      let (w, frames) := w.managerDisconnect (some session) s.client s.token
      (w, frames ++ [.conclude session])

theorem teardown_missing {w : World} {session : SessionRef}
    (missing : w.sessions[session]? = none) : w.teardown session = (w, []) := by
  simp only [teardown, missing]

theorem teardown_terminated {w : World} {session : SessionRef} {s : Session}
    (found : w.sessions[session]? = some s) (terminated : s.terminated = true) :
    w.teardown session = ((w.emit (.asked session .destroy (some .terminated))).log
      (.alreadyDestroyed session s.client), []) := by
  simp only [teardown, found, terminated, if_true]

theorem teardown_managerDropped {w : World} {session : SessionRef} {s : Session}
    (found : w.sessions[session]? = some s) (active : s.terminated = false)
    (gone : w.alive = false) :
    w.teardown session =
      ((((w.emit (.asked session .destroy (some .managerDropped))).terminate session).log
        (.managerDropped session s.client)).closeGuard session, []) := by
  simp [teardown, found, active, gone]

theorem teardown_forwarded {w : World} {session : SessionRef} {s : Session}
    (found : w.sessions[session]? = some s) (active : s.terminated = false)
    (alive : w.alive = true) :
    w.teardown session =
      let told := ((w.emit (.asked session .destroy none)).terminate session).managerDisconnect
        (some session) s.client s.token
      (told.1, told.2 ++ [.conclude session]) := by
  simp [teardown, found, active, alive]

def conclude (w : World) (session : SessionRef) : World :=
  match w.sessions[session]? with
  | none => w
  | some s => (w.closeGuard session).log (.sessionDestroyed session s.client)

/-- Take a session down that nobody owns any more. One that was never destroyed is reported first.
-/
def dropSession (w : World) (session : SessionRef) : World × List Frame :=
  match w.sessions[session]? with
  | none => (w, [])
  | some s =>
    if s.terminated then (w, [])
    else (if s.guarded then w.log (.sessionLeaked session) else w).teardown session

/-- Ask a session for a publish or a subscribe; the outcome goes to the named target or to the
session's own. -/
def sessionRequest (w : World) (session : SessionRef) (config : Config) (listener : Listener)
    (on : Option Target) : World × List Frame :=
  match w.sessions[session]? with
  | none => (w, [])
  | some s =>
    let refusal := w.refusal? s
    let w := w.emit (.asked session (.request config listener on) refusal)
    match refusal with
    | some reason =>
      ((w.log (.callRefused session s.client (.request config.kind) reason)).releaseListener
        listener, [])
    | none => w.managerRequest (some session) ⟨s.client, config, listener⟩ (on.getD s.dispatch)

/-- Ask a session for a network specifier; a refused call gives the empty text. -/
def sessionSpecifier (w : World) (session : SessionRef) (role : Role) (peer token : Option Bytes) :
    String × World × List Frame :=
  match w.sessions[session]? with
  | none => ("", w, [])
  | some s =>
    let refusal := w.refusal? s
    let w := w.emit (.asked session (.specifier role peer token) refusal)
    match refusal with
    | some reason => ("", w.log (.callRefused session s.client .specifier reason), [])
    | none => w.managerSpecifier (some session) s.client role peer token

end World

end Proximity
