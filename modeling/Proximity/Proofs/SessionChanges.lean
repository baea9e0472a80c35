import Proximity.Proofs.Sessions

/-! What a transition means to sessions and what is told of it. There are few kinds of changes, and
laws about sessions go through them instead of all that can be done. -/

set_option autoImplicit false

namespace Proximity

inductive Forwarded where
  | request (request : Request) (target : Target)
  | specifier (client : ClientId) (role : Role) (peer token : Option Bytes)

def Session.forward? (s : Session) : SessionCall → Option Forwarded
  | .destroy => none
  | .request config listener on => some (.request ⟨s.client, config, listener⟩ (on.getD s.dispatch))
  | .specifier role peer token => some (.specifier s.client role peer token)

def ManagerCall.forwarded? : ManagerCall → Option Forwarded
  | .disconnect .. => none
  | .request _ passed target _ => some (.request passed target)
  | .specifier client role peer token => some (.specifier client role peer token)

def SessionCall.operation? : SessionCall → Option Operation
  | .destroy => none
  | .request config _ _ => some (.request config.kind)
  | .specifier .. => some .specifier

def SessionCall.listener : SessionCall → Listener
  | .request _ listener _ => listener
  | _ => .silent

namespace World

/-- What a refused call comes to: it is noted and logged, and its callback is let go of. -/
def refuse (w : World) (session : SessionRef) (client : ClientId) (call : SessionCall)
    (operation : Operation) (reason : Refusal) : World :=
  ((w.emit (.asked session call (some reason))).log
    (.callRefused session client operation reason)).releaseListener call.listener

theorem tells_refuse (w : World) (session : SessionRef) (client : ClientId) (call : SessionCall)
    (operation : Operation) (reason : Refusal) :
    w.Tells (w.refuse session client call operation reason)
      [.logged (.callRefused session client operation reason), .asked session call (some reason)] :=
  (((Tells.refl w).emit rfl).emit rfl).trans (aside_releaseListener ..).tells

theorem sessions_refuse (w : World) (session : SessionRef) (client : ClientId) (call : SessionCall)
    (operation : Operation) (reason : Refusal) :
    (w.refuse session client call operation reason).sessions = w.sessions :=
  (aside_releaseListener ..).sessions

/-- What is told last when a session is torn down: by its manager, or for want of one. -/
inductive Fate (alive : Bool) (running : Option Target) (session : SessionRef) (s : Session) :
    Occurrence → Prop where
  | disconnected (reached : alive = true) (task : Option TaskRef) :
      Fate alive running session s
        (.received (some session) running (.disconnect s.client s.token task))
  | abandoned (gone : alive = false) :
      Fate alive running session s (.logged (.managerDropped session s.client))

def loss? (w : World) : Option Refusal := if w.alive then none else some .managerDropped

/-- What a transition does to sessions and what it tells of them. A refused call leaves no work. -/
inductive SessionChange (w next : World) (pushed : List Frame) : Prop where
  | still (sessions : next.sessions = w.sessions) (tells : w.Tells next [])
  | made (s : Session) (active : s.terminated = false)
      (sessions : next.sessions = w.sessions ++ [s])
      (tells : w.Tells next [.logged (.sessionCreated w.sessions.length s.client)])
  | attached (s : Session) (active : s.terminated = false)
      (sessions : next.sessions = w.sessions ++ [s])
      (tells : w.Tells next [.logged (.sessionCreated w.sessions.length s.client),
        .attached s.client w.sessions.length s.token])
  /-- The manager is called past any session. -/
  | direct (call : ManagerCall) (sessions : next.sessions = w.sessions)
      (tells : w.Tells next [.received none w.running call])
  | passed (session : SessionRef) (s : Session) (call : SessionCall) (reached : ManagerCall)
      (forwarded : Forwarded) (found : w.sessions[session]? = some s)
      (live : w.refusal? s = none) (asks : s.forward? call = some forwarded)
      (reaches : reached.forwarded? = some forwarded) (sessions : next.sessions = w.sessions)
      (tells : w.Tells next
        [.received (some session) w.running reached, .asked session call none])
  | refused (session : SessionRef) (s : Session) (call : SessionCall) (operation : Operation)
      (reason : Refusal) (found : w.sessions[session]? = some s)
      (refusal : w.refusal? s = some reason) (asks : call.operation? = some operation)
      (same : next = w.refuse session s.client call operation reason) (rests : pushed = [])
  /-- A session is destroyed once more. -/
  | late (session : SessionRef) (s : Session) (found : w.sessions[session]? = some s)
      (terminated : s.terminated = true) (sessions : next.sessions = w.sessions)
      (tells : w.Tells next [.logged (.alreadyDestroyed session s.client),
        .asked session .destroy (some .terminated)])
  /-- A session is torn down, perhaps after a warning that nobody has destroyed it. -/
  | torn (session : SessionRef) (s : Session) (warned : List Occurrence) (last : Occurrence)
      (found : w.sessions[session]? = some s) (active : s.terminated = false)
      (identities : next.sessions.map Session.identity = w.sessions.map Session.identity)
      (activity : ∀ other, next.isActive other = (w.isActive other && decide (other ≠ session)))
      (warning : warned = [] ∨ warned = [.logged (.sessionLeaked session)])
      (fate : Fate w.alive w.running session s last)
      (tells : w.Tells next (last :: .asked session .destroy w.loss? :: warned))
  /-- The manager has returned from a disconnect. -/
  | concluded (session : SessionRef) (s : Session)
      (identities : next.sessions.map Session.identity = w.sessions.map Session.identity)
      (activity : ∀ other, next.isActive other = w.isActive other)
      (tells : w.Tells next [.logged (.sessionDestroyed session s.client)])

variable {w next : World} {pushed : List Frame}

theorem Aside.sessionChange (aside : w.Aside next) :
    w.SessionChange next pushed := .still aside.sessions aside.tells

theorem Receives.direct {call : ManagerCall} (receives : w.Receives next none call) :
    w.SessionChange next pushed :=
  .direct call (congrArg Standing.sessions receives.standing) receives.tells

theorem sessionChange_sessionRequest (w : World) (session : SessionRef) (config : Config)
    (listener : Listener) (on : Option Target) :
    w.SessionChange (w.sessionRequest session config listener on).1
      (w.sessionRequest session config listener on).2 := by
  cases found : w.sessions[session]? with
  | none =>
    simp only [sessionRequest, found]
    exact (Aside.refl w).sessionChange
  | some s =>
    cases refusal : w.refusal? s with
    | some reason =>
      exact .refused session s (.request config listener on) (.request config.kind) reason found
        refusal rfl (by simp only [sessionRequest, found, refusal, refuse, SessionCall.listener])
        (by simp only [sessionRequest, found, refusal])
    | none =>
      simp only [sessionRequest, found, refusal]
      obtain ⟨rejection, receives⟩ := receives_managerRequest
        (w.emit (.asked session (.request config listener on) none)) (some session)
        ⟨s.client, config, listener⟩ (on.getD s.dispatch)
      exact .passed session s (.request config listener on) _ _ found refusal rfl rfl
        (congrArg Standing.sessions receives.standing)
        (((Tells.refl w).emit rfl).trans receives.tells)

theorem sessionChange_sessionSpecifier (w : World) (session : SessionRef) (role : Role)
    (peer token : Option Bytes) : w.SessionChange (w.sessionSpecifier session role peer token).2.1
      (w.sessionSpecifier session role peer token).2.2 := by
  cases found : w.sessions[session]? with
  | none =>
    simp only [sessionSpecifier, found]
    exact (Aside.refl w).sessionChange
  | some s =>
    cases refusal : w.refusal? s with
    | some reason =>
      exact .refused session s (.specifier role peer token) .specifier reason found refusal rfl
        (by simp only [sessionSpecifier, found, refusal, refuse, SessionCall.listener,
          releaseListener])
        (by simp only [sessionSpecifier, found, refusal])
    | none =>
      simp only [sessionSpecifier, found, refusal]
      have receives := receives_managerSpecifier
        (w.emit (.asked session (.specifier role peer token) none)) (some session) s.client role
        peer token
      exact .passed session s (.specifier role peer token) _ _ found refusal rfl rfl
        (congrArg Standing.sessions receives.standing)
        (((Tells.refl w).emit rfl).trans receives.tells)

theorem tells_teardown {session : SessionRef} {s : Session}
    (found : w.sessions[session]? = some s) (active : s.terminated = false) :
    ∃ last, Fate w.alive w.running session s last ∧
      w.Tells (w.teardown session).1 [last, .asked session .destroy w.loss?] := by
  cases alive : w.alive with
  | false =>
    refine ⟨_, .abandoned rfl, ?_⟩
    rw [teardown_managerDropped found active alive, loss?, alive]
    exact (Told.emit (((Tells.refl w).emit rfl).of_trace rfl) rfl).of_trace rfl
  | true =>
    obtain ⟨task, receives⟩ := receives_managerDisconnect
      ((w.emit (.asked session .destroy none)).terminate session) (some session) s.client s.token
    refine ⟨_, .disconnected rfl task, ?_⟩
    rw [teardown_forwarded found active alive, loss?, alive]
    exact (((Tells.refl w).emit rfl).of_trace rfl).trans receives.tells

theorem sessionChange_teardown (w : World) (session : SessionRef) :
    w.SessionChange (w.teardown session).1 pushed := by
  cases found : w.sessions[session]? with
  | none =>
    rw [teardown_missing found]
    exact (Aside.refl w).sessionChange
  | some s =>
    cases active : s.terminated with
    | true =>
      rw [teardown_terminated found active]
      exact .late session s found active rfl (((Tells.refl w).emit rfl).emit rfl)
    | false =>
      obtain ⟨last, fate, tells⟩ := tells_teardown found active
      exact .torn session s [] last found active (teardown_retains w session).identities
        (isActive_teardown w session) (.inl rfl) fate tells

theorem sessionChange_dropOwner {owner : Name} {effect : Effect}
    (done : w.dropOwner owner = some effect) : w.SessionChange effect.world pushed := by
  obtain ⟨session, _, ⟨_, rfl⟩ | ⟨_, rfl⟩⟩ := dropOwner_cases done
  · exact .still rfl ((Tells.refl w).of_trace rfl)
  · -- The owner is gone first, which no session looks at.
    have left := dropSession_retains (w.disown owner) session
    have activity := isActive_dropSession (w.disown owner) session
    rcases dropSession_cases (w.disown owner) session with
      ⟨_, same⟩ | ⟨active, same⟩
    · simp only [same]
      exact .still rfl ((Tells.refl w).of_trace rfl)
    · obtain ⟨s, found, active⟩ := isActive_eq_true.1 active
      rcases same with same | same
      · obtain ⟨last, fate, tells⟩ := tells_teardown found active
        simp only [same] at left activity ⊢
        exact .torn session s [] last found active left.identities activity (.inl rfl)
          fate tells
      · obtain ⟨last, fate, tells⟩ := tells_teardown
          (w := (w.disown owner).log
            (.sessionLeaked session)) found active
        simp only [same] at left activity ⊢
        exact .torn session s [_] last found active left.identities activity (.inr rfl)
          fate (((Tells.refl w).emit rfl).trans tells)

theorem sessionChange_conclude (w : World) (session : SessionRef) :
    w.SessionChange (w.conclude session) pushed := by
  have identities := (conclude_retains w session).identities
  have activity := isActive_conclude w session
  cases found : w.sessions[session]? with
  | none =>
    simp only [conclude, found]
    exact (Aside.refl w).sessionChange
  | some s =>
    apply SessionChange.concluded session s identities activity
    simp only [conclude, found]
    exact Told.emit ((Tells.refl w).of_trace rfl) rfl

theorem Transition.sessionChange (transition : w.Transition next pushed) :
    w.SessionChange next pushed := by
  cases transition with
  | internal internal => exact internal.aside.sessionChange
  | attach done =>
    obtain ⟨_, _, aside | ⟨client, attaches⟩⟩ := attach_cases done
    · exact aside.sessionChange
    · exact .attached _ rfl (congrArg Standing.sessions attaches.standing) attaches.tells
  | @session as client token on effect done =>
    obtain ⟨_, _, made⟩ := makeSession_eq done
    rw [made]
    have silent : w.Tells (w.tokenNamed token).2 [] :=
      (Tells.refl w).of_trace (by rw [tokenNamed_eq])
    apply SessionChange.made _ rfl (congrArg (· ++ [_]) (sessions_tokenNamed w token))
    -- The session is numbered after the token has been looked up, which makes none.
    rw [← sessions_tokenNamed w token]
    exact (Told.emit silent rfl).of_trace rfl
  | share owned free => exact .still rfl ((Tells.refl w).of_trace rfl)
  | drop done => exact sessionChange_dropOwner done
  | teardown session => exact sessionChange_teardown w session
  | conclude session => exact sessionChange_conclude w session
  | request => exact sessionChange_sessionRequest ..
  | specifier => exact sessionChange_sessionSpecifier ..
  | dropManager => exact .still rfl ((Tells.refl w).of_trace rfl)
  | managerDisconnect client token =>
    obtain ⟨task, receives⟩ := receives_managerDisconnect (w.tokenNamed token).2 none client
      (w.tokenNamed token).1
    have running : (w.tokenNamed token).2.running = w.running := by rw [tokenNamed_eq]
    refine .direct (.disconnect client (w.tokenNamed token).1 task)
      ((congrArg Standing.sessions receives.standing).trans (sessions_tokenNamed w token)) ?_
    rw [← running]
    exact ((Tells.refl w).of_trace (by rw [tokenNamed_eq])).trans receives.tells
  | managerRequest request target =>
    obtain ⟨rejection, receives⟩ := receives_managerRequest w none request target
    exact receives.direct
  | managerSpecifier client role peer token =>
    exact (receives_managerSpecifier w none client role peer token).direct
  | returned => exact .still rfl ((Tells.refl w).of_trace rfl)

theorem SessionChange.isActive (changes : w.SessionChange next pushed) {session : SessionRef}
    (made : session < w.sessions.length) :
    next.isActive session = w.isActive session ∨
      (w.isActive session = true ∧ next.isActive session = false ∧
        ∃ facts, w.Tells next facts ∧ .asked session .destroy w.loss? ∈ facts) := by
  have same (sessions : next.sessions = w.sessions) :
      next.isActive session = w.isActive session := by
    rw [World.isActive, World.isActive, sessions]
  have grown {s : Session} (sessions : next.sessions = w.sessions ++ [s]) :
      next.isActive session = w.isActive session := by
    rw [World.isActive, World.isActive, sessions, List.getElem?_append_left made]
  cases changes with
  | still sessions | direct _ sessions | passed _ _ _ _ _ _ _ _ _ sessions
  | late _ _ _ _ sessions =>
    exact .inl (same sessions)
  | made _ _ sessions | attached _ _ sessions => exact .inl (grown sessions)
  | refused _ _ _ _ _ _ _ _ world _ =>
    rw [world]
    rw [World.isActive, World.isActive, sessions_refuse]
    exact .inl rfl
  | concluded _ _ _ activity => exact .inl (activity session)
  | torn torn s _ _ found active _ activity _ _ tells =>
    rw [activity]
    by_cases own : session = torn
    · subst own
      exact .inr ⟨isActive_eq_true.2 ⟨s, found, active⟩, by simp, _, tells, by simp⟩
    · simp [own]

theorem SessionChange.identity (changes : w.SessionChange next pushed) {session : SessionRef}
    {s : Session}
    (found : w.sessions[session]? = some s) :
    ∃ now, next.sessions[session]? = some now ∧ now.identity = s.identity := by
  have same (sessions : next.sessions = w.sessions) :
      ∃ now, next.sessions[session]? = some now ∧ now.identity = s.identity :=
    ⟨s, by rw [sessions, found], rfl⟩
  have grown {last : Session} (sessions : next.sessions = w.sessions ++ [last]) :
      ∃ now, next.sessions[session]? = some now ∧ now.identity = s.identity := by
    have made := (List.getElem?_eq_some_iff.1 found).1
    exact ⟨s, by rw [sessions, List.getElem?_append_left made, found], rfl⟩
  cases changes with
  | still sessions | direct _ sessions | passed _ _ _ _ _ _ _ _ _ sessions
  | late _ _ _ _ sessions => exact same sessions
  | made _ _ sessions | attached _ _ sessions => exact grown sessions
  | refused _ _ _ _ _ _ _ _ world _ =>
    subst world
    exact same (sessions_refuse ..)
  | torn _ _ _ _ _ _ identities | concluded _ _ identities => exact exists_identity identities found

theorem SessionChange.trace (changes : w.SessionChange next pushed) :
    next.trace = w.newly next ++ w.trace := by
  cases changes with
  | still _ tells | made _ _ _ tells | attached _ _ _ tells | direct _ _ tells
  | passed _ _ _ _ _ _ _ _ _ _ tells | late _ _ _ _ _ tells | torn _ _ _ _ _ _ _ _ _ _ tells
  | concluded _ _ _ _ tells => exact tells.trace
  | refused _ _ _ _ _ _ _ _ same =>
    rw [same]
    exact (tells_refuse ..).trace

/-- A request that reaches the manager from a session was asked of it, for its client, with a target
or for its own. -/
theorem SessionChange.request (changes : w.SessionChange next pushed) {session : SessionRef}
    {running : Option Target}
    {task : TaskRef} {request : Request} {target : Target} {rejection : Option Error}
    (told : .received (some session) running (.request task request target rejection) ∈
      w.newly next) :
    ∃ s config listener on, w.sessions[session]? = some s ∧
      .asked session (.request config listener on) none ∈ w.newly next ∧
      request = ⟨s.client, config, listener⟩ ∧ target = on.getD s.dispatch := by
  cases changes with
  | still _ tells | made _ _ _ tells | attached _ _ _ tells | direct _ _ tells
  | late _ _ _ _ _ tells | concluded _ _ _ _ tells => simpa using (tells.mem_newly rfl).1 told
  | passed other s call reached forwarded found _ asks reaches _ tells =>
    obtain ⟨rfl, _, rfl⟩ : session = other ∧ running = w.running ∧
        .request task request target rejection = reached := by
      simpa using (tells.mem_newly rfl).1 told
    -- What the manager got is a request, so what the session was asked is one too.
    cases reaches
    cases call with
    | destroy | specifier => cases asks
    | request config listener on =>
      cases asks
      exact ⟨s, config, listener, on, found, (tells.mem_newly rfl).2 (by simp), rfl, rfl⟩
  | refused _ _ _ _ _ _ _ _ same =>
    subst same
    simpa using ((tells_refuse ..).mem_newly rfl).1 told
  | torn torn s warned last _ _ _ _ warning fate tells =>
    have member := (tells.mem_newly rfl).1 told
    cases fate with
    | disconnected | abandoned => rcases warning with rfl | rfl <;> simp at member

end World

end Proximity
