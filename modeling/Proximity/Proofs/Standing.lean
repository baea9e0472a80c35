import Proximity.Proofs.Reach

/-! Most of what happens in a run touches no session, no owner and no token. Such changes are set
aside here, once for each operation, so laws about sessions need not look at channels, queues and
tasks. Calls on the manager are asides too, up to the one call they note. -/

set_option autoImplicit false

namespace Proximity

structure Identity where
  client : ClientId
  token : Token
  dispatch : Target

def Session.identity (s : Session) : Identity :=
  { client := s.client, token := s.token, dispatch := s.dispatch }

structure Standing where
  manager : ManagerKind
  held : Bool
  sessions : List Session
  owners : List (Name × SessionRef)
  tokens : List (Name × Token)
  minted : Nat

def Notice.session? : Notice → Option SessionRef
  | .sessionCreated session _ | .alreadyDestroyed session _ | .managerDropped session _
  | .sessionDestroyed session _ | .sessionLeaked session | .callRefused session _ _ _ =>
    some session
  | _ => none

def Occurrence.isInternal : Occurrence → Bool
  | .attached .. | .asked .. | .received .. => false
  | .logged notice => notice.session?.isNone
  | _ => true

namespace World

def standing (w : World) : Standing :=
  { manager := w.manager, held := w.held, sessions := w.sessions, owners := w.owners,
    tokens := w.tokens, minted := w.minted }

def newly (w next : World) : List Occurrence := next.trace.take (next.trace.length - w.trace.length)

theorem newly_of_trace {w next : World} {told : List Occurrence}
    (trace : next.trace = told ++ w.trace) : w.newly next = told := by
  simp [newly, trace]

/-- What has happened that is kept account of, the latest first. -/
def Told (w : World) (keep : Occurrence → Bool) (next : World) (facts : List Occurrence) : Prop :=
  ∃ told, next.trace = told ++ w.trace ∧ told.filter keep = facts

namespace Told

variable {w next last : World} {keep : Occurrence → Bool} {facts : List Occurrence}

theorem refl (w : World) (keep : Occurrence → Bool) : w.Told keep w [] := ⟨[], rfl, rfl⟩

theorem trans {more : List Occurrence} (first : w.Told keep next facts)
    (second : next.Told keep last more) : w.Told keep last (more ++ facts) := by
  obtain ⟨earlier, earlierTold, rfl⟩ := first
  obtain ⟨later, laterTold, rfl⟩ := second
  refine ⟨later ++ earlier, ?_, List.filter_append ..⟩
  rw [laterTold, earlierTold, List.append_assoc]

theorem emit (told : w.Told keep next facts) {o : Occurrence} (kept : keep o = true) :
    w.Told keep (next.emit o) (o :: facts) := by
  have one : next.Told keep (next.emit o) [o] := ⟨[o], rfl, by simp [kept]⟩
  exact told.trans one

theorem skip (told : w.Told keep next facts) {o : Occurrence} (skipped : keep o = false) :
    w.Told keep (next.emit o) facts := by
  have none_kept : next.Told keep (next.emit o) [] := ⟨[o], rfl, by simp [skipped]⟩
  exact told.trans none_kept

theorem of_trace (told : w.Told keep next facts) (same : last.trace = next.trace) :
    w.Told keep last facts := by
  obtain ⟨happened, trace, kept⟩ := told
  exact ⟨happened, same.trans trace, kept⟩

/-- A reading of what happens that skips all but facts sees the facts. -/
theorem filterMap_newly {β : Type} (told : w.Told keep next facts) {read : Occurrence → Option β}
    (skips : ∀ o, keep o = false → read o = none) :
    (w.newly next).filterMap read = facts.filterMap read := by
  obtain ⟨happened, trace, rfl⟩ := told
  -- Reading skips what is not kept anyway, so keeping first makes no difference.
  rw [newly_of_trace trace, List.filterMap_filter]
  apply congrArg (List.filterMap · happened)
  funext o
  cases kept : keep o with
  | true => rfl
  | false => exact skips o kept

theorem filterMap {β : Type} (told : w.Told keep next facts) {read : Occurrence → Option β}
    (skips : ∀ o, keep o = false → read o = none) :
    next.trace.filterMap read = facts.filterMap read ++ w.trace.filterMap read := by
  rw [← told.filterMap_newly skips]
  obtain ⟨happened, trace, _⟩ := told
  rw [newly_of_trace trace, trace, List.filterMap_append]

theorem mem_trace (told : w.Told keep next facts) {o : Occurrence} (kept : keep o = true) :
    o ∈ next.trace ↔ o ∈ facts ∨ o ∈ w.trace := by
  obtain ⟨happened, trace, rfl⟩ := told
  simp [trace, kept]

theorem mem_newly (told : w.Told keep next facts) {o : Occurrence} (kept : keep o = true) :
    o ∈ w.newly next ↔ o ∈ facts := by
  obtain ⟨happened, trace, rfl⟩ := told
  simp [newly_of_trace trace, kept]

theorem trace (told : w.Told keep next facts) : next.trace = w.newly next ++ w.trace := by
  obtain ⟨happened, trace, _⟩ := told
  rw [newly_of_trace trace, trace]

end Told

abbrev Tells (w next : World) (facts : List Occurrence) : Prop :=
  w.Told (fun o => !o.isInternal) next facts

namespace Tells

variable {w next : World} {facts : List Occurrence}

theorem refl (w : World) : w.Tells w [] := Told.refl w _

theorem noting (tells : w.Tells next facts) {o : Occurrence} (internal : o.isInternal = true) :
    w.Tells (next.emit o) facts :=
  tells.skip (by simp [internal])

theorem filterMap_newly {β : Type} (tells : w.Tells next facts) {read : Occurrence → Option β}
    (skips : ∀ o, o.isInternal = true → read o = none) :
    (w.newly next).filterMap read = facts.filterMap read :=
  Told.filterMap_newly tells fun o skipped => skips o (by simpa using skipped)

theorem filterMap {β : Type} (tells : w.Tells next facts) {read : Occurrence → Option β}
    (skips : ∀ o, o.isInternal = true → read o = none) :
    next.trace.filterMap read = facts.filterMap read ++ w.trace.filterMap read :=
  Told.filterMap tells fun o skipped => skips o (by simpa using skipped)

end Tells

/-- Nothing has changed that sessions and their manager stand on. -/
structure Aside (w next : World) : Prop where
  standing : next.standing = w.standing
  clients : next.clients = w.clients
  engaged : next.engaged = w.engaged
  tells : w.Tells next []

namespace Aside

variable {w next last : World}

theorem refl (w : World) : w.Aside w := ⟨rfl, rfl, rfl, .refl w⟩

theorem trans (first : w.Aside next) (second : next.Aside last) : w.Aside last :=
  ⟨second.standing.trans first.standing, second.clients.trans first.clients,
    second.engaged.trans first.engaged, first.tells.trans second.tells⟩

theorem silent (standing : next.standing = w.standing) (clients : next.clients = w.clients)
    (engaged : next.engaged = w.engaged) (trace : next.trace = w.trace) : w.Aside next :=
  ⟨standing, clients, engaged, (Tells.refl w).of_trace trace⟩

theorem emit {o : Occurrence} (internal : o.isInternal = true) : w.Aside (w.emit o) :=
  ⟨rfl, rfl, rfl, (Tells.refl w).noting internal⟩

theorem noting (aside : w.Aside next) {o : Occurrence} (internal : o.isInternal = true) :
    w.Aside (next.emit o) :=
  aside.trans (.emit internal)

theorem manager (aside : w.Aside next) : next.manager = w.manager :=
  congrArg Standing.manager aside.standing

theorem sessions (aside : w.Aside next) : next.sessions = w.sessions :=
  congrArg Standing.sessions aside.standing

end Aside

/-! ### Channels and tasks -/

theorem aside_releaseChannel (w : World) (channel : ChannelRef) :
    w.Aside (w.releaseChannel channel) := by
  unfold releaseChannel
  split
  · exact .refl w
  · refine .noting ?_ rfl
    exact .silent rfl rfl rfl rfl

theorem aside_releaseListener (w : World) (listener : Listener) :
    w.Aside (w.releaseListener listener) := by
  cases listener with
  | silent => exact .refl w
  | channel sender => exact aside_releaseChannel w sender.channel
  | record tag steps => exact .refl w

theorem aside_discard (w : World) (task : Task) : w.Aside (w.discard task) := by
  have noted : w.Aside (w.emit (.discarded task.id)) := .emit rfl
  unfold discard
  simp only
  split
  · exact noted.trans (aside_releaseListener ..)
  · exact noted

theorem aside_spawn (w : World) (target : Target) (job : Job) : w.Aside (w.spawn target job) := by
  have counted : w.Aside { w with tasksMade := w.tasksMade + 1 } := .silent rfl rfl rfl rfl
  unfold spawn
  simp only
  split
  · exact counted.trans (aside_discard ..)
  · exact .silent rfl rfl rfl rfl

theorem aside_sendEvent (w : World) (channel : ChannelRef) (event : Event) :
    w.Aside (w.sendEvent channel event) := by
  unfold sendEvent
  split
  · split
    · exact .silent rfl rfl rfl rfl
    · exact .emit rfl
  · exact .refl w

theorem aside_invoke (w : World) (task : Option TaskRef) (listener : Listener) (event : Event) :
    w.Aside (w.invoke task listener event).1 := by
  have noted : w.Aside (w.emit (.invoked task w.running listener event)) := .emit rfl
  unfold invoke
  cases listener with
  | silent => exact noted
  | channel sender => exact noted.trans (aside_sendEvent ..)
  | record tag steps => exact noted

theorem aside_conveyOutcome (w : World) (task : Task) (listener : Listener) (event : Event) :
    w.Aside (w.conveyOutcome task listener event).1 :=
  (aside_invoke w (some task.id) listener event).trans (aside_releaseListener ..)

theorem aside_answerStart (w : World) (task : Task) (request : Request) (verdict : Verdict) :
    w.Aside (w.answerStart task request verdict).1 := by
  have answered (service : Service) (result : Except Error (Option SessionId)) :
      w.Aside (({ w with service } : World).emit (.answered task.id result)) := by
    refine .noting ?_ rfl
    exact .silent rfl rfl rfl rfl
  unfold answerStart
  simp only
  split
  · exact ((answered _ _).noting rfl).trans (aside_conveyOutcome ..)
  · exact ((answered _ _).noting rfl).trans (aside_conveyOutcome ..)

theorem aside_answerDetach (w : World) (task : Task) (client : ClientId) (verdict : Verdict) :
    w.Aside (w.answerDetach task client verdict) := by
  unfold answerDetach
  simp only
  split
  · exact (Aside.emit rfl).noting rfl
  · exact (Aside.emit rfl).noting rfl

theorem aside_suspend (w : World) (gate : Name) (target : Target) (task : Task)
    (verdict : Verdict) : w.Aside (w.suspend gate target task verdict) :=
  (Aside.emit (o := .suspended task.id gate) rfl).trans (.silent rfl rfl rfl rfl)

theorem aside_startCall (w : World) (target : Target) (task : Task) (request : Request) :
    w.Aside (w.startCall target task request).1 := by
  have called (service : Service) : w.Aside { w.call (.start task.id request.client
      request.config) with service } := (Aside.emit rfl).trans (.silent rfl rfl rfl rfl)
  unfold startCall
  simp only
  split
  · exact (called _).trans (aside_suspend ..)
  · exact (called _).trans (aside_answerStart ..)

theorem aside_detachCall (w : World) (target : Target) (task : Task) (client : ClientId) :
    w.Aside (w.detachCall target task client) := by
  have called (service : Service) : w.Aside { w.call (.detach task.id client) with service } :=
    (Aside.emit rfl).trans (.silent rfl rfl rfl rfl)
  unfold detachCall
  simp only
  split
  · exact (called _).trans (aside_suspend ..)
  · exact (called _).trans (aside_answerDetach ..)

theorem aside_runTask (w : World) (target : Target) (task : Task) :
    w.Aside (w.runTask target task).1 := by
  unfold runTask
  split
  · exact aside_startCall ..
  · exact aside_answerStart ..
  · exact aside_detachCall ..
  · exact aside_answerDetach ..
  · exact aside_conveyOutcome ..
  · exact aside_conveyOutcome ..
  · exact .emit rfl

theorem aside_beginTask (w : World) (task : Task) : w.Aside (w.beginTask task) := by
  unfold beginTask
  simp only
  split
  · exact .silent rfl rfl rfl rfl
  · exact .silent rfl rfl rfl rfl

theorem aside_discards (tasks : List Task) (w : World) : w.Aside (tasks.foldl discard w) := by
  induction tasks generalizing w with
  | nil => exact .refl w
  | cons task rest ih => exact (aside_discard w task).trans (ih (w.discard task))

theorem aside_pollChannel {w : World} {receiver : Name} {effect : Effect}
    (done : w.pollChannel receiver = some effect) : w.Aside effect.world := by
  simp only [pollChannel, Option.bind_eq_bind, Option.bind_eq_some_iff] at done
  obtain ⟨⟨channel, c⟩, _, done⟩ := done
  split at done
  · cases done
    refine .noting ?_ rfl
    exact .silent rfl rfl rfl rfl
  · cases done
    refine Aside.noting ?_ rfl
    unfold spend
    split
    · exact .silent rfl rfl rfl rfl
    · exact .silent rfl rfl rfl rfl

theorem InternalTransition.aside {w next : World} {pushed : List Frame}
    (internal : w.InternalTransition next pushed) :
    w.Aside next := by
  cases internal with
  | nothing => exact .refl w
  | race session threads => exact .refl w
  | makeChannel done =>
    unfold World.makeChannel at done
    split at done
    · cases done
    · cases done
      exact .silent rfl rfl rfl rfl
  | cloneSender done =>
    simp only [World.cloneSender, Option.bind_eq_bind, Option.bind_eq_some_iff] at done
    obtain ⟨copied, _, done⟩ := done
    split at done
    · cases done
    · cases done
      exact .silent rfl rfl rfl rfl
  | dropSender done =>
    simp only [World.dropSender, Option.bind_eq_bind, Option.bind_eq_some_iff] at done
    obtain ⟨sender, _, done⟩ := done
    cases done
    refine Aside.trans ?_ (aside_releaseChannel ..)
    exact .silent rfl rfl rfl rfl
  | dropReceiver done =>
    simp only [World.dropReceiver, Option.bind_eq_bind, Option.bind_eq_some_iff] at done
    obtain ⟨found, _, done⟩ := done
    cases done
    exact .silent rfl rfl rfl rfl
  | poll done => exact aside_pollChannel done
  | send listener event => exact aside_invoke ..
  | note note => exact .emit rfl
  | spawn on tag => exact aside_spawn ..
  | pump on => exact .silent rfl rfl rfl rfl
  | openGate gate => exact .silent rfl rfl rfl rfl
  | shutdown on =>
    unfold World.shutdown
    refine Aside.trans ?_ (aside_discards ..)
    exact .silent rfl rfl rfl rfl
  | @run target task queue running popped =>
    have taken : w.Aside { w with dispatch := w.dispatch.setQueue target queue } :=
      .silent rfl rfl rfl rfl
    exact (taken.trans (aside_beginTask ..)).trans (aside_runTask ..)
  | rest => exact .silent rfl rfl rfl rfl

/-! ### Calls on the manager -/

structure Receives (w next : World) (origin : Option SessionRef) (call : ManagerCall) : Prop where
  standing : next.standing = w.standing
  tells : w.Tells next [.received origin w.running call]

theorem Aside.receives {w next : World} {origin : Option SessionRef} {call : ManagerCall}
    (aside : (w.emit (.received origin w.running call)).Aside next) :
    w.Receives next origin call :=
  ⟨aside.standing, ((Tells.refl w).emit rfl).trans aside.tells⟩

theorem Receives.engage {w next : World} {origin : Option SessionRef} {call : ManagerCall}
    (receives : w.Receives next origin call) (steps : List Step) :
    w.Receives (next.engage steps).1 origin call :=
  ⟨receives.standing, receives.tells.of_trace rfl⟩

theorem aside_registryRequest (w : World) (origin : Option SessionRef) (request : Request)
    (target : Target) :
    (w.emit (.received origin w.running (.request w.nextTask request target
      (w.rejection? request.client request.config)))).Aside
      (w.registryRequest origin request target) := by
  unfold registryRequest
  simp only
  split
  · exact (Aside.emit rfl).trans (aside_spawn ..)
  · exact aside_spawn ..

theorem aside_permissiveRequest (w : World) (origin : Option SessionRef) (request : Request)
    (target : Target) :
    (w.emit (.received origin w.running (.request w.nextTask request target none))).Aside
      (w.permissiveRequest origin request target) := by
  have called : (w.emit (.received origin w.running (.request w.nextTask request target
      none))).Aside { (w.emit (.received origin w.running (.request w.nextTask request target
        none))).call (.request request.client request.config) with
        nextStarted := w.nextStarted + 1 } := (Aside.emit rfl).trans (.silent rfl rfl rfl rfl)
  exact called.trans (aside_spawn ..)

theorem aside_tellOutcomes (w : World) (listener : Listener)
    (outcomes : List (Target × Option Started)) : w.Aside (w.tellOutcomes listener outcomes) := by
  have spawned (w : World) : w.Aside (outcomes.foldl (fun w outcome =>
      w.spawn outcome.1 (outcomeJob listener outcome.2)) w) := by
    induction outcomes generalizing w with
    | nil => exact .refl w
    | cons outcome rest ih => exact (aside_spawn ..).trans (ih _)
  exact (spawned w).trans (aside_releaseListener ..)

theorem receives_managerRequest (w : World) (origin : Option SessionRef) (request : Request)
    (target : Target) : ∃ rejection,
      w.Receives (w.managerRequest origin request target).1 origin
        (.request w.nextTask request target rejection) := by
  unfold managerRequest
  split
  · exact ⟨_, (aside_registryRequest w origin request target).receives⟩
  · exact ⟨_, (aside_permissiveRequest w origin request target).receives⟩
  · exact ⟨none, (aside_tellOutcomes ..).receives.engage _⟩

theorem aside_registrySpecifier (w : World) (origin : Option SessionRef) (client : ClientId)
    (role : Role) (peer token : Option Bytes) :
    (w.emit (.received origin w.running (.specifier client role peer token))).Aside
      (w.registrySpecifier origin client role peer token).2 := by
  unfold registrySpecifier
  simp only
  split
  · split
    · exact .refl _
    · exact .emit rfl
  · exact .emit rfl

theorem receives_managerSpecifier (w : World) (origin : Option SessionRef) (client : ClientId)
    (role : Role) (peer token : Option Bytes) :
    w.Receives (w.managerSpecifier origin client role peer token).2.1 origin
      (.specifier client role peer token) := by
  unfold managerSpecifier
  split
  · exact (aside_registrySpecifier w origin client role peer token).receives
  · exact (Aside.emit (w := w.emit _) rfl).receives
  · exact (Aside.refl _).receives.engage _

theorem receives_managerDisconnect (w : World) (origin : Option SessionRef) (client : ClientId)
    (token : Token) : ∃ task,
      w.Receives (w.managerDisconnect origin client token).1 origin
        (.disconnect client token task) := by
  have received (task : Option TaskRef) :
      w.Receives (w.emit (.received origin w.running (.disconnect client token task))) origin
        (.disconnect client token task) := (Aside.refl _).receives
  have logged {next : World} {task : Option TaskRef} {o : Occurrence}
      (receives : w.Receives next origin (.disconnect client token task))
      (internal : o.isInternal = true) :
      w.Receives (next.emit o) origin (.disconnect client token task) :=
    ⟨receives.standing, receives.tells.noting internal⟩
  unfold managerDisconnect
  split
  · unfold registryDisconnect
    simp only
    split
    · exact ⟨none, logged (received none) rfl⟩
    · split
      · -- The table changes here, so only the rest of the world is an aside.
        refine ⟨some w.nextTask, ?_⟩
        have spawned := aside_spawn { w.emit (.received origin w.running (.disconnect client token
          (some w.nextTask))) with clients := w.clients.erase client } defaultTarget
          (.detach client)
        exact ⟨spawned.standing, (((Tells.refl w).emit rfl).of_trace rfl).trans spawned.tells⟩
      · exact ⟨none, logged (received none) rfl⟩
  · unfold permissiveDisconnect
    simp only
    split
    · split
      · exact ⟨none, logged (logged (received none) rfl) rfl⟩
      · exact ⟨none, logged (logged (received none) rfl) rfl⟩
    · exact ⟨none, logged (received none) rfl⟩
  · exact ⟨none, (received none).engage _⟩

/-! ### The manager with a client table -/

theorem managerRequest_registry {w : World} (registry : w.manager = .registry)
    (origin : Option SessionRef) (request : Request) (target : Target) :
    w.managerRequest origin request target = (w.registryRequest origin request target, []) := by
  simp only [managerRequest, registry]

theorem managerDisconnect_registry {w : World} (registry : w.manager = .registry)
    (origin : Option SessionRef) (client : ClientId) (token : Token) :
    w.managerDisconnect origin client token =
      (w.registryDisconnect origin client token, []) := by
  simp only [managerDisconnect, registry]

theorem managerSpecifier_registry {w : World} (registry : w.manager = .registry)
    (origin : Option SessionRef) (client : ClientId) (role : Role) (peer token : Option Bytes) :
    w.managerSpecifier origin client role peer token =
      ((w.registrySpecifier origin client role peer token).1,
        (w.registrySpecifier origin client role peer token).2, []) := by
  simp only [managerSpecifier, registry]

theorem clients_registryDisconnect (w : World) (origin : Option SessionRef) (client : ClientId)
    (token : Token) :
    (w.registryDisconnect origin client token).clients =
      if w.clients.token? client = some token then w.clients.erase client else w.clients := by
  unfold registryDisconnect
  simp only
  split
  · rename_i unknown
    simp [unknown, log, emit]
  · rename_i known recorded
    by_cases same : known = token
    · rw [if_pos same, if_pos (by rw [recorded, same]), (aside_spawn ..).clients]
      rfl
    · rw [if_neg same, if_neg (by simpa [recorded] using same)]
      rfl

theorem engaged_registryDisconnect (w : World) (origin : Option SessionRef) (client : ClientId)
    (token : Token) : (w.registryDisconnect origin client token).engaged = w.engaged := by
  unfold registryDisconnect
  simp only
  split
  · rfl
  · split
    · rw [(aside_spawn ..).engaged]
      rfl
    · rfl

end World

end Proximity
