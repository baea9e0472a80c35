import Proximity.Proofs.Moves
import Proximity.Proofs.Settling

/-! What the manager with a client table rules: whether a request is rejected, and whether a
disconnect is honoured. The table says just who the latest of all attaches and honoured disconnects
leaves attached, and with which token. -/

set_option autoImplicit false

namespace Proximity

/-- Whether a client is attached or let go by an occurrence. -/
def Occurrence.settles (client : ClientId) : Occurrence → Bool
  | .attached other _ _ | .received _ _ (.disconnect other _ (some _)) => other = client
  | _ => false

theorem Occurrence.isRuling_of_settles {client : ClientId} {o : Occurrence}
    (settles : o.settles client = true) : o.isRuling = true := by
  rcases o with _ | _ | _ | _ | _ | ⟨_, _, _ | _ | _⟩ | _ | _ | _ | _ | _ | _ | _
  case attached | received.disconnect | received.request => rfl
  all_goals cases settles

namespace World

/-- A token is rightful for a client if of all attaches of the client and all disconnects that were
honoured for it the latest is an attach, and that minted the token. -/
def Entitled (w : World) (client : ClientId) (token : Token) : Prop :=
  ∃ session, w.trace.find? (·.settles client) = some (.attached client session token)

def objection (w : World) (client : ClientId) : Notice :=
  if w.clients.isAttached client then .tokenMismatch client else .disconnectUnknown client

structure Ignores (w next : World) (origin : Option SessionRef) (client : ClientId)
    (token : Token) : Prop where
  level : (w.objection client).level = .warn
  same : next = { w with
    trace := .logged (w.objection client) ::
      .received origin w.running (.disconnect client token none) :: w.trace }

/-- A disconnect that is honoured takes the entry of its client and starts one task on the manager's
own target, which is queued there, or dropped if the target is closed. -/
inductive Honours (w next : World) (origin : Option SessionRef) (client : ClientId)
    (token : Token) : Prop where
  | queued (opened : w.isClosed defaultTarget = false)
      (same : next = { w with
        clients := w.clients.erase client
        tasksMade := w.tasksMade + 1
        dispatch := w.dispatch.push w.running defaultTarget
          { id := w.tasksMade, job := .detach client }
        trace := .received origin w.running (.disconnect client token (some w.tasksMade)) ::
          w.trace })
  | dropped (closed : w.isClosed defaultTarget = true)
      (same : next = { w with
        clients := w.clients.erase client
        tasksMade := w.tasksMade + 1
        trace := .discarded w.tasksMade ::
          .received origin w.running (.disconnect client token (some w.tasksMade)) :: w.trace })

structure Judges (w : World) (origin : Option SessionRef) (client : ClientId) (token : Token) :
    Prop where
  honours : w.Entitled client token →
    w.Honours (w.managerDisconnect origin client token).1 origin client token
  ignores : ¬ w.Entitled client token →
    w.Ignores (w.managerDisconnect origin client token).1 origin client token

/-- How the manager takes a disconnect that reaches it on the way from one world to another, and the
task that comes of it. It is honoured if its token is rightful, and ignored if not. -/
inductive Takes (w next : World) (origin : Option SessionRef) (client : ClientId) (token : Token) :
    Option TaskRef → Prop where
  | honoured (before : World) (approach : w.Approach before) (rightful : w.Entitled client token)
      (honours : before.Honours next origin client token) :
      w.Takes next origin client token (some w.tasksMade)
  | ignored (before : World) (approach : w.Approach before) (foreign : ¬ w.Entitled client token)
      (ignores : before.Ignores next origin client token) : w.Takes next origin client token none

variable {w next : World}

theorem ignores_registryDisconnect {client : ClientId} {token : Token}
    (unrecorded : w.clients.token? client ≠ some token) (origin : Option SessionRef) :
    w.Ignores (w.registryDisconnect origin client token) origin client token := by
  unfold registryDisconnect
  simp only
  split
  · rename_i unknown
    have objection : w.objection client = .disconnectUnknown client := by
      simp [World.objection, ClientTable.isAttached, unknown]
    exact ⟨by rw [objection]; rfl, by rw [objection]; rfl⟩
  · rename_i known recorded
    have objection : w.objection client = .tokenMismatch client := by
      simp [World.objection, ClientTable.isAttached, recorded]
    rw [if_neg fun same => unrecorded (recorded.trans (congrArg some same))]
    exact ⟨by rw [objection]; rfl, by rw [objection]; rfl⟩

theorem Ignores.told {origin : Option SessionRef} {client : ClientId} {token : Token}
    (ignores : w.Ignores next origin client token) : w.Told Occurrence.isFiled next
      [.received origin w.running (.disconnect client token none)] := by
  refine ⟨[_, _], congrArg World.trace ignores.same, ?_⟩
  unfold objection
  split <;> rfl

theorem honours_registryDisconnect {client : ClientId} {token : Token}
    (recorded : w.clients.token? client = some token) (origin : Option SessionRef) :
    w.Honours (w.registryDisconnect origin client token) origin client token := by
  simp only [registryDisconnect, recorded, if_true]
  cases closed : w.isClosed defaultTarget with
  | false =>
    refine .queued closed ?_
    exact if_neg (Bool.eq_false_iff.1 closed)
  | true =>
    refine .dropped closed ?_
    exact if_pos closed

/-- What a request tells: that it has come, whether it is rejected, and whether its task is gone. -/
theorem told_registryRequest (w : World) (origin : Option SessionRef) (request : Request)
    (target : Target) :
    ∃ dropped, (∀ o ∈ dropped, o = .discarded w.tasksMade) ∧
      w.Told Occurrence.isFiled (w.registryRequest origin request target)
        (dropped ++ (w.rejection? request.client request.config).toList.map (fun reason =>
            .logged (.requestRejected request.client request.config.kind reason)) ++
          [.received origin w.running (.request w.tasksMade request target
            (w.rejection? request.client request.config))]) := by
  have spawned (before : World) (same : before.tasksMade = w.tasksMade) (job : Job) :
      ∃ dropped, (∀ o ∈ dropped, o = .discarded w.tasksMade) ∧
        before.Told Occurrence.isFiled (before.spawn target job) dropped := by
    cases spawns_spawn before target job with
    | queued _ _ _ told => exact ⟨[], by simp, told⟩
    | dropped _ _ _ told => exact ⟨[.discarded w.tasksMade], by simp, same ▸ told⟩
  have received : w.Told Occurrence.isFiled (w.emit (.received origin w.running (.request w.nextTask
      request target (w.rejection? request.client request.config))))
      [.received origin w.running (.request w.tasksMade request target
        (w.rejection? request.client request.config))] := (Told.refl w _).emit rfl
  unfold registryRequest
  simp only
  split
  · rename_i reason rejected
    rw [rejected] at received ⊢
    obtain ⟨dropped, only, told⟩ := spawned ((w.emit _).log _) rfl (.refuse request.listener)
    refine ⟨dropped, only, ?_⟩
    rw [List.append_assoc]
    exact (received.emit rfl).trans told
  · rename_i admitted
    rw [admitted] at received ⊢
    obtain ⟨dropped, only, told⟩ := spawned (w.emit _) rfl (.start request)
    refine ⟨dropped, only, ?_⟩
    rw [List.append_assoc]
    exact received.trans told

/-! ### The table -/

/-- The table records for each client the token that is rightful. -/
def Recorded (w : World) : Prop :=
  ∀ client token, w.clients.token? client = some token ↔ w.Entitled client token

theorem recorded_initial (service : Service) : (World.initial .registry service).Recorded := by
  intro client token
  simp [World.initial, Entitled, ClientTable.token?, ClientTable.empty]

theorem Told.find? {keep : Occurrence → Bool} {facts : List Occurrence}
    (told : w.Told keep next facts) {p : Occurrence → Bool}
    (skips : ∀ o, keep o = false → p o = false) :
    next.trace.find? p = (facts.find? p).or (w.trace.find? p) := by
  obtain ⟨happened, trace, rfl⟩ := told
  rw [trace, List.find?_append, List.find?_filter]
  apply congrArg (Option.or · (w.trace.find? p))
  apply congrArg (List.find? · happened)
  funext o
  cases kept : keep o with
  | true => simp
  | false => simp [skips o kept]

theorem Told.entitled {facts : List Occurrence} (told : w.Told Occurrence.isFiled next facts)
    (client : ClientId) (token : Token) : next.Entitled client token ↔
      ∃ session, (facts.find? (·.settles client)).or (w.trace.find? (·.settles client)) =
        some (.attached client session token) := by
  rw [Entitled, told.find?]
  intro o other
  refine Bool.eq_false_iff.2 fun settles => ?_
  rw [Occurrence.isFiled, Occurrence.isRuling_of_settles settles, Bool.or_true] at other
  cases other

theorem Told.entitled_of_quiet {facts : List Occurrence}
    (told : w.Told Occurrence.isFiled next facts) {client : ClientId}
    (quiet : ∀ o ∈ facts, o.settles client = false) (token : Token) :
    next.Entitled client token ↔ w.Entitled client token := by
  rw [told.entitled, List.find?_eq_none.2 fun o member => by simp [quiet o member]]
  rfl

theorem entitled_of_quiet {told : List Occurrence} (trace : next.trace = told ++ w.trace)
    {client : ClientId} (quiet : ∀ o ∈ told, o.settles client = false) (token : Token) :
    next.Entitled client token ↔ w.Entitled client token := by
  have skipped : told.find? (·.settles client) = none :=
    List.find?_eq_none.2 fun o member => by simp [quiet o member]
  rw [Entitled, Entitled, trace, List.find?_append, skipped]
  rfl

theorem Approach.entitled {before : World} (approach : w.Approach before) (client : ClientId)
    (token : Token) : before.Entitled client token ↔ w.Entitled client token := by
  rw [approach.told.entitled]
  rfl

theorem Honours.told {origin : Option SessionRef} {client : ClientId} {token : Token}
    (honours : w.Honours next origin client token) : ∃ dropped,
      (∀ o ∈ dropped, o = .discarded w.tasksMade) ∧ w.Told Occurrence.isFiled next (dropped ++
        [.received origin w.running (.disconnect client token (some w.tasksMade))]) := by
  cases honours with
  | queued _ same => exact ⟨[], by simp, [_], congrArg World.trace same, rfl⟩
  | dropped _ same => exact ⟨[_], by simp, [_, _], congrArg World.trace same, rfl⟩

theorem Recorded.approach {before : World} (recorded : w.Recorded)
    (approach : w.Approach before) : before.Recorded := by
  intro client token
  rw [approach.unfiled.clients, approach.entitled]
  exact recorded client token

theorem Honours.entitled {origin : Option SessionRef} {client : ClientId} {token : Token}
    (honours : w.Honours next origin client token) (other : ClientId) (right : Token) :
    next.Entitled other right ↔ other ≠ client ∧ w.Entitled other right := by
  obtain ⟨dropped, only, told⟩ := honours.told
  have quiet : dropped.find? (·.settles other) = none :=
    List.find?_eq_none.2 fun o member => by simp [only o member, Occurrence.settles]
  rw [told.entitled, List.find?_append, quiet, Option.none_or, List.find?_cons]
  by_cases own : client = other
  · simp [Occurrence.settles, own]
  · simp [Occurrence.settles, own, Ne.symm own, Entitled]

theorem Honours.clients {origin : Option SessionRef} {client : ClientId} {token : Token}
    (honours : w.Honours next origin client token) : next.clients = w.clients.erase client := by
  cases honours with
  | queued _ same | dropped _ same => rw [same]

theorem Recorded.judges (recorded : w.Recorded) (registry : w.manager = .registry)
    (origin : Option SessionRef) (client : ClientId) (token : Token) :
    w.Judges origin client token := by
  refine ⟨fun rightful => ?_, fun foreign => ?_⟩
  · rw [managerDisconnect_registry registry]
    exact honours_registryDisconnect ((recorded client token).2 rightful) origin
  · rw [managerDisconnect_registry registry]
    exact ignores_registryDisconnect (fun shown => foreign ((recorded client token).1 shown)) origin

theorem Recorded.takes {before : World} (recorded : w.Recorded) (registry : w.manager = .registry)
    (approach : w.Approach before) (origin : Option SessionRef) (client : ClientId)
    (token : Token) :
    ∃ task, w.Takes (before.managerDisconnect origin client token).1 origin client token task := by
  have judges := (recorded.approach approach).judges (approach.manager.trans registry) origin client
    token
  by_cases rightful : w.Entitled client token
  · exact ⟨_, .honoured before approach rightful
      (judges.honours ((approach.entitled client token).2 rightful))⟩
  · exact ⟨_, .ignored before approach rightful
      (judges.ignores fun shown => rightful ((approach.entitled client token).1 shown))⟩

theorem Takes.told {origin : Option SessionRef} {client : ClientId} {token : Token}
    {task : Option TaskRef} (takes : w.Takes next origin client token task) : ∃ dropped,
      (∀ o ∈ dropped, o = .discarded w.tasksMade) ∧ w.Told Occurrence.isFiled next (dropped ++
        [.received origin w.running (.disconnect client token task)]) := by
  cases takes with
  | honoured before approach _ honours =>
    obtain ⟨dropped, only, told⟩ := honours.told
    rw [approach.unfiled.tasksMade] at only told
    rw [approach.running] at told
    refine ⟨dropped, only, ?_⟩
    rw [← List.append_nil (dropped ++ _)]
    exact approach.told.trans told
  | ignored before approach _ ignores =>
    have told := ignores.told
    rw [approach.running] at told
    exact ⟨[], by simp, approach.told.trans told⟩

/-! ### What a transition has ruled -/

/-- What is told of a request: that it has come, that it is rejected if it is, and perhaps that its
task is gone. -/
inductive Hears (w next : World) (origin : Option SessionRef) (request : Request)
    (target : Target) : Prop where
  | told (dropped : List Occurrence) (only : ∀ o ∈ dropped, o = .discarded w.tasksMade)
      (told : w.Told Occurrence.isFiled next
        (dropped ++ (w.rejection? request.client request.config).toList.map (fun reason =>
            .logged (.requestRejected request.client request.config.kind reason)) ++
          [.received origin w.running (.request w.tasksMade request target
            (w.rejection? request.client request.config))]))

theorem Approach.hears {before : World} (approach : w.Approach before)
    (origin : Option SessionRef) (request : Request) (target : Target) :
    w.Hears (before.registryRequest origin request target) origin request target := by
  obtain ⟨dropped, only, told⟩ := told_registryRequest before origin request target
  rw [approach.unfiled.tasksMade] at only told
  rw [approach.rejection?, approach.running] at told
  refine .told dropped only ?_
  rw [← List.append_nil (dropped ++ _ ++ _)]
  exact approach.told.trans told

theorem Hears.facts {origin : Option SessionRef} {request : Request} {target : Target}
    (hears : w.Hears next origin request target) : ∃ facts, w.Told Occurrence.isFiled next facts ∧
      ∀ o ∈ facts, o = .discarded w.tasksMade ∨
        (∃ reason, o = .logged (.requestRejected request.client request.config.kind reason)) ∨
        o = .received origin w.running (.request w.tasksMade request target
          (w.rejection? request.client request.config)) := by
  obtain ⟨dropped, only, told⟩ := hears
  refine ⟨_, told, fun o member => ?_⟩
  simp only [List.mem_append, List.mem_map, List.mem_singleton] at member
  rcases member with (gone | ⟨reason, _, rfl⟩) | rfl
  · exact .inl (only o gone)
  · exact .inr (.inl ⟨reason, rfl⟩)
  · exact .inr (.inr rfl)

inductive TableChange (w next : World) : Prop where
  | quiet (clients : next.clients = w.clients) (trace : next.trace = w.newly next ++ w.trace)
      (quiet : ∀ o ∈ w.newly next, o.isRuling = false)
  | attached (client : ClientId) (session : SessionRef) (token : Token)
      (clients : next.clients = w.clients.insert client token)
      (told : w.Told Occurrence.isFiled next [.attached client session token])
  | requested (origin : Option SessionRef) (request : Request) (target : Target)
      (clients : next.clients = w.clients) (hears : w.Hears next origin request target)
  | disconnected (origin : Option SessionRef) (client : ClientId) (token : Token)
      (task : Option TaskRef) (takes : w.Takes next origin client token task)

theorem Told.tableChange {facts : List Occurrence} (told : w.Told Occurrence.isFiled next facts)
    (clients : next.clients = w.clients) (tasks : ∀ o ∈ facts, o.about?.isSome = true) :
    w.TableChange next := by
  refine .quiet clients told.trace fun o member => Bool.eq_false_iff.2 fun changes => ?_
  have fact := (told.mem_newly (by simp [Occurrence.isFiled, changes])).1 member
  have about := tasks o fact
  rw [Occurrence.about?_of_isRuling changes] at about
  cases about

theorem TaskChange.tableChange (changes : w.TaskChange next) (recorded : w.Recorded)
    (registry : w.manager = .registry) : w.TableChange next := by
  cases changes with
  | idle unfiled => exact unfiled.told.tableChange unfiled.clients (by simp)
  | attached client session token _ _ clients told => exact .attached _ _ _ clients told
  | requested before origin request target approach same =>
    rw [managerRequest_registry (approach.manager.trans registry)] at same
    refine .requested origin request target ?_ (same ▸ approach.hears origin request target)
    rw [same, (aside_registryRequest before origin request target).clients]
    exact approach.unfiled.clients
  | disconnected before origin client token approach same =>
    obtain ⟨task, takes⟩ := recorded.takes registry approach origin client token
    exact .disconnected origin client token task (same ▸ takes)
  | spawned on tag same =>
    rw [same]
    have clients := (aside_spawn w on (.mark tag)).clients
    cases spawns_spawn w on (.mark tag) with
    | queued _ _ _ told | dropped _ _ _ told =>
      exact told.tableChange clients (by simp [Occurrence.about?, Occurrence.task?])
  | ran before target task queue _ _ unfiled _ runs aside =>
    have begun : w.Told Occurrence.isFiled before [] := unfiled.told
    cases runs with
    | ended facts ends _ _ told =>
      refine (begun.trans told).tableChange aside.clients fun o member => ?_
      rw [List.append_nil] at member
      rw [(ends.own o member).1]
      rfl
    | suspended gate verdict calls called _ _ _ told =>
      refine (begun.trans told).tableChange aside.clients fun o member => ?_
      rw [List.append_nil] at member
      rcases List.mem_cons.1 member with rfl | member
      · rfl
      · rw [(called.own o member).1]
        rfl
  | opened gate same =>
    rw [same]
    have told : w.Told Occurrence.isFiled (w.openGate gate).world [] :=
      (Told.refl w _).of_trace rfl
    exact told.tableChange rfl (by simp)
  | shut target same =>
    rw [same]
    obtain ⟨_, _, told⟩ := filed_discards (w.dispatch.shutdown target).1
      { w with dispatch := (w.dispatch.shutdown target).2 }
    have told : w.Told Occurrence.isFiled (w.shutdown target) _ := told
    exact told.tableChange (InternalTransition.shutdown target).aside.clients
      (by simp [Occurrence.about?, Occurrence.task?])

theorem Recorded.tableChange (recorded : w.Recorded) (changes : w.TableChange next) :
    next.Recorded := by
  intro client token
  cases changes with
  | quiet clients trace quiet =>
    rw [clients, entitled_of_quiet trace fun o member => ?_]
    · exact recorded client token
    · exact Bool.eq_false_iff.2 fun settles =>
        absurd (Occurrence.isRuling_of_settles settles) (by simp [quiet o member])
  | attached given session minted clients told =>
    rw [clients, told.entitled, ClientTable.token?_insert, List.find?_cons]
    by_cases own : client = given
    · simp [Occurrence.settles, own]
    · simp [Occurrence.settles, own, Ne.symm own, recorded client token, Entitled]
  | requested origin request target clients hears =>
    obtain ⟨facts, told, each⟩ := hears.facts
    rw [clients, told.entitled_of_quiet]
    · exact recorded client token
    · intro o member
      rcases each o member with rfl | ⟨_, rfl⟩ | rfl <;> rfl
  | disconnected origin given shown task takes =>
    cases takes with
    | honoured before approach _ honours =>
      rw [honours.clients, ClientTable.token?_erase, honours.entitled, approach.unfiled.clients,
        approach.entitled]
      by_cases own : client = given
      · simp [own]
      · simp [own, recorded client token]
    | ignored before approach _ ignores =>
      have clients : next.clients = w.clients := by
        rw [ignores.same]
        exact approach.unfiled.clients
      rw [clients, ignores.told.entitled_of_quiet (by simp [Occurrence.settles]),
        approach.entitled]
      exact recorded client token

theorem TableChange.takes (changes : w.TableChange next) {origin : Option SessionRef}
    {running : Option Target} {client : ClientId} {token : Token} {task : Option TaskRef}
    (told : .received origin running (.disconnect client token task) ∈ w.newly next) :
    w.Takes next origin client token task := by
  cases changes with
  | quiet _ _ quiet => cases quiet _ told
  | attached _ _ _ _ facts => simpa using (facts.mem_newly rfl).1 told
  | requested _ _ _ _ hears =>
    obtain ⟨facts, heard, each⟩ := hears.facts
    rcases each _ ((heard.mem_newly rfl).1 told) with other | ⟨_, other⟩ | other <;> cases other
  | disconnected _ _ _ _ takes =>
    obtain ⟨dropped, only, facts⟩ := takes.told
    rcases List.mem_append.1 ((facts.mem_newly rfl).1 told) with gone | fact
    · cases only _ gone
    · cases List.mem_singleton.1 fact
      exact takes

end World

namespace Run

theorem Reachable.recorded {service : Service} {r : Run}
    (reachable : Reachable .registry service r) : r.world.Recorded := by
  induction reachable with
  | start => exact World.recorded_initial service
  | next earlier moves ih =>
    obtain ⟨_, _, transition, _⟩ := moves.transition
    exact ih.tableChange (transition.taskChange.tableChange ih earlier.manager)

theorem Reachable.tableChange {service : Service} {r next : Run}
    (reachable : Reachable .registry service r) (moves : r.Next next) :
    r.world.TableChange next.world := by
  obtain ⟨_, _, transition, _⟩ := moves.transition
  exact transition.taskChange.tableChange reachable.recorded reachable.manager

end Run

end Proximity
