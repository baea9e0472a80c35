import Proximity.Proofs.Ledger

/-! What the service answers to tasks. A call takes the next reply of its script, and what the task
is answered, then or when its gate opens, is what that reply says. All of it is read off the script
that the service starts with and the order of calls and answers. -/

set_option autoImplicit false

namespace Proximity

/-- What a task asks of the service. There is a script for each. -/
inductive Matter where
  | start (kind : Kind)
  | detach
  deriving DecidableEq

def Job.matter? : Job → Option Matter
  | .start request => some (.start request.config.kind)
  | .detach _ => some .detach
  | _ => none

inductive Dealing where
  | asked (task : TaskRef) (matter : Matter)
  | answered (task : TaskRef) (result : Except Error (Option SessionId))

def Occurrence.dealing? : Occurrence → Option Dealing
  | .called _ (.start task _ config) => some (.asked task (.start config.kind))
  | .called _ (.detach task _) => some (.asked task .detach)
  | .answered task result => some (.answered task result)
  | _ => none

def Dealing.asks (matter : Matter) : Dealing → Bool
  | .asked _ other => other = matter
  | .answered .. => false

/-- Whether a reply takes the next number that is free. -/
def Matter.numbers : Matter → Verdict → Bool
  | .start _, .next => true
  | _, _ => false

/-- What a reply says when it is given: an error, nothing to a disconnect, and the number of a
session otherwise. -/
def Matter.answer (free : UInt32) : Matter → Verdict → Except Error (Option SessionId)
  | _, .failure error => .error error
  | .detach, _ => .ok none
  | .start _, .number n => .ok (some ⟨n⟩)
  | .start _, .next => .ok (some ⟨free⟩)

namespace Service

def script (b : Service) : Matter → List Reply
  | .start .publish => b.publish
  | .start .subscribe => b.subscribe
  | .detach => b.disconnect

/-- What a task has asked of the service, and the reply that was next in the script then. -/
def reply? (b : Service) (task : TaskRef) : List Dealing → Option (Matter × Reply)
  | [] => none
  | .asked caller matter :: earlier =>
    if caller = task then
      some (matter, (b.script matter).getD (earlier.countP (·.asks matter)) {})
    else b.reply? task earlier
  | .answered .. :: earlier => b.reply? task earlier

/-- How many sessions the service has numbered by itself. -/
def numbered (b : Service) : List Dealing → Nat
  | [] => 0
  | .asked .. :: earlier => b.numbered earlier
  | .answered task _ :: earlier =>
    b.numbered earlier +
      if (b.reply? task earlier).any fun asked => asked.1.numbers asked.2.verdict then 1 else 0

/-- What the service answers a task, by the reply to its call and by the numbers that are taken at
the time of the answer. -/
def answer? (b : Service) (task : TaskRef) : List Dealing → Option (Except Error (Option SessionId))
  | [] => none
  | .asked .. :: earlier => b.answer? task earlier
  | .answered asker _ :: earlier =>
    if asker = task then
      (b.reply? task earlier).map fun asked =>
        asked.1.answer (b.nextSession + .ofNat (b.numbered earlier)) asked.2.verdict
    else b.answer? task earlier

end Service

def Dealing.result? (task : TaskRef) : List Dealing → Option (Except Error (Option SessionId))
  | [] => none
  | .asked .. :: earlier => result? task earlier
  | .answered asker result :: earlier => if asker = task then some result else result? task earlier

theorem Occurrence.dealing?_of_isFiled {o : Occurrence} (other : o.isFiled = false) :
    o.dealing? = none := by
  cases o with
  | called running call =>
    cases call with
    | start | detach => cases other
    | _ => rfl
  | answered => cases other
  | _ => rfl

theorem Dealing.result?_filter (trace : List Occurrence) (task : TaskRef) :
    result? task ((trace.filter fun o => o.task? = some task).filterMap Occurrence.dealing?) =
      result? task (trace.filterMap Occurrence.dealing?) := by
  induction trace with
  | nil => rfl
  | cons o earlier ih =>
    by_cases own : o.task? = some task
    · rw [List.filter_cons_of_pos (by simpa using own)]
      cases dealing : o.dealing? with
      | none => simpa [List.filterMap_cons_none dealing] using ih
      | some dealt =>
        rw [List.filterMap_cons_some dealing, List.filterMap_cons_some dealing]
        cases dealt with
        | asked => exact ih
        | answered asker result => simp only [result?, ih]
    · rw [List.filter_cons_of_neg (by simpa using own), ih]
      cases dealing : o.dealing? with
      | none => rw [List.filterMap_cons_none dealing]
      | some dealt =>
        rw [List.filterMap_cons_some dealing]
        cases dealt with
        | asked => rfl
        | answered asker result =>
          -- An answer to the task would tell of it.
          have other : asker ≠ task := by
            rintro rfl
            cases o with
            | answered =>
              cases dealing
              exact own rfl
            | called running call => cases call <;> cases dealing
            | _ => cases dealing
          simp only [result?, other, if_false]

namespace World

variable {b : Service} {w next : World}

def dealings (w : World) : List Dealing := w.trace.filterMap Occurrence.dealing?

theorem Told.dealings {facts : List Occurrence} (told : w.Told Occurrence.isFiled next facts) :
    next.dealings = facts.filterMap Occurrence.dealing? ++ w.dealings :=
  told.filterMap fun _ other => Occurrence.dealing?_of_isFiled other

theorem result?_record (w : World) (task : TaskRef) :
    Dealing.result? task w.dealings =
      Dealing.result? task ((w.record task).filterMap Occurrence.dealing?) :=
  (Dealing.result?_filter w.trace task).symm

/-- The service that was started as `b` has used up the replies and the numbers that it had to, a
task that has called it keeps the reply to its call, and every answer is what the reply says. -/
structure Attended (b : Service) (w : World) : Prop where
  scripts : ∀ matter, w.service.script matter =
    (b.script matter).drop (w.dealings.countP (·.asks matter))
  numbers : w.service.nextSession = b.nextSession + .ofNat (b.numbered w.dealings)
  waits : ∀ p ∈ w.dispatch.places, ∀ verdict, p.task.verdict = some verdict →
    ∃ matter gate, p.task.job.matter? = some matter ∧
      b.reply? p.task.id w.dealings = some (matter, ⟨gate, verdict⟩)
  answers : ∀ task, Dealing.result? task w.dealings = b.answer? task w.dealings

theorem attended_initial (manager : ManagerKind) (b : Service) :
    (World.initial manager b).Attended b where
  scripts _ := rfl
  numbers := (UInt32.add_zero _).symm
  waits := by simp [World.initial, Dispatch.places, Queue.places, Queue.tasks]
  answers _ := rfl

end World

namespace Service

structure Takes (b : Service) (matter : Matter) (reply : Reply) (next : Service) : Prop where
  reply : reply = first (b.script matter)
  own : next.script matter = (b.script matter).tail
  others : ∀ other ≠ matter, next.script other = b.script other
  numbers : next.nextSession = b.nextSession

structure Gives (b : Service) (matter : Matter) (verdict : Verdict)
    (result : Except Error (Option SessionId)) (next : Service) : Prop where
  result : result = matter.answer b.nextSession verdict
  scripts : ∀ other, next.script other = b.script other
  numbers : next.nextSession = b.nextSession + if matter.numbers verdict then 1 else 0

theorem takes_takeStart (b : Service) (kind : Kind) :
    b.Takes (.start kind) (b.takeStart kind).1 (b.takeStart kind).2 := by
  cases kind with
  | publish | subscribe =>
    refine ⟨rfl, rfl, fun other apart => ?_, rfl⟩
    rcases other with (_ | _) | _ <;> first | rfl | exact absurd rfl apart

theorem takes_takeDisconnect (b : Service) :
    b.Takes .detach b.takeDisconnect.1 b.takeDisconnect.2 := by
  refine ⟨rfl, rfl, fun other apart => ?_, rfl⟩
  rcases other with (_ | _) | _ <;> first | rfl | exact absurd rfl apart

theorem gives_answerStart (b : Service) (kind : Kind) (verdict : Verdict) :
    b.Gives (.start kind) verdict ((b.answerStart verdict).1.map some)
      (b.answerStart verdict).2 := by
  cases verdict with
  | failure | number => exact ⟨rfl, fun _ => rfl, (UInt32.add_zero _).symm⟩
  | next =>
    refine ⟨rfl, fun other => ?_, rfl⟩
    rcases other with (_ | _) | _ <;> rfl

theorem gives_answerDisconnect (b : Service) (verdict : Verdict) :
    b.Gives .detach verdict ((answerDisconnect verdict).map fun _ => none) b := by
  cases verdict with
  | failure | number | next => exact ⟨rfl, fun _ => rfl, (UInt32.add_zero _).symm⟩

theorem script_of_forTasks {b next : Service} (same : next.forTasks = b.forTasks)
    (matter : Matter) : next.script matter = b.script matter := by
  rcases matter with (_ | _) | _
  · exact (congrArg publish same :)
  · exact (congrArg subscribe same :)
  · exact (congrArg disconnect same :)

end Service

namespace World.Attended

variable {b : Service} {w next : World}

theorem transfer (attended : w.Attended b)
    (service : next.service.forTasks = w.service.forTasks) (dealings : next.dealings = w.dealings)
    (places : ∀ p ∈ next.dispatch.places, p.task.verdict.isSome = true →
      ∃ q ∈ w.dispatch.places, q.task = p.task) : next.Attended b where
  scripts matter := by
    rw [Service.script_of_forTasks service, dealings]
    exact attended.scripts matter
  numbers := by
    have same : next.service.nextSession = w.service.nextSession :=
      (congrArg Service.nextSession service :)
    rw [same, dealings]
    exact attended.numbers
  waits p member verdict known := by
    obtain ⟨q, old, same⟩ := places p member (by simp [known])
    rw [dealings, ← same]
    exact attended.waits q old verdict (same ▸ known)
  answers := by
    rw [dealings]
    exact attended.answers

theorem unfiled (attended : w.Attended b) (unfiled : w.Unfiled next) : next.Attended b := by
  refine attended.transfer unfiled.service unfiled.told.dealings fun p member _ => ?_
  exact ⟨p, unfiled.dispatch ▸ member, rfl⟩

theorem emit (attended : w.Attended b) {o : Occurrence} (other : o.dealing? = none) :
    (w.emit o).Attended b :=
  attended.transfer rfl (List.filterMap_cons_none other) fun p member _ => ⟨p, member, rfl⟩

theorem spawn (attended : w.Attended b) (target : Target) (job : Job) :
    (w.spawn target job).Attended b := by
  have spawns := spawns_spawn w target job
  refine attended.transfer (service_spawn ..) ?_ fun p member known => ?_
  · cases spawns with
    | queued _ _ _ told | dropped _ _ _ told => exact told.dealings
  · cases spawns with
    | queued _ dispatch =>
      rw [dispatch] at member
      rcases List.mem_cons.1 ((Dispatch.places_push ..).subset member) with rfl | old
      · cases known
      · exact ⟨p, old, rfl⟩
    | dropped _ dispatch => exact ⟨p, dispatch ▸ member, rfl⟩

/-- A call takes the next reply for its task, wherever the task goes with it. -/
theorem called (attended : w.Attended b) (call : Call) {task : TaskRef} {matter : Matter}
    {reply : Reply} {service : Service}
    (asks : (Occurrence.called w.running call).dealing? = some (.asked task matter))
    (takes : w.service.Takes matter reply service)
    (away : ∀ p ∈ w.dispatch.places, p.task.id ≠ task) :
    ({ w.call call with service } : World).Attended b ∧
      b.reply? task ({ w.call call with service } : World).dealings = some (matter, reply) := by
  have dealings : ({ w.call call with service } : World).dealings =
      .asked task matter :: w.dealings := List.filterMap_cons_some asks
  have next : reply = (b.script matter).getD (w.dealings.countP (·.asks matter)) {} := by
    rw [takes.reply, attended.scripts, Service.first, List.headD_eq_head?_getD, List.head?_drop,
      List.getD_eq_getElem?_getD]
  refine ⟨⟨fun other => ?_, ?_, fun p member verdict known => ?_, fun answeree => ?_⟩, ?_⟩
  · rw [dealings]
    by_cases own : other = matter
    · rw [own, takes.own, attended.scripts, List.tail_drop,
        List.countP_cons_of_pos (by simp [Dealing.asks])]
    · rw [takes.others other own, attended.scripts,
        List.countP_cons_of_neg (by simpa [Dealing.asks] using Ne.symm own)]
  · rw [dealings]
    exact takes.numbers.trans attended.numbers
  · rw [dealings, Service.reply?, if_neg (Ne.symm (away p member))]
    exact attended.waits p member verdict known
  · rw [dealings]
    exact attended.answers answeree
  · rw [dealings, Service.reply?, if_pos rfl, next]

theorem answered (attended : w.Attended b) {task : TaskRef} {matter : Matter} {reply : Reply}
    {result : Except Error (Option SessionId)} {service : Service}
    (asked : b.reply? task w.dealings = some (matter, reply))
    (gives : w.service.Gives matter reply.verdict result service) :
    (({ w with service } : World).emit (.answered task result)).Attended b := by
  have dealings : (({ w with service } : World).emit (.answered task result)).dealings =
      .answered task result :: w.dealings := rfl
  refine ⟨fun other => ?_, ?_, fun p member verdict known => ?_, fun answeree => ?_⟩
  · rw [dealings]
    exact (gives.scripts other).trans (attended.scripts other)
  · rw [dealings, Service.numbered, asked]
    refine gives.numbers.trans ?_
    rw [attended.numbers, UInt32.add_assoc, UInt32.ofNat_add]
    simp only [Option.any_some]
    split <;> rfl
  · rw [dealings]
    exact attended.waits p member verdict known
  · rw [dealings, Dealing.result?, Service.answer?]
    split
    · rename_i own
      rw [← own, asked, gives.result, attended.numbers]
      rfl
    · exact attended.answers answeree

theorem answerStart (attended : w.Attended b) {task : Task} {request : Request} {reply : Reply}
    (asked : b.reply? task.id w.dealings = some (.start request.config.kind, reply)) :
    (w.answerStart task request reply.verdict).1.Attended b := by
  have answered := attended.answered asked (w.service.gives_answerStart _ reply.verdict)
  unfold World.answerStart
  rcases served : w.service.answerStart reply.verdict with ⟨result, service⟩
  rw [served] at answered
  cases result with
  | ok session =>
    let started : Started := ⟨request.client, session, request.config.kind⟩
    have logged := answered.emit (o := .logged (.discoveryStarted started)) rfl
    exact (logged.emit rfl).unfiled (unfiled_conveyOutcome ..)
  | error error =>
    have logged := answered.emit
      (o := .logged (.discoveryFailed request.client request.config.kind error)) rfl
    exact (logged.emit rfl).unfiled (unfiled_conveyOutcome ..)

theorem answerDetach (attended : w.Attended b) {task : Task} (client : ClientId) {reply : Reply}
    (asked : b.reply? task.id w.dealings = some (.detach, reply)) :
    (w.answerDetach task client reply.verdict).Attended b := by
  have answered := attended.answered asked (w.service.gives_answerDisconnect reply.verdict)
  unfold World.answerDetach
  cases served : Service.answerDisconnect reply.verdict with
  | ok done =>
    rw [served] at answered
    exact answered.emit (o := .logged (.clientDetached task.id client)) rfl
  | error error =>
    rw [served] at answered
    exact answered.emit (o := .logged (.detachFailed task.id client error)) rfl

theorem suspend (attended : w.Attended b) (gate : Name) (target : Target) {task : Task}
    {matter : Matter} {reply : Reply} (job : task.job.matter? = some matter)
    (asked : b.reply? task.id w.dealings = some (matter, reply)) :
    (w.suspend gate target task reply.verdict).Attended b where
  scripts := attended.scripts
  numbers := attended.numbers
  waits p member verdict known := by
    rcases List.mem_cons.1 ((Dispatch.places_suspend ..).subset member) with rfl | old
    · cases known
      exact ⟨matter, reply.gate, job, asked⟩
    · exact attended.waits p old verdict known
  answers := attended.answers

/-- A task that is run calls the service, or is answered what it was to get. -/
theorem runTask (attended : w.Attended b) (target : Target) {task : Task}
    (away : ∀ p ∈ w.dispatch.places, p.task.id ≠ task.id)
    (waits : ∀ verdict, task.verdict = some verdict → ∃ matter gate,
      task.job.matter? = some matter ∧ b.reply? task.id w.dealings = some (matter, ⟨gate, verdict⟩)) :
    (w.runTask target task).1.Attended b := by
  unfold World.runTask
  split
  · rename_i request job _
    obtain ⟨called, asked⟩ := attended.called (.start task.id request.client request.config) rfl
      (w.service.takes_takeStart request.config.kind) away
    unfold startCall
    simp only
    split
    · exact called.suspend _ target (by rw [job]; rfl) asked
    · exact called.answerStart asked
  · rename_i request verdict job known
    obtain ⟨matter, gate, own, asked⟩ := waits verdict known
    rw [job] at own
    cases own
    exact attended.answerStart asked
  · rename_i client job _
    obtain ⟨called, asked⟩ := attended.called (.detach task.id client) rfl
      w.service.takes_takeDisconnect away
    unfold detachCall
    simp only
    split
    · exact called.suspend _ target (by rw [job]; rfl) asked
    · exact called.answerDetach client asked
  · rename_i client verdict job known
    obtain ⟨matter, gate, own, asked⟩ := waits verdict known
    rw [job] at own
    cases own
    exact attended.answerDetach client asked
  · exact (attended.emit rfl).unfiled (unfiled_conveyOutcome ..)
  · exact (attended.emit rfl).unfiled (unfiled_conveyOutcome ..)
  · exact attended.emit rfl

theorem registryRequest (attended : w.Attended b) (origin : Option SessionRef) (request : Request)
    (target : Target) : (w.registryRequest origin request target).Attended b := by
  have received := attended.emit (o := .received origin w.running (.request w.nextTask request
    target (w.rejection? request.client request.config))) rfl
  unfold World.registryRequest
  simp only
  split
  · exact (received.emit rfl).spawn ..
  · exact received.spawn ..

theorem registryDisconnect (attended : w.Attended b) (origin : Option SessionRef)
    (client : ClientId) (token : Token) : (w.registryDisconnect origin client token).Attended b := by
  have received (task : Option TaskRef) :
      (w.emit (.received origin w.running (.disconnect client token task))).Attended b :=
    attended.emit rfl
  unfold World.registryDisconnect
  simp only
  split
  · exact (received none).emit rfl
  · split
    · refine spawn ?_ ..
      exact (received _).transfer rfl rfl fun p member _ => ⟨p, member, rfl⟩
    · exact (received none).emit rfl

end World.Attended

namespace World

variable {b : Service} {w next : World}

theorem Attended.transition {pushed : List Frame} (attended : w.Attended b) (ledger : w.Ledger)
    (transition : w.Transition next pushed) : next.Attended b := by
  cases transition.taskChange with
  | idle unfiled => exact attended.unfiled unfiled
  | attached client session token dispatch _ _ told service =>
    exact attended.transfer service told.dealings fun p member _ => ⟨p, dispatch ▸ member, rfl⟩
  | requested before origin request target approach same =>
    rw [same, managerRequest, approach.manager, ledger.registry]
    exact (attended.unfiled approach.unfiled).registryRequest ..
  | disconnected before origin client token approach same =>
    rw [same, managerDisconnect, approach.manager, ledger.registry]
    exact (attended.unfiled approach.unfiled).registryDisconnect ..
  | spawned on tag same =>
    rw [same]
    exact attended.spawn ..
  | ran before target task queue _ popped unfiled _ _ _ same =>
    have taken : ({ w with dispatch := w.dispatch.setQueue target queue } : World).Attended b := by
      refine attended.transfer rfl rfl fun p member _ => ⟨p, ?_, rfl⟩
      exact (Dispatch.places_pop popped).symm.subset (List.mem_cons_of_mem _ member)
    rw [same]
    refine (taken.unfiled unfiled).runTask target (unfiled.dispatch ▸ ledger.away popped) ?_
    rw [unfiled.told.dealings]
    exact attended.waits ⟨target, none, task⟩
      ((Dispatch.places_pop popped).symm.subset List.mem_cons_self)
  | opened gate same =>
    rw [same]
    refine attended.transfer rfl rfl fun p member _ => ?_
    obtain ⟨q, old, rfl⟩ := List.mem_map.1 ((Dispatch.places_release ..).subset member)
    refine ⟨q, old, ?_⟩
    unfold Place.wake
    split <;> rfl
  | shut target same =>
    obtain ⟨dispatch, _, told⟩ := filed_discards (w.dispatch.shutdown target).1
      { w with dispatch := (w.dispatch.shutdown target).2 }
    rw [same]
    refine attended.transfer (service_discards ..) ?_ fun p member _ => ⟨p, ?_, rfl⟩
    · refine told.dealings.trans ?_
      rw [List.filterMap_eq_nil_iff.2]
      · rfl
      · simp [Occurrence.dealing?]
    · rw [World.shutdown, dispatch, (w.dispatch.places_shutdown target).1] at member
      exact (List.mem_filter.1 member).1

end World

theorem Event.ofStarted_eq_published {started other : Started} :
    ofStarted started = .publishStarted other ↔ other.kind = .publish ∧ other = started := by
  rcases started with ⟨client, session, _ | _⟩
  · simp only [ofStarted, publishStarted.injEq]
    exact ⟨fun same => ⟨same ▸ rfl, same.symm⟩, fun ⟨_, same⟩ => same.symm⟩
  · simp only [ofStarted, reduceCtorEq, false_iff]
    rintro ⟨kind, rfl⟩
    cases kind

theorem Event.ofStarted_eq_subscribed {started other : Started} :
    ofStarted started = .subscribeStarted other ↔ other.kind = .subscribe ∧ other = started := by
  rcases started with ⟨client, session, _ | _⟩
  · simp only [ofStarted, reduceCtorEq, false_iff]
    rintro ⟨kind, rfl⟩
    cases kind
  · simp only [ofStarted, subscribeStarted.injEq]
    exact ⟨fun same => ⟨same ▸ rfl, same.symm⟩, fun ⟨_, same⟩ => same.symm⟩

namespace Filing

structure Starts (f : Filing) (answer : Option (Except Error (Option SessionId)))
    (started : Started) : Prop where
  admitted : f.rejection = none
  client : started.client = f.request.client
  kind : started.kind = f.request.config.kind
  session : answer = some (.ok (some started.session))

/-- What the callback of a request is to be told, given what the service answers to its task. -/
structure Due (f : Filing) (answer : Option (Except Error (Option SessionId))) (event : Event) :
    Prop where
  failed : event = .configFailed ↔ f.rejection.isSome = true ∨ ∃ error, answer = some (.error error)
  published : ∀ started, event = .publishStarted started ↔
    started.kind = .publish ∧ f.Starts answer started
  subscribed : ∀ started, event = .subscribeStarted started ↔
    started.kind = .subscribe ∧ f.Starts answer started

variable {f : Filing} {closed : Bool} {stage : Stage} {places : List Place}
  {record : List Occurrence}

theorem due_failed {answer : Option (Except Error (Option SessionId))}
    (failed : f.rejection.isSome = true ∨ ∃ error, answer = some (.error error)) :
    f.Due answer .configFailed := by
  have never (started : Started) : ¬ f.Starts answer started := by
    intro starts
    rcases failed with rejected | ⟨error, answered⟩
    · rw [starts.admitted] at rejected
      cases rejected
    · rw [starts.session] at answered
      cases answered
  exact ⟨iff_of_true rfl failed, fun started => iff_of_false nofun fun due => never started due.2,
    fun started => iff_of_false nofun fun due => never started due.2⟩

theorem starts_iff (admitted : f.rejection = none) {session : SessionId} {started : Started} :
    f.Starts (some (.ok (some session))) started ↔
      started = ⟨f.request.client, session, f.request.config.kind⟩ := by
  constructor
  · rintro ⟨_, client, kind, answered⟩
    cases started
    cases answered
    cases client
    cases kind
    rfl
  · rintro rfl
    exact ⟨admitted, rfl, rfl, rfl⟩

theorem due_outcome (admitted : f.rejection = none) (result : Except Error SessionId) :
    f.Due (some (result.map some)) (f.request.outcome result) := by
  cases result with
  | error error => exact due_failed (.inr ⟨error, rfl⟩)
  | ok session =>
    change f.Due (some (.ok (some session)))
      (.ofStarted ⟨f.request.client, session, f.request.config.kind⟩)
    refine ⟨iff_of_false ?_ ?_, fun started => ?_, fun started => ?_⟩
    · cases f.request.config.kind <;> nofun
    · simp [admitted]
    · rw [starts_iff admitted]
      exact Event.ofStarted_eq_published
    · rw [starts_iff admitted]
      exact Event.ofStarted_eq_subscribed

/-- A request whose callback has been told has been answered, or it was rejected. -/
theorem At.due (stands : f.At closed stage places record) {running : Option Target}
    {listener : Listener} {event : Event}
    (told : .invoked (some f.task) running listener event ∈ record) :
    f.Due (Dealing.result? f.task (record.filterMap Occurrence.dealing?)) event := by
  cases stands with
  | refused rejected =>
    cases List.mem_singleton.1 told
    exact due_failed (.inl rejected)
  | @answered admitted result calls called =>
    have outcome : event = f.request.outcome result := by
      cases called with
      | atOnce | later =>
        simp only [call, List.mem_cons, Occurrence.invoked.injEq, reduceCtorEq, List.not_mem_nil,
          or_false, true_and] at told
        exact told.2.2
    have answered : Dealing.result? f.task ((Occurrence.invoked (some f.task) (some f.target)
        f.request.listener (f.request.outcome result) :: .answered f.task (result.map some) ::
          calls).filterMap Occurrence.dealing?) = some (result.map some) := if_pos rfl
    rw [answered, outcome]
    exact due_outcome admitted result
  | queued => cases told
  | suspended | woken | discarded | abandoned => simp [call] at told

end Filing

namespace Run

theorem Reachable.attended {service : Service} {r : Run}
    (reachable : Reachable .registry service r) : r.world.Attended service := by
  induction reachable with
  | start => exact World.attended_initial _ service
  | next earlier moves ih =>
    obtain ⟨_, _, transition, _⟩ := moves.transition
    exact ih.transition earlier.ledger transition

def waiting : Service :=
  { attach := [{ verdict := .number 7 }]
    publish := [{ verdict := .number 3 }, { gate := some "gate" }] }

end Run

end Proximity
