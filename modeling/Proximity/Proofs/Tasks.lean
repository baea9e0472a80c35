import Proximity.Proofs.Places
import Proximity.Proofs.Sessions

/-! Which transitions concern tasks and the manager that makes them. Most file nothing: they queue,
run and drop no task, put no request and no disconnect to the manager, and leave its clients alone.
-/

set_option autoImplicit false

namespace Proximity

def Occurrence.task? : Occurrence → Option TaskRef
  | .called _ (.start task _ _) | .called _ (.detach task _) | .suspended task _ | .answered task _
  | .invoked (some task) _ _ _ | .discarded task => some task
  | _ => none

structure Filing where
  task : TaskRef
  request : Request
  target : Target
  rejection : Option Error

def Occurrence.filing? : Occurrence → Option Filing
  | .received _ _ (.request task request target rejection) =>
    some ⟨task, request, target, rejection⟩
  | _ => none

structure Release where
  task : TaskRef
  client : ClientId

def Occurrence.release? : Occurrence → Option Release
  | .received _ _ (.disconnect client _ (some task)) => some ⟨task, client⟩
  | _ => none

inductive Commission where
  | request (filing : Filing)
  | release (release : Release)

def Occurrence.commission? : Occurrence → Option Commission
  | .received _ _ (.request task request target rejection) =>
    some (.request ⟨task, request, target, rejection⟩)
  | .received _ _ (.disconnect client _ (some task)) => some (.release ⟨task, client⟩)
  | _ => none

namespace Commission

def filing? : Commission → Option Filing
  | .request f => some f
  | .release _ => none

def release? : Commission → Option Release
  | .request _ => none
  | .release c => some c

def task : Commission → TaskRef
  | .request f => f.task
  | .release c => c.task

theorem filings_sublist (commissions : List Commission) :
    ((commissions.filterMap filing?).map (·.task)).Sublist (commissions.map task) := by
  induction commissions with
  | nil => exact .slnil
  | cons c rest ih =>
    cases c with
    | request f => exact ih.cons_cons f.task
    | release c => exact ih.cons c.task

theorem releases_sublist (commissions : List Commission) :
    ((commissions.filterMap release?).map (·.task)).Sublist (commissions.map task) := by
  induction commissions with
  | nil => exact .slnil
  | cons c rest ih =>
    cases c with
    | request f => exact ih.cons f.task
    | release c => exact ih.cons_cons c.task

end Commission

def Occurrence.report? : Occurrence → Option TaskRef
  | .logged (.clientDetached task _) | .logged (.detachFailed task _ _) => some task
  | _ => none

def Occurrence.about? (o : Occurrence) : Option TaskRef := o.task?.or o.report?

/-- Whether a client is attached, a request or a disconnect reaches the manager, or a request is
rejected. -/
def Occurrence.isRuling : Occurrence → Bool
  | .attached .. | .received _ _ (.disconnect ..) | .received _ _ (.request ..)
  | .logged (.requestRejected ..) => true
  | _ => false

def Occurrence.isFiled (o : Occurrence) : Bool := o.about?.isSome || o.isRuling

theorem Occurrence.filing?_eq (o : Occurrence) :
    o.filing? = o.commission?.bind Commission.filing? := by
  rcases o with _ | _ | _ | _ | _ | ⟨_, _, _ | _ | _⟩ | _ | _ | _ | _ | _ | _ | _
  case received.disconnect client token task => cases task <;> rfl
  all_goals rfl

theorem Occurrence.release?_eq (o : Occurrence) :
    o.release? = o.commission?.bind Commission.release? := by
  rcases o with _ | _ | _ | _ | _ | ⟨_, _, _ | _ | _⟩ | _ | _ | _ | _ | _ | _ | _
  case received.disconnect client token task => cases task <;> rfl
  all_goals rfl

theorem Occurrence.eq_received_of_request {o : Occurrence} {f : Filing}
    (read : o.commission? = some (.request f)) : ∃ origin running,
      o = .received origin running (.request f.task f.request f.target f.rejection) := by
  rcases o with _ | _ | _ | _ | _ | ⟨_, _, _ | _ | _⟩ | _ | _ | _ | _ | _ | _ | _
  case received.disconnect client token task => cases task <;> cases read
  case received.request =>
    cases read
    exact ⟨_, _, rfl⟩
  all_goals cases read

theorem Occurrence.eq_received_of_release {o : Occurrence} {c : Release}
    (read : o.commission? = some (.release c)) : ∃ origin running token,
      o = .received origin running (.disconnect c.client token (some c.task)) := by
  rcases o with _ | _ | _ | _ | _ | ⟨_, _, _ | _ | _⟩ | _ | _ | _ | _ | _ | _ | _
  case received.disconnect client token task =>
    cases task <;> cases read
    exact ⟨_, _, _, rfl⟩
  case received.request => cases read
  all_goals cases read

theorem Occurrence.commission?_of_isRuling {o : Occurrence} (other : o.isRuling = false) :
    o.commission? = none := by
  rcases o with _ | _ | _ | _ | _ | ⟨_, _, _ | _ | _⟩ | _ | _ | _ | _ | _ | _ | _
  case received.disconnect | received.request => cases other
  all_goals rfl

theorem Occurrence.about?_of_isRuling {o : Occurrence} (ruling : o.isRuling = true) :
    o.about? = none := by
  cases o with
  | attached | received => rfl
  | logged notice => cases notice <;> first | rfl | cases ruling
  | _ => cases ruling

theorem Occurrence.isRuling_of_isFiled {o : Occurrence} (other : o.isFiled = false) :
    o.isRuling = false :=
  (Bool.or_eq_false_iff.1 other).2

def Service.forTasks (b : Service) : Service := { b with attach := [], nextClient := 0 }

theorem Service.forTasks_answerAttach (b : Service) (verdict : Verdict) :
    (b.takeAttach.2.answerAttach verdict).2.forTasks = b.forTasks := by
  cases verdict with
  | failure | number | next => rfl

namespace World

def record (w : World) (task : TaskRef) : List Occurrence :=
  w.trace.filter fun o => o.task? = some task

def placesOf (w : World) (task : TaskRef) : List Place :=
  w.dispatch.places.filter (·.task.id = task)

/-- Everything that tells of a task, its reports as well, the latest first. -/
def account (w : World) (task : TaskRef) : List Occurrence :=
  w.trace.filter fun o => o.about? = some task

def filings (w : World) : List Filing := w.trace.filterMap Occurrence.filing?

def releases (w : World) : List Release := w.trace.filterMap Occurrence.release?

def commissions (w : World) : List Commission := w.trace.filterMap Occurrence.commission?

theorem filings_eq (w : World) : w.filings = w.commissions.filterMap Commission.filing? := by
  rw [filings, commissions, List.filterMap_filterMap]
  exact congrArg (List.filterMap · w.trace) (funext Occurrence.filing?_eq)

theorem releases_eq (w : World) : w.releases = w.commissions.filterMap Commission.release? := by
  rw [releases, commissions, List.filterMap_filterMap]
  exact congrArg (List.filterMap · w.trace) (funext Occurrence.release?_eq)

theorem mem_filings {w : World} {f : Filing} : f ∈ w.filings ↔ .request f ∈ w.commissions := by
  rw [filings_eq, List.mem_filterMap]
  constructor
  · rintro ⟨c, member, read⟩
    cases c with
    | request other =>
      obtain rfl : other = f := Option.some.inj read
      exact member
    | release => cases read
  · exact fun member => ⟨_, member, rfl⟩

theorem mem_releases {w : World} {c : Release} : c ∈ w.releases ↔ .release c ∈ w.commissions := by
  rw [releases_eq, List.mem_filterMap]
  constructor
  · rintro ⟨made, member, read⟩
    cases made with
    | request => cases read
    | release other =>
      obtain rfl : other = c := Option.some.inj read
      exact member
  · exact fun member => ⟨_, member, rfl⟩

theorem record_eq (w : World) (task : TaskRef) :
    w.record task = (w.account task).filter fun o => o.task?.isSome := by
  rw [record, account, List.filter_filter]
  apply congrArg (List.filter · w.trace)
  funext o
  cases own : o.task? with
  | none => simp
  | some other => simp [Occurrence.about?, own]

variable {w next last : World}

theorem Told.account {facts : List Occurrence} (told : w.Told Occurrence.isFiled next facts)
    (task : TaskRef) :
    next.account task = (facts.filter fun o => o.about? = some task) ++ w.account task := by
  obtain ⟨happened, trace, rfl⟩ := told
  -- What tells of the task is filed, so filtering twice is filtering once.
  have kept : ((happened.filter Occurrence.isFiled).filter fun o => o.about? = some task) =
      happened.filter fun o => o.about? = some task := by
    rw [List.filter_filter]
    apply congrArg (List.filter · happened)
    funext o
    by_cases own : o.about? = some task
    · simp [own, Occurrence.isFiled]
    · simp [own]
  rw [World.account, trace, List.filter_append, kept]
  rfl

theorem Told.commissions {facts : List Occurrence} (told : w.Told Occurrence.isFiled next facts) :
    next.commissions = facts.filterMap Occurrence.commission? ++ w.commissions :=
  told.filterMap fun _ other =>
    Occurrence.commission?_of_isRuling (Occurrence.isRuling_of_isFiled other)

theorem Told.filings {facts : List Occurrence} (told : w.Told Occurrence.isFiled next facts) :
    next.filings = facts.filterMap Occurrence.filing? ++ w.filings := by
  refine told.filterMap fun o other => ?_
  rw [Occurrence.filing?_eq,
    Occurrence.commission?_of_isRuling (Occurrence.isRuling_of_isFiled other)]
  rfl

structure Unfiled (w next : World) : Prop where
  dispatch : next.dispatch = w.dispatch
  tasksMade : next.tasksMade = w.tasksMade
  clients : next.clients = w.clients
  service : next.service.forTasks = w.service.forTasks
  told : w.Told Occurrence.isFiled next []

namespace Unfiled

theorem refl (w : World) : w.Unfiled w := ⟨rfl, rfl, rfl, rfl, .refl w _⟩

theorem trans (first : w.Unfiled next) (second : next.Unfiled last) : w.Unfiled last :=
  ⟨second.dispatch.trans first.dispatch, second.tasksMade.trans first.tasksMade,
    second.clients.trans first.clients, second.service.trans first.service,
    first.told.trans second.told⟩

theorem silent (dispatch : next.dispatch = w.dispatch) (tasksMade : next.tasksMade = w.tasksMade)
    (clients : next.clients = w.clients) (service : next.service.forTasks = w.service.forTasks)
    (trace : next.trace = w.trace) : w.Unfiled next :=
  ⟨dispatch, tasksMade, clients, service, (Told.refl w _).of_trace trace⟩

theorem noting (unfiled : w.Unfiled next) {o : Occurrence} (other : o.isFiled = false) :
    w.Unfiled (next.emit o) :=
  ⟨unfiled.dispatch, unfiled.tasksMade, unfiled.clients, unfiled.service, unfiled.told.skip other⟩

theorem emit {o : Occurrence} (other : o.isFiled = false) : w.Unfiled (w.emit o) :=
  (refl w).noting other

theorem placesOf (unfiled : w.Unfiled next) (task : TaskRef) :
    next.placesOf task = w.placesOf task := by
  rw [World.placesOf, World.placesOf, unfiled.dispatch]

theorem account (unfiled : w.Unfiled next) (task : TaskRef) :
    next.account task = w.account task :=
  unfiled.told.account task

theorem commissions (unfiled : w.Unfiled next) : next.commissions = w.commissions :=
  unfiled.told.commissions

theorem filings (unfiled : w.Unfiled next) : next.filings = w.filings :=
  unfiled.told.filings

end Unfiled

/-! ### Transitions that file nothing -/

theorem unfiled_releaseChannel (w : World) (channel : ChannelRef) :
    w.Unfiled (w.releaseChannel channel) := by
  unfold releaseChannel
  split
  · exact .refl w
  · refine Unfiled.noting ?_ rfl
    exact .silent rfl rfl rfl rfl rfl

theorem unfiled_releaseListener (w : World) (listener : Listener) :
    w.Unfiled (w.releaseListener listener) := by
  cases listener with
  | silent => exact .refl w
  | channel sender => exact unfiled_releaseChannel w sender.channel
  | record tag steps => exact .refl w

theorem unfiled_sendEvent (w : World) (channel : ChannelRef) (event : Event) :
    w.Unfiled (w.sendEvent channel event) := by
  unfold sendEvent
  split
  · split
    · exact .silent rfl rfl rfl rfl rfl
    · exact .emit rfl
  · exact .refl w

theorem unfiled_invoke (w : World) (task : Option TaskRef) (listener : Listener) (event : Event) :
    (w.emit (.invoked task w.running listener event)).Unfiled (w.invoke task listener event).1 := by
  cases listener with
  | silent => exact .refl _
  | channel sender => exact unfiled_sendEvent ..
  | record tag steps => exact .refl _

theorem unfiled_conveyOutcome (w : World) (task : Task) (listener : Listener) (event : Event) :
    (w.emit (.invoked (some task.id) w.running listener event)).Unfiled
      (w.conveyOutcome task listener event).1 :=
  (unfiled_invoke w (some task.id) listener event).trans (unfiled_releaseListener ..)

theorem unfiled_discard (w : World) (task : Task) :
    (w.emit (.discarded task.id)).Unfiled (w.discard task) := by
  unfold discard
  simp only
  split
  · exact unfiled_releaseListener ..
  · exact .refl _

theorem unfiled_beginTask (w : World) (task : Task) : w.Unfiled (w.beginTask task) := by
  unfold beginTask
  simp only
  split
  · exact .silent rfl rfl rfl rfl rfl
  · exact .silent rfl rfl rfl rfl rfl

theorem unfiled_tokenNamed (w : World) (name : Name) : w.Unfiled (w.tokenNamed name).2 := by
  rw [tokenNamed_eq]
  exact .silent rfl rfl rfl rfl rfl

theorem unfiled_makeSession {as : Name} {client : ClientId} {token : Name} {on : Option Target}
    {effect : Effect} (done : w.makeSession as client token on = some effect) :
    w.Unfiled effect.world := by
  obtain ⟨_, _, made⟩ := makeSession_eq done
  rw [made]
  apply (unfiled_tokenNamed w token).trans
  exact ⟨rfl, rfl, rfl, rfl, [_], rfl, rfl⟩

theorem unfiled_pollChannel {receiver : Name} {effect : Effect}
    (done : w.pollChannel receiver = some effect) : w.Unfiled effect.world := by
  simp only [pollChannel, Option.bind_eq_bind, Option.bind_eq_some_iff] at done
  obtain ⟨⟨channel, c⟩, _, done⟩ := done
  split at done
  · cases done
    refine Unfiled.noting ?_ rfl
    exact .silent rfl rfl rfl rfl rfl
  · cases done
    refine Unfiled.noting ?_ rfl
    unfold spend
    split
    · exact .silent rfl rfl rfl rfl rfl
    · exact .silent rfl rfl rfl rfl rfl

end World

/-! ### Running a task -/

def Request.outcome (request : Request) : Except Error SessionId → Event
  | .ok session => .ofStarted ⟨request.client, session, request.config.kind⟩
  | .error _ => .configFailed

/-- The call that a task makes on the service, unless it has made it before. -/
inductive Task.Calls (task : Task) (running : Option Target) : List Occurrence → Prop where
  | before (verdict : task.verdict.isSome = true) : task.Calls running []
  | start {request : Request} (job : task.job = .start request) (new : task.verdict = none) :
      task.Calls running [.called running (.start task.id request.client request.config)]
  | detach {client : ClientId} (job : task.job = .detach client) (new : task.verdict = none) :
      task.Calls running [.called running (.detach task.id client)]

def Notice.ofDetach (task : TaskRef) (client : ClientId) : Except Error Unit → Notice
  | .ok _ => .clientDetached task client
  | .error error => .detachFailed task client error

/-- How a task ends: it tells its callback the outcome of a request, or one that was settled before;
it reports how the service took a disconnect; or there is nothing to tell. -/
inductive Task.Ends (task : Task) (running : Option Target) : List Occurrence → Prop where
  | answered {request : Request} {calls : List Occurrence} (job : task.job = .start request)
      (result : Except Error SessionId) (called : task.Calls running calls) :
      task.Ends running
        (.invoked (some task.id) running request.listener (request.outcome result) ::
          .answered task.id (result.map some) :: calls)
  | refused {listener : Listener} (job : task.job = .refuse listener) :
      task.Ends running [.invoked (some task.id) running listener .configFailed]
  | announced {started : Started} {listener : Listener}
      (job : task.job = .announce started listener) :
      task.Ends running [.invoked (some task.id) running listener (.ofStarted started)]
  | detached {client : ClientId} {calls : List Occurrence} (job : task.job = .detach client)
      (result : Except Error Unit) (called : task.Calls running calls) :
      task.Ends running (.logged (.ofDetach task.id client result) ::
        .answered task.id (result.map fun _ => none) :: calls)
  | marked {tag : String} (job : task.job = .mark tag) : task.Ends running []

theorem Task.Calls.own {task : Task} {running : Option Target} {facts : List Occurrence}
    (called : task.Calls running facts) :
    ∀ o ∈ facts, o.about? = some task.id ∧ o.commission? = none ∧
      ∀ called running listener event, o ≠ .invoked called running listener event := by
  cases called with
  | before => simp
  | start | detach => simp [Occurrence.about?, Occurrence.task?, Occurrence.commission?]

theorem Notice.about?_ofDetach (task : TaskRef) (client : ClientId) (result : Except Error Unit) :
    (Occurrence.logged (.ofDetach task client result)).about? = some task := by
  cases result <;> rfl

/-- What happens to a task when it ends concerns it alone, and tells its own callback. -/
theorem Task.Ends.own {task : Task} {running : Option Target} {facts : List Occurrence}
    (ends : task.Ends running facts) :
    ∀ o ∈ facts, o.about? = some task.id ∧ o.commission? = none ∧
      ∀ called running listener event, o = .invoked called running listener event →
        task.job.listener? = some listener := by
  have ofCalls {calls : List Occurrence} (called : task.Calls running calls) (o : Occurrence)
      (member : o ∈ calls) : o.about? = some task.id ∧ o.commission? = none ∧
        ∀ called running listener event, o = .invoked called running listener event →
          task.job.listener? = some listener := by
    obtain ⟨own, other, quiet⟩ := called.own o member
    exact ⟨own, other, fun _ _ _ _ same => absurd same (quiet _ _ _ _)⟩
  intro o member
  cases ends with
  | @answered request calls job result called =>
    rcases List.mem_cons.1 member with rfl | member
    · refine ⟨rfl, rfl, ?_⟩
      rintro _ _ _ _ ⟨rfl⟩
      rw [job]
      rfl
    · rcases List.mem_cons.1 member with rfl | member
      · exact ⟨rfl, rfl, by simp⟩
      · exact ofCalls called o member
  | refused job | announced job =>
    rw [List.mem_singleton.1 member]
    refine ⟨rfl, rfl, ?_⟩
    rintro _ _ _ _ ⟨rfl⟩
    rw [job]
    rfl
  | @detached client calls job result called =>
    rcases List.mem_cons.1 member with rfl | member
    · exact ⟨Notice.about?_ofDetach .., rfl, by simp⟩
    · rcases List.mem_cons.1 member with rfl | member
      · exact ⟨rfl, rfl, by simp⟩
      · exact ofCalls called o member
  | marked => cases member

namespace World

variable {w next : World}

inductive Runs (w : World) (target : Target) (task : Task) (next : World) : Prop where
  | ended (facts : List Occurrence) (ends : task.Ends w.running facts)
      (dispatch : next.dispatch = w.dispatch) (tasksMade : next.tasksMade = w.tasksMade)
      (told : w.Told Occurrence.isFiled next facts)
  | suspended (gate : Name) (verdict : Verdict) (calls : List Occurrence)
      (called : task.Calls w.running calls) (new : task.verdict = none)
      (dispatch : next.dispatch = { w.dispatch with
        waiting := w.dispatch.waiting ++ [⟨gate, target, { task with verdict := some verdict }⟩] })
      (tasksMade : next.tasksMade = w.tasksMade)
      (told : w.Told Occurrence.isFiled next (.suspended task.id gate :: calls))

theorem filed_answerStart (w : World) (task : Task) (request : Request) (verdict : Verdict) :
    ∃ result : Except Error SessionId,
      (w.answerStart task request verdict).1.dispatch = w.dispatch ∧
      (w.answerStart task request verdict).1.tasksMade = w.tasksMade ∧
      w.Told Occurrence.isFiled (w.answerStart task request verdict).1
        [.invoked (some task.id) w.running request.listener (request.outcome result),
          .answered task.id (result.map some)] := by
  -- Success and failure differ in the notice and the event alone.
  have conveyed (service : Service) (result : Except Error SessionId) {notice : Notice}
      (other : (Occurrence.logged notice).isFiled = false) :
      let before := (({ w with service } : World).emit (.answered task.id (result.map some))).log
        notice
      let after := (before.conveyOutcome task request.listener (request.outcome result)).1
      after.dispatch = w.dispatch ∧ after.tasksMade = w.tasksMade ∧
        w.Told Occurrence.isFiled after
          [.invoked (some task.id) w.running request.listener (request.outcome result),
            .answered task.id (result.map some)] := by
    intro before after
    have unfiled := unfiled_conveyOutcome before task request.listener (request.outcome result)
    refine ⟨unfiled.dispatch, unfiled.tasksMade, ?_⟩
    have answered : w.Told Occurrence.isFiled
        (({ w with service } : World).emit (.answered task.id (result.map some)))
        [.answered task.id (result.map some)] := ⟨[_], rfl, rfl⟩
    exact ((answered.skip other).emit rfl).trans unfiled.told
  unfold answerStart
  rcases w.service.answerStart verdict with ⟨answer, service⟩
  cases answer with
  | ok session => exact ⟨.ok session, conveyed service (.ok session) rfl⟩
  | error error => exact ⟨.error error, conveyed service (.error error) rfl⟩

theorem filed_answerDetach (w : World) (task : Task) (client : ClientId) (verdict : Verdict) :
    ∃ result : Except Error Unit,
      (w.answerDetach task client verdict).dispatch = w.dispatch ∧
      (w.answerDetach task client verdict).tasksMade = w.tasksMade ∧
      w.Told Occurrence.isFiled (w.answerDetach task client verdict)
        [.logged (.ofDetach task.id client result),
          .answered task.id (result.map fun _ => none)] := by
  unfold answerDetach
  cases Service.answerDisconnect verdict with
  | ok done => exact ⟨.ok done, rfl, rfl, [_, _], rfl, rfl⟩
  | error error => exact ⟨.error error, rfl, rfl, [_, _], rfl, rfl⟩

/-- The service is asked before anything else; what it answers may have to wait. -/
theorem runs_startCall (w : World) (target : Target) {task : Task} {request : Request}
    (job : task.job = .start request) (new : task.verdict = none) :
    w.Runs target task (w.startCall target task request).1 := by
  unfold startCall
  simp only
  split
  · rename_i gate _
    exact .suspended gate _ _ (.start job new) new rfl rfl ⟨[_, _], rfl, rfl⟩
  · obtain ⟨result, dispatch, tasksMade, told⟩ := filed_answerStart
      { w.call (.start task.id request.client request.config) with
        service := (w.service.takeStart request.config.kind).2 } task request _
    have called : w.Told Occurrence.isFiled
        { w.call (.start task.id request.client request.config) with
          service := (w.service.takeStart request.config.kind).2 }
        [.called w.running (.start task.id request.client request.config)] := ⟨[_], rfl, rfl⟩
    exact .ended _ (.answered job result (.start job new)) dispatch tasksMade (called.trans told)

theorem runs_detachCall (w : World) (target : Target) {task : Task} {client : ClientId}
    (job : task.job = .detach client) (new : task.verdict = none) :
    w.Runs target task (w.detachCall target task client) := by
  unfold detachCall
  simp only
  split
  · rename_i gate _
    exact .suspended gate _ _ (.detach job new) new rfl rfl ⟨[_, _], rfl, rfl⟩
  · obtain ⟨result, dispatch, tasksMade, told⟩ := filed_answerDetach
      { w.call (.detach task.id client) with service := w.service.takeDisconnect.2 } task client _
    -- The call is noted before the answer; the script has moved on in between.
    have called : w.Told Occurrence.isFiled
        { w.call (.detach task.id client) with service := w.service.takeDisconnect.2 }
        [.called w.running (.detach task.id client)] := ⟨[_], rfl, rfl⟩
    exact .ended _ (.detached job result (.detach job new)) dispatch tasksMade (called.trans told)

theorem runs_runTask (w : World) (target : Target) (task : Task) :
    w.Runs target task (w.runTask target task).1 := by
  unfold runTask
  split
  · rename_i request job new
    exact runs_startCall w target job new
  · rename_i request verdict job known
    obtain ⟨result, dispatch, tasksMade, told⟩ := filed_answerStart w task request verdict
    exact .ended _ (.answered job result (.before (by simp [known]))) dispatch tasksMade told
  · rename_i client job new
    exact runs_detachCall w target job new
  · rename_i client verdict job known
    obtain ⟨result, dispatch, tasksMade, told⟩ := filed_answerDetach w task client verdict
    exact .ended _ (.detached job result (.before (by simp [known]))) dispatch tasksMade told
  · rename_i listener job
    have unfiled := unfiled_conveyOutcome w task listener .configFailed
    exact .ended _ (.refused job) unfiled.dispatch unfiled.tasksMade
      (((Told.refl w _).emit rfl).trans unfiled.told)
  · rename_i started listener job
    have unfiled := unfiled_conveyOutcome w task listener (.ofStarted started)
    exact .ended _ (.announced job) unfiled.dispatch unfiled.tasksMade
      (((Told.refl w _).emit rfl).trans unfiled.told)
  · rename_i tag job
    exact .ended [] (.marked job) rfl rfl ((Told.refl w _).skip rfl)

/-! ### Making and dropping tasks -/

inductive Spawns (w : World) (target : Target) (job : Job) (next : World) : Prop where
  | queued (opened : (w.dispatch.queue target).closed = false)
      (dispatch : next.dispatch = w.dispatch.push w.running target { id := w.tasksMade, job })
      (tasksMade : next.tasksMade = w.tasksMade + 1) (told : w.Told Occurrence.isFiled next [])
  | dropped (closed : (w.dispatch.queue target).closed = true)
      (dispatch : next.dispatch = w.dispatch) (tasksMade : next.tasksMade = w.tasksMade + 1)
      (told : w.Told Occurrence.isFiled next [.discarded w.tasksMade])

theorem spawns_spawn (w : World) (target : Target) (job : Job) :
    w.Spawns target job (w.spawn target job) := by
  unfold spawn
  simp only
  split
  · rename_i closed
    have unfiled := unfiled_discard { w with tasksMade := w.tasksMade + 1 }
      { id := w.tasksMade, job }
    exact .dropped closed unfiled.dispatch unfiled.tasksMade
      ((Told.emit ((Told.refl w _).of_trace rfl) rfl).trans unfiled.told)
  · rename_i opened
    exact .queued (Bool.eq_false_iff.2 opened) rfl rfl ((Told.refl w _).of_trace rfl)

theorem service_spawn (w : World) (target : Target) (job : Job) :
    (w.spawn target job).service.forTasks = w.service.forTasks := by
  unfold spawn
  simp only
  split
  · exact (unfiled_discard _ _).service
  · rfl

theorem service_discards (tasks : List Task) (w : World) :
    (tasks.foldl discard w).service.forTasks = w.service.forTasks := by
  induction tasks generalizing w with
  | nil => rfl
  | cons task rest ih => exact (ih _).trans (unfiled_discard w task).service

theorem filed_discards (tasks : List Task) (w : World) :
    (tasks.foldl discard w).dispatch = w.dispatch ∧
      (tasks.foldl discard w).tasksMade = w.tasksMade ∧
      w.Told Occurrence.isFiled (tasks.foldl discard w)
        (tasks.map fun task => .discarded task.id).reverse := by
  induction tasks generalizing w with
  | nil => exact ⟨rfl, rfl, .refl w _⟩
  | cons task rest ih =>
    have unfiled := unfiled_discard w task
    obtain ⟨dispatch, tasksMade, told⟩ := ih (w.discard task)
    refine ⟨dispatch.trans unfiled.dispatch, tasksMade.trans unfiled.tasksMade, ?_⟩
    rw [List.map_cons, List.reverse_cons]
    exact (((Told.refl w _).emit rfl).trans unfiled.told).trans told

/-! ### What a transition is to tasks -/

/-- The way to a call on the manager: sessions, owners and tokens may change, and no task, no
request and no disconnect is concerned. -/
structure Approach (w before : World) : Prop where
  same : before = { w with
    sessions := before.sessions
    owners := before.owners
    tokens := before.tokens
    minted := before.minted
    trace := before.trace }
  told : w.Told Occurrence.isFiled before []

namespace Approach

variable {before : World}

theorem refl (w : World) : w.Approach w := ⟨rfl, .refl w _⟩

theorem noting (approach : w.Approach before) {o : Occurrence} (other : o.isFiled = false) :
    w.Approach (before.emit o) := by
  refine ⟨?_, approach.told.skip other⟩
  rw [approach.same]
  rfl

theorem unfiled (approach : w.Approach before) : w.Unfiled before :=
  ⟨by rw [approach.same], by rw [approach.same], by rw [approach.same], by rw [approach.same],
    approach.told⟩

theorem manager (approach : w.Approach before) : before.manager = w.manager := by
  rw [approach.same]

theorem running (approach : w.Approach before) : before.running = w.running := by
  rw [approach.same]

/-- On the way nobody comes or goes, so a request is judged there as at the start. -/
theorem rejection? (approach : w.Approach before) (client : ClientId) (config : Config) :
    before.rejection? client config = w.rejection? client config := by
  rw [approach.same]
  rfl

theorem terminate (approach : w.Approach before) (session : SessionRef) :
    w.Approach (before.terminate session) := by
  refine ⟨?_, approach.told.of_trace rfl⟩
  rw [approach.same]
  rfl

end Approach

inductive TaskChange (w next : World) : Prop where
  | idle (unfiled : w.Unfiled next)
  | attached (client : ClientId) (session : SessionRef) (token : Token)
      (dispatch : next.dispatch = w.dispatch) (tasksMade : next.tasksMade = w.tasksMade)
      (clients : next.clients = w.clients.insert client token)
      (told : w.Told Occurrence.isFiled next [.attached client session token])
      (service : next.service.forTasks = w.service.forTasks)
  /-- A request reaches the manager. -/
  | requested (before : World) (origin : Option SessionRef) (request : Request) (target : Target)
      (approach : w.Approach before)
      (same : next = (before.managerRequest origin request target).1)
  /-- A disconnect reaches the manager. -/
  | disconnected (before : World) (origin : Option SessionRef) (client : ClientId) (token : Token)
      (approach : w.Approach before)
      (same : next = (before.managerDisconnect origin client token).1)
  | spawned (on : Target) (tag : String) (same : next = w.spawn on (.mark tag))
  | ran (before : World) (target : Target) (task : Task) (queue : Queue)
      (running : w.running = some target)
      (popped : (w.dispatch.queue target).pop? = some (task, queue))
      (unfiled : ({ w with dispatch := w.dispatch.setQueue target queue } : World).Unfiled before)
      (still : before.running = w.running) (runs : before.Runs target task next)
      (aside : w.Aside next) (same : next = (before.runTask target task).1)
  | opened (gate : Name) (same : next = (w.openGate gate).world)
  | shut (target : Target) (same : next = w.shutdown target)

theorem Unfiled.taskChange (unfiled : w.Unfiled next) : w.TaskChange next := .idle unfiled

theorem unfiled_managerSpecifier (w : World) (origin : Option SessionRef) (client : ClientId)
    (role : Role) (peer token : Option Bytes) :
    w.Unfiled (w.managerSpecifier origin client role peer token).2.1 := by
  unfold managerSpecifier
  split
  · unfold registrySpecifier
    simp only
    split
    · split
      · exact .emit rfl
      · exact (Unfiled.emit rfl).noting rfl
    · exact (Unfiled.emit rfl).noting rfl
  · exact (Unfiled.emit rfl).noting rfl
  · refine Unfiled.trans (Unfiled.emit (o := .received origin w.running (.specifier client role peer
      token)) rfl) ?_
    exact .silent rfl rfl rfl rfl rfl

theorem taskChange_attach {as : Name} {effect : Effect} (done : w.attach as = some effect) :
    w.TaskChange effect.world := by
  have called : w.Unfiled (w.call .attach) := .emit rfl
  unfold attach at done
  simp only at done
  split at done
  · cases done
  · split at done
    · cases done
      exact .idle (called.trans (.silent rfl rfl rfl (Service.forTasks_answerAttach ..) rfl))
    · rename_i client _
      cases done
      exact .attached client w.sessions.length ⟨w.minted⟩ rfl rfl rfl ⟨[_, _, _, _], rfl, rfl⟩
        (Service.forTasks_answerAttach ..)

theorem taskChange_sessionRequest (w : World) (session : SessionRef) (config : Config)
    (listener : Listener) (on : Option Target) :
    w.TaskChange (w.sessionRequest session config listener on).1 := by
  unfold sessionRequest
  split
  · exact (Unfiled.refl w).taskChange
  · simp only
    split
    · exact (((Unfiled.emit rfl).noting rfl).trans (unfiled_releaseListener ..)).taskChange
    · exact .requested _ _ _ _ ((Approach.refl w).noting rfl) rfl

theorem unfiled_sessionSpecifier (w : World) (session : SessionRef) (role : Role)
    (peer token : Option Bytes) :
    w.Unfiled (w.sessionSpecifier session role peer token).2.1 := by
  unfold sessionSpecifier
  split
  · exact .refl w
  · simp only
    split
    · exact (Unfiled.emit rfl).noting rfl
    · exact (Unfiled.emit rfl).trans (unfiled_managerSpecifier ..)

theorem taskChange_teardown {before : World} (approach : w.Approach before) (session : SessionRef) :
    w.TaskChange (before.teardown session).1 := by
  have unfiled := approach.unfiled
  cases found : before.sessions[session]? with
  | none =>
    rw [teardown_missing found]
    exact unfiled.taskChange
  | some s =>
    cases active : s.terminated with
    | true =>
      rw [teardown_terminated found active]
      exact ((unfiled.noting rfl).noting rfl).taskChange
    | false =>
      cases alive : before.alive with
      | false =>
        rw [teardown_managerDropped found active alive]
        refine (unfiled.trans ?_).taskChange
        exact ⟨rfl, rfl, rfl, rfl, [_, _], rfl, rfl⟩
      | true =>
        rw [teardown_forwarded found active alive]
        exact .disconnected ((before.emit (.asked session .destroy none)).terminate session) _ _ _
          ((approach.noting rfl).terminate session) rfl

theorem InternalTransition.taskChange {pushed : List Frame}
    (internal : w.InternalTransition next pushed) : w.TaskChange next := by
  have aside := internal.aside
  cases internal with
  | nothing | race => exact (Unfiled.refl w).taskChange
  | makeChannel done =>
    unfold World.makeChannel at done
    split at done <;> cases done
    exact .idle (.silent rfl rfl rfl rfl rfl)
  | cloneSender done =>
    simp only [World.cloneSender, Option.bind_eq_bind, Option.bind_eq_some_iff] at done
    obtain ⟨copied, _, done⟩ := done
    split at done <;> cases done
    exact .idle (.silent rfl rfl rfl rfl rfl)
  | dropSender done =>
    simp only [World.dropSender, Option.bind_eq_bind, Option.bind_eq_some_iff] at done
    obtain ⟨sender, _, done⟩ := done
    cases done
    refine (Unfiled.trans ?_ (unfiled_releaseChannel ..)).taskChange
    exact .silent rfl rfl rfl rfl rfl
  | dropReceiver done =>
    simp only [World.dropReceiver, Option.bind_eq_bind, Option.bind_eq_some_iff] at done
    obtain ⟨found, _, done⟩ := done
    cases done
    exact .idle (.silent rfl rfl rfl rfl rfl)
  | poll done => exact (unfiled_pollChannel done).taskChange
  | send listener event =>
    exact ((Unfiled.emit (o := .invoked none w.running listener event) rfl).trans
      (unfiled_invoke ..)).taskChange
  | note => exact (Unfiled.emit rfl).taskChange
  | spawn on tag => exact .spawned on tag rfl
  | pump => exact .idle (.silent rfl rfl rfl rfl rfl)
  | openGate gate => exact .opened gate rfl
  | shutdown on => exact .shut on rfl
  | @run target task queue running popped =>
    refine .ran _ target task queue running popped (unfiled_beginTask ..) ?_ (runs_runTask ..) aside
      rfl
    unfold beginTask
    simp only
    split <;> rfl
  | rest => exact .idle (.silent rfl rfl rfl rfl rfl)

theorem Transition.taskChange {pushed : List Frame} (transition : w.Transition next pushed) :
    w.TaskChange next := by
  cases transition with
  | attach done => exact taskChange_attach done
  | session done => exact (unfiled_makeSession done).taskChange
  | share => exact .idle (.silent rfl rfl rfl rfl rfl)
  | @drop owner effect done =>
    have disowned : w.Approach (w.disown owner) := ⟨rfl, (Told.refl w _).of_trace rfl⟩
    obtain ⟨session, _, ⟨_, rfl⟩ | ⟨_, rfl⟩⟩ := dropOwner_cases done
    · exact disowned.unfiled.taskChange
    · rcases dropSession_cases (w.disown owner) session with ⟨_, same⟩ | ⟨_, same | same⟩
      · rw [same]
        exact disowned.unfiled.taskChange
      · rw [same]
        exact taskChange_teardown disowned session
      · rw [same]
        exact taskChange_teardown (disowned.noting rfl) session
  | teardown session => exact taskChange_teardown (.refl w) session
  | conclude session =>
    unfold World.conclude
    split
    · exact (Unfiled.refl w).taskChange
    · exact .idle ⟨rfl, rfl, rfl, rfl, [_], rfl, rfl⟩
  | request => exact taskChange_sessionRequest ..
  | specifier => exact (unfiled_sessionSpecifier ..).taskChange
  | dropManager => exact .idle (.silent rfl rfl rfl rfl rfl)
  | managerDisconnect client token =>
    refine .disconnected _ none client _ ⟨?_, (unfiled_tokenNamed w token).told⟩ rfl
    rw [tokenNamed_eq]
  | managerRequest request target => exact .requested w none request target (.refl w) rfl
  | managerSpecifier => exact (unfiled_managerSpecifier ..).taskChange
  | returned => exact .idle (.silent rfl rfl rfl rfl rfl)
  | internal internal => exact internal.taskChange

end World

end Proximity
