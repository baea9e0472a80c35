import Mathlib.Algebra.BigOperators.Group.List.Basic
import Mathlib.Algebra.Ring.Nat
import Proximity.Run.Tick

/-! Every tick takes weight away, whatever the run is about to do, as long as its manager is
restrained. -/

set_option autoImplicit false

namespace Proximity

/-! ### Sums -/

theorem Dispatch.weight_eq_sum (d : Dispatch) : d.weight = (d.tasks.map Task.weight).sum :=
  List.sum_eq_foldr.symm

theorem World.weight_eq_sum (w : World) :
    w.weight = w.dispatch.weight + (w.sessions.map Session.weight).sum + pumpWeight w.running := by
  rw [List.sum_eq_foldr, weight]

theorem framesWeight_eq_sum (frames : List Frame) :
    framesWeight frames = (frames.map Frame.weight).sum :=
  List.sum_eq_foldr.symm

@[simp] theorem framesWeight_nil : framesWeight [] = 0 := rfl

@[simp] theorem framesWeight_cons (frame : Frame) (outer : List Frame) :
    framesWeight (frame :: outer) = frame.weight + framesWeight outer := rfl

@[simp] theorem framesWeight_append (inner outer : List Frame) :
    framesWeight (inner ++ outer) = framesWeight inner + framesWeight outer := by
  simp only [framesWeight_eq_sum, List.map_append, List.sum_append]

theorem Task.job_weight_lt (task : Task) : task.job.weight < task.weight := by
  unfold weight
  split <;> omega

/-! ### Queues -/

namespace Dispatch

theorem weight_push (d : Dispatch) (running : Option Target) (target : Target) (task : Task) :
    (d.push running target task).weight = d.weight + task.weight := by
  cases target <;> rcases running with _ | _ | _ <;>
    simp [push, setQueue, queue, Queue.push, weight_eq_sum, tasks, Queue.tasks] <;> omega

theorem weight_pop {d : Dispatch} {target : Target} {task : Task} {left : Queue}
    (popped : (d.queue target).pop? = some (task, left)) :
    (d.setQueue target left).weight + task.weight = d.weight := by
  have before := Queue.tasks_of_pop? popped
  cases target <;> simp only [queue] at before <;>
    simp only [setQueue, weight_eq_sum, tasks, before, List.map_append, List.map_cons,
      List.sum_append, List.sum_cons] <;> omega

theorem weight_foldl_push (running : Option Target) (released : List Waiting) (d : Dispatch) :
    (released.foldl (fun d w => d.push running w.target w.task) d).weight =
      d.weight + (released.map fun w => w.task.weight).sum := by
  induction released generalizing d with
  | nil => simp
  | cons first rest ih =>
    simp only [List.foldl_cons, ih, weight_push, List.map_cons, List.sum_cons]
    omega

theorem weight_release (d : Dispatch) (running : Option Target) (gate : Name) :
    (d.release running gate).weight = d.weight := by
  have split := List.sum_map_filter_add_sum_map_filter_not (fun w : Waiting => w.gate = gate)
    (fun w => w.task.weight) d.waiting
  simp only [release, weight_foldl_push]
  simp only [weight_eq_sum, tasks, List.map_append, List.sum_append, List.map_map,
    Function.comp_def, ne_eq] at split ⊢
  omega

end Dispatch

/-! ### Single effects -/

namespace World

@[simp] theorem weight_emit (w : World) (o : Occurrence) : (w.emit o).weight = w.weight := rfl

@[simp] theorem weight_log (w : World) (notice : Notice) : (w.log notice).weight = w.weight := rfl

@[simp] theorem weight_call (w : World) (call : Call) : (w.call call).weight = w.weight := rfl

@[simp] theorem weight_updateChannel (w : World) (channel : ChannelRef)
    (change : Channel → Channel) : (w.updateChannel channel change).weight = w.weight := rfl

@[simp] theorem weight_spend (w : World) (poll : Poll) : (w.spend poll).weight = w.weight := by
  unfold spend
  split <;> rfl

@[simp] theorem weight_beginTask (w : World) (task : Task) :
    (w.beginTask task).weight = w.weight := by
  unfold beginTask
  split <;> rfl

@[simp] theorem weight_releaseChannel (w : World) (channel : ChannelRef) :
    (w.releaseChannel channel).weight = w.weight := by
  unfold releaseChannel
  split <;> rfl

@[simp] theorem weight_releaseListener (w : World) (listener : Listener) :
    (w.releaseListener listener).weight = w.weight := by
  cases listener <;> simp [releaseListener]

@[simp] theorem weight_discard (w : World) (task : Task) : (w.discard task).weight = w.weight := by
  unfold discard
  split <;> simp

@[simp] theorem weight_sendEvent (w : World) (channel : ChannelRef) (event : Event) :
    (w.sendEvent channel event).weight = w.weight := by
  unfold sendEvent
  repeat' split
  all_goals simp

theorem weight_spawn_le (w : World) (target : Target) (job : Job) :
    (w.spawn target job).weight ≤ w.weight + 3 + job.weight := by
  unfold spawn
  simp only
  split
  · have same : ({ w with tasksMade := w.tasksMade + 1 } : World).weight = w.weight := rfl
    rw [weight_discard, same]
    omega
  · simp only [weight, Dispatch.weight_push, Task.weight, Option.isNone_none, if_pos]
    omega

@[simp] theorem weight_tokenNamed (w : World) (name : Name) :
    (w.tokenNamed name).2.weight = w.weight := by
  unfold tokenNamed
  split <;> rfl

theorem weight_addSession (w : World) (client : ClientId) (token : Token) (dispatch : Target)
    (as : Name) (session : SessionRef) :
    ((w.addSession client token dispatch).own as session).weight = w.weight + 10 := by
  simp [own, addSession, weight_eq_sum, log, emit, Session.weight]
  omega

theorem sum_modify_le {α : Type} (size : α → Nat) (change : α → α)
    (shrinks : ∀ a, size (change a) ≤ size a) (l : List α) (i : Nat) :
    ((l.modify i change).map size).sum ≤ (l.map size).sum := by
  induction l generalizing i with
  | nil => simp
  | cons a rest ih =>
    cases i with
    | zero => simpa using shrinks a
    | succ i => simpa using ih i

theorem sum_modify {α : Type} (size : α → Nat) (change : α → α) {l : List α} {i : Nat} {a : α}
    (found : l[i]? = some a) :
    ((l.modify i change).map size).sum + size a = (l.map size).sum + size (change a) := by
  induction l generalizing i with
  | nil => simp at found
  | cons head rest ih =>
    cases i with
    | zero =>
      simp only [List.getElem?_cons_zero, Option.some.injEq] at found
      subst found
      simp
      omega
    | succ i =>
      have := ih (by simpa using found)
      simp
      omega

theorem weight_closeGuard_le (w : World) (session : SessionRef) :
    (w.closeGuard session).weight ≤ w.weight := by
  have := sum_modify_le Session.weight (fun s : Session => { s with guarded := false })
    (fun _ => Nat.le_refl _) w.sessions session
  simp only [weight_eq_sum, closeGuard, updateSession]
  omega

theorem weight_terminate {w : World} {session : SessionRef} {s : Session}
    (found : w.sessions[session]? = some s) (active : s.terminated = false) :
    (w.terminate session).weight + 10 = w.weight := by
  have := sum_modify Session.weight (fun s : Session => { s with terminated := true }) found
  simp only [Session.weight, active, if_pos, Bool.false_eq_true, if_false] at this
  simp only [weight_eq_sum, terminate, updateSession]
  omega

/-! ### Managers and sessions -/

theorem weight_steps (steps : List Step) :
    framesWeight (steps.map .step) = stepsWeight steps := by
  induction steps with
  | nil => rfl
  | cons step rest ih =>
    simp only [List.map_cons, framesWeight_cons, Frame.weight, ih, stepsWeight]

theorem weight_engage (w : World) (steps : List Step) :
    (w.engage steps).1.weight + framesWeight (w.engage steps).2 =
      w.weight + stepsWeight steps + 1 := by
  have same : (w.engage steps).1.weight = w.weight := rfl
  have frames : framesWeight (w.engage steps).2 = framesWeight (steps.map .step) + 1 := by
    simp [engage, Frame.weight]
  rw [same, frames, weight_steps, Nat.add_assoc]

theorem weight_tellOutcomes_le (w : World) (listener : Listener)
    {outcomes : List (Target × Option Started)} (few : outcomes.length ≤ 1) :
    (w.tellOutcomes listener outcomes).weight ≤ w.weight + 3 + Listener.weight listener := by
  match outcomes, few with
  | [], _ =>
    simp only [tellOutcomes, List.foldl_nil, weight_releaseListener]
    omega
  | [(target, outcome)], _ =>
    have heavy : (outcomeJob listener outcome).weight = Listener.weight listener := by
      cases outcome <;> rfl
    have := weight_spawn_le w target (outcomeJob listener outcome)
    simp only [tellOutcomes, List.foldl_cons, List.foldl_nil, weight_releaseListener]
    omega

theorem weight_managerRequest_le {w : World} (restrained : w.manager.Restrained)
    (origin : Option SessionRef) (request : Request) (target : Target) :
    (w.managerRequest origin request target).1.weight +
      framesWeight (w.managerRequest origin request target).2 ≤
      w.weight + 4 + Listener.weight request.listener := by
  unfold managerRequest
  split
  · have quiet : (w.registryRequest origin request target).weight ≤
        w.weight + 3 + Listener.weight request.listener := by
      unfold registryRequest
      simp only
      split
      · exact weight_spawn_le ..
      · exact weight_spawn_le ..
    simp only [framesWeight_nil]
    omega
  · have quiet : (w.permissiveRequest origin request target).weight ≤
        w.weight + 3 + Listener.weight request.listener := weight_spawn_le ..
    simp only [framesWeight_nil]
    omega
  · rename_i conduct foreign
    rw [foreign] at restrained
    obtain ⟨light, few⟩ := restrained (.request w.nextTask request target none) w.managerCalls
    simp only [ManagerCall.allowance] at light
    have told := weight_tellOutcomes_le (w.emit (.received origin w.running
      (.request w.nextTask request target none))) request.listener few
    rw [weight_emit] at told
    simp only [foreignRequest, managerCalls_received, weight_engage]
    omega

theorem weight_registryDisconnect_le (w : World) (origin : Option SessionRef) (client : ClientId)
    (token : Token) : (w.registryDisconnect origin client token).weight ≤ w.weight + 3 := by
  unfold registryDisconnect
  simp only
  split
  · simp
  · split
    · exact weight_spawn_le ..
    · simp

theorem weight_managerDisconnect_le {w : World} (restrained : w.manager.Restrained)
    (origin : Option SessionRef) (client : ClientId) (token : Token) :
    (w.managerDisconnect origin client token).1.weight +
      framesWeight (w.managerDisconnect origin client token).2 ≤ w.weight + 7 := by
  unfold managerDisconnect
  split
  · have := weight_registryDisconnect_le w origin client token
    simp only [framesWeight_nil]
    omega
  · unfold permissiveDisconnect
    simp only
    repeat' split
    all_goals simp [Frame.weight]
  · rename_i conduct foreign
    rw [foreign] at restrained
    have light := (restrained (.disconnect client token none) w.managerCalls).1
    simp only [ManagerCall.allowance] at light
    simp only [foreignDisconnect, managerCalls_received, weight_engage, weight_emit]
    omega

theorem weight_managerSpecifier_le {w : World} (restrained : w.manager.Restrained)
    (origin : Option SessionRef) (client : ClientId) (role : Role) (peer token : Option Bytes) :
    (w.managerSpecifier origin client role peer token).2.1.weight +
      framesWeight (w.managerSpecifier origin client role peer token).2.2 ≤ w.weight + 1 := by
  unfold managerSpecifier
  split
  · unfold registrySpecifier
    simp only
    repeat' split
    all_goals simp
  · simp [permissiveSpecifier, framesWeight]
  · rename_i conduct foreign
    rw [foreign] at restrained
    have light := (restrained (.specifier client role peer token) w.managerCalls).1
    simp only [ManagerCall.allowance] at light
    simp only [foreignSpecifier, managerCalls_received, weight_engage, weight_emit]
    omega

theorem weight_teardown_le {w : World} (restrained : w.manager.Restrained) (session : SessionRef) :
    (w.teardown session).1.weight + framesWeight (w.teardown session).2 ≤ w.weight := by
  unfold teardown
  split
  · simp
  · rename_i s found
    split
    · simp
    · rename_i active
      have active : s.terminated = false := by simpa using active
      split
      · have terminated := weight_terminate
          (w := w.emit (.asked session .destroy (some .managerDropped))) found active
        have := weight_closeGuard_le
          (((w.emit (.asked session .destroy (some .managerDropped))).terminate session).log
            (.managerDropped session s.client)) session
        simp only [weight_log, weight_emit] at this terminated
        simp only [framesWeight_nil]
        omega
      · have terminated := weight_terminate
          (w := w.emit (.asked session .destroy none)) found active
        have := weight_managerDisconnect_le
          (w := (w.emit (.asked session .destroy none)).terminate session) restrained
          (some session) s.client s.token
        simp only [weight_emit] at terminated
        simp only [framesWeight_append, framesWeight_cons, framesWeight_nil, Frame.weight] at this ⊢
        omega

theorem weight_dropSession_le {w : World} (restrained : w.manager.Restrained)
    (session : SessionRef) :
    (w.dropSession session).1.weight + framesWeight (w.dropSession session).2 ≤ w.weight := by
  unfold dropSession
  split
  · simp
  · split
    · simp
    · split
      · simpa using weight_teardown_le (w := w.log (.sessionLeaked session)) restrained session
      · exact weight_teardown_le restrained session

theorem weight_conclude_le (w : World) (session : SessionRef) :
    (w.conclude session).weight ≤ w.weight := by
  unfold conclude
  split
  · exact Nat.le_refl _
  · simpa using weight_closeGuard_le w session

theorem weight_sessionRequest_le {w : World} (restrained : w.manager.Restrained)
    (session : SessionRef) (config : Config) (listener : Listener) (on : Option Target) :
    (w.sessionRequest session config listener on).1.weight +
      framesWeight (w.sessionRequest session config listener on).2 ≤
      w.weight + 4 + Listener.weight listener := by
  unfold sessionRequest
  split
  · simp only [framesWeight_nil]
    omega
  · rename_i s _
    simp only
    split
    · simp only [weight_releaseListener, weight_log, weight_emit, framesWeight_nil]
      omega
    · exact weight_managerRequest_le (w := w.emit (.asked session (.request config listener on) _))
        restrained (some session) ⟨s.client, config, listener⟩ (on.getD s.dispatch)

theorem weight_sessionSpecifier_le {w : World} (restrained : w.manager.Restrained)
    (session : SessionRef) (role : Role) (peer token : Option Bytes) :
    (w.sessionSpecifier session role peer token).2.1.weight +
      framesWeight (w.sessionSpecifier session role peer token).2.2 ≤ w.weight + 1 := by
  unfold sessionSpecifier
  split
  · simp
  · rename_i s _
    simp only
    split
    · simp
    · exact weight_managerSpecifier_le
        (w := w.emit (.asked session (.specifier role peer token) _)) restrained
        (some session) s.client role peer token

/-! ### Tasks -/

theorem weight_invoke_le (w : World) (task : Option TaskRef) (listener : Listener) (event : Event) :
    (w.invoke task listener event).1.weight + framesWeight (w.invoke task listener event).2 ≤
      w.weight + Listener.weight listener := by
  unfold invoke
  cases listener <;> simp [Frame.weight, Listener.weight]

theorem weight_conveyOutcome_le (w : World) (task : Task) (listener : Listener) (event : Event) :
    (w.conveyOutcome task listener event).1.weight +
      framesWeight (w.conveyOutcome task listener event).2 ≤
      w.weight + Listener.weight listener := by
  simpa [conveyOutcome] using weight_invoke_le w (some task.id) listener event

theorem weight_answerStart_le (w : World) (task : Task) (request : Request) (verdict : Verdict) :
    (w.answerStart task request verdict).1.weight +
      framesWeight (w.answerStart task request verdict).2 ≤
      w.weight + Listener.weight request.listener := by
  unfold answerStart
  simp only
  split
  · exact weight_conveyOutcome_le ..
  · exact weight_conveyOutcome_le ..

theorem weight_answerDetach (w : World) (task : Task) (client : ClientId) (verdict : Verdict) :
    (w.answerDetach task client verdict).weight = w.weight := by
  unfold answerDetach
  simp only
  split <;> simp

theorem weight_suspend (w : World) (gate : Name) (target : Target) (task : Task)
    (verdict : Verdict) :
    (w.suspend gate target task verdict).weight = w.weight + 2 + task.job.weight := by
  simp [suspend, emit, weight_eq_sum, Dispatch.weight_eq_sum, Dispatch.tasks, Task.weight]
  omega

@[simp] theorem weight_service (w : World) (service : Service) :
    ({ w with service } : World).weight = w.weight := rfl

theorem weight_startCall_le (w : World) (target : Target) (task : Task) {request : Request}
    (job : task.job = .start request) :
    (w.startCall target task request).1.weight +
      framesWeight (w.startCall target task request).2 ≤ w.weight + 2 + task.job.weight := by
  unfold startCall
  simp only
  split
  · exact Nat.le_of_eq (weight_suspend ..)
  · have carried : task.job.weight = Listener.weight request.listener := by rw [job]; rfl
    apply Nat.le_trans (weight_answerStart_le ..)
    rw [weight_service, weight_call]
    omega

theorem weight_detachCall_le (w : World) (target : Target) (task : Task) (client : ClientId) :
    (w.detachCall target task client).weight ≤ w.weight + 2 + task.job.weight := by
  unfold detachCall
  simp only
  split
  · exact Nat.le_of_eq (weight_suspend ..)
  · simp only [weight_answerDetach, weight_service, weight_call]
    omega

theorem weight_runTask_lt (w : World) (target : Target) (task : Task) :
    (w.runTask target task).1.weight + framesWeight (w.runTask target task).2 <
      w.weight + task.weight := by
  unfold runTask
  split
  · rename_i request job new
    have left := weight_startCall_le w target task job
    simp only [Task.weight, new, Option.isNone_none, if_true]
    omega
  · rename_i request verdict job _
    have left := weight_answerStart_le w task request verdict
    have carried : task.job.weight = Listener.weight request.listener := by rw [job]; rfl
    have := task.job_weight_lt
    omega
  · rename_i client _ new
    have left := weight_detachCall_le w target task client
    simp only [Task.weight, new, Option.isNone_none, if_true, framesWeight_nil]
    omega
  · have := task.job_weight_lt
    simp only [weight_answerDetach, framesWeight_nil]
    omega
  · rename_i listener job
    have left := weight_conveyOutcome_le w task listener .configFailed
    have carried : task.job.weight = Listener.weight listener := by rw [job]; rfl
    have := task.job_weight_lt
    omega
  · rename_i started listener job
    have left := weight_conveyOutcome_le w task listener (.ofStarted started)
    have carried : task.job.weight = Listener.weight listener := by rw [job]; rfl
    have := task.job_weight_lt
    omega
  · have := task.job_weight_lt
    simp only [weight_emit, framesWeight_nil]
    omega

/-! ### Steps inside a callback -/

theorem weight_listener? {w : World} {callback : Callback Name Step} {listener : Listener}
    (found : w.listener? callback = some listener) :
    Listener.weight listener = callbackWeight callback := by
  cases callback <;> simp only [listener?, Option.map_eq_some_iff, Option.some.injEq] at found
  · subst found
    rfl
  · obtain ⟨_, _, rfl⟩ := found
    rfl
  · subst found
    rfl

def Lightens (w : World) (weight : Nat) (effect : Effect) : Prop :=
  effect.world.weight + framesWeight effect.frames < w.weight + weight

theorem lightens_of_world {w : World} {weight : Nat} {effect : Effect}
    (frames : effect.frames = []) (world : effect.world.weight < w.weight + weight) :
    Lightens w weight effect := by
  simpa [Lightens, frames] using world

theorem lightens_attach {w : World} {as : Name} {effect : Effect}
    (done : w.attach as = some effect) : Lightens w 11 effect := by
  unfold attach at done
  simp only at done
  split at done
  · cases done
  · split at done
    · cases done
      apply lightens_of_world rfl
      change w.weight < w.weight + 11
      omega
    · rename_i client _
      cases done
      apply lightens_of_world rfl
      simp only [weight_addSession, weight_emit, weight_log]
      change w.weight + 10 < w.weight + 11
      omega

theorem lightens_makeSession {w : World} {as : Name} {client : ClientId} {token : Name}
    {on : Option Target} {effect : Effect} (done : w.makeSession as client token on = some effect) :
    Lightens w 11 effect := by
  unfold makeSession at done
  simp only at done
  split at done
  · cases done
  · cases done
    apply lightens_of_world rfl
    simp only [weight_addSession, weight_tokenNamed]
    omega

theorem lightens_dropOwner {w : World} (restrained : w.manager.Restrained) {owner : Name}
    {effect : Effect} (done : w.dropOwner owner = some effect) : Lightens w 1 effect := by
  unfold dropOwner at done
  simp only [Option.bind_eq_bind, Option.bind_eq_some_iff] at done
  obtain ⟨session, _, done⟩ := done
  split at done
  · cases done
    exact lightens_of_world rfl (Nat.lt_succ_self _)
  · cases done
    have := weight_dropSession_le (w := { w with owners := withoutName owner w.owners })
      restrained session
    have same : ({ w with owners := withoutName owner w.owners } : World).weight = w.weight := rfl
    simp only [Lightens]
    omega

theorem lightens_unchanged {w v : World} {weight : Nat} {answer : Answer}
    (same : v.weight = w.weight) (positive : 0 < weight) :
    Lightens w weight { world := v, answer } := by
  apply lightens_of_world rfl
  simp only
  omega

section

variable {w : World} {effect : Effect}

theorem lightens_share {owner as : Name} (done : w.act? true (.share owner as) = some effect) :
    Lightens w 1 effect := by
  simp only [act?, Option.bind_eq_bind, Option.bind_eq_some_iff] at done
  obtain ⟨session, _, done⟩ := done
  split at done
  · cases done
  · cases done
    exact lightens_unchanged rfl Nat.one_pos

theorem lightens_destroy (restrained : w.manager.Restrained) {owner : Name}
    (done : w.act? true (.destroy owner) = some effect) : Lightens w 1 effect := by
  simp only [act?, Option.bind_eq_bind, Option.bind_eq_some_iff] at done
  obtain ⟨session, _, done⟩ := done
  cases done
  exact Nat.lt_succ_of_le (weight_teardown_le restrained session)

theorem lightens_info {owner : Name} (done : w.act? true (.info owner) = some effect) :
    Lightens w 1 effect := by
  simp only [act?, Option.bind_eq_bind, Option.bind_eq_some_iff] at done
  obtain ⟨session, _, s, _, done⟩ := done
  cases done
  exact lightens_unchanged rfl Nat.one_pos

theorem lightens_request (restrained : w.manager.Restrained) {owner : Name} {config : Config}
    {callback : Callback Name Step} {on : Option Target}
    (done : w.act? true (.request owner config callback on) = some effect) :
    Lightens w (5 + callbackWeight callback) effect := by
  simp only [act?, Option.bind_eq_bind, Option.bind_eq_some_iff] at done
  obtain ⟨session, _, listener, found, done⟩ := done
  cases done
  have left := weight_sessionRequest_le restrained session config listener on
  rw [weight_listener? found] at left
  simp only [Lightens]
  omega

theorem lightens_specifier (restrained : w.manager.Restrained) {owner : Name} {role : Role}
    {peer token : Option Bytes}
    (done : w.act? true (.specifier owner role peer token) = some effect) :
    Lightens w 2 effect := by
  simp only [act?, Option.bind_eq_bind, Option.bind_eq_some_iff] at done
  obtain ⟨session, _, done⟩ := done
  cases done
  exact Nat.lt_succ_of_le (weight_sessionSpecifier_le restrained session role peer token)

theorem lightens_dropManager (done : w.act? true .dropManager = some effect) :
    Lightens w 1 effect := by
  simp only [act?] at done
  split at done
  · cases done
    exact lightens_unchanged rfl Nat.one_pos
  · cases done

theorem lightens_managerDisconnect (restrained : w.manager.Restrained) {client : ClientId}
    {token : Name} (done : w.act? true (.managerDisconnect client token) = some effect) :
    Lightens w 8 effect := by
  simp only [act?] at done
  split at done
  · cases done
    have manager : (w.tokenNamed token).2.manager = w.manager := by
      unfold tokenNamed
      split <;> rfl
    have left := weight_managerDisconnect_le (manager ▸ restrained) none client
      (w.tokenNamed token).1
    rw [weight_tokenNamed] at left
    exact Nat.lt_succ_of_le left
  · cases done

theorem lightens_managerRequest (restrained : w.manager.Restrained) {client : ClientId}
    {config : Config} {callback : Callback Name Step} {on : Option Target}
    (done : w.act? true (.managerRequest client config callback on) = some effect) :
    Lightens w (5 + callbackWeight callback) effect := by
  simp only [act?] at done
  split at done
  · simp only [Option.bind_eq_bind, Option.bind_eq_some_iff] at done
    obtain ⟨listener, found, done⟩ := done
    cases done
    have left := weight_managerRequest_le restrained none ⟨client, config, listener⟩
      (on.getD defaultTarget)
    rw [weight_listener? found] at left
    simp only [Lightens]
    omega
  · cases done

theorem lightens_managerSpecifier (restrained : w.manager.Restrained) {client : ClientId}
    {role : Role} {peer token : Option Bytes}
    (done : w.act? true (.managerSpecifier client role peer token) = some effect) :
    Lightens w 2 effect := by
  simp only [act?] at done
  split at done
  · cases done
    exact Nat.lt_succ_of_le (weight_managerSpecifier_le restrained none client role peer token)
  · cases done

theorem lightens_isAttached {client : ClientId}
    (done : w.act? true (.isAttached client) = some effect) : Lightens w 1 effect := by
  simp only [act?] at done
  split at done
  · cases done
    exact lightens_unchanged rfl Nat.one_pos
  · cases done

theorem lightens_makeChannel {as : Name} (done : w.makeChannel as = some effect) :
    Lightens w 1 effect := by
  unfold makeChannel at done
  split at done
  · cases done
  · cases done
    exact lightens_unchanged rfl Nat.one_pos

theorem lightens_cloneSender {sender as : Name} (done : w.cloneSender sender as = some effect) :
    Lightens w 1 effect := by
  simp only [cloneSender, Option.bind_eq_bind, Option.bind_eq_some_iff] at done
  obtain ⟨copied, _, done⟩ := done
  split at done
  · cases done
  · cases done
    exact lightens_unchanged rfl Nat.one_pos

theorem lightens_dropSender {sender : Name} (done : w.dropSender sender = some effect) :
    Lightens w 1 effect := by
  simp only [dropSender, Option.bind_eq_bind, Option.bind_eq_some_iff] at done
  obtain ⟨held, _, done⟩ := done
  cases done
  exact lightens_unchanged (weight_releaseChannel ..) Nat.one_pos

theorem lightens_dropReceiver {receiver : Name} (done : w.dropReceiver receiver = some effect) :
    Lightens w 1 effect := by
  simp only [dropReceiver, Option.bind_eq_bind, Option.bind_eq_some_iff] at done
  obtain ⟨found, _, done⟩ := done
  cases done
  exact lightens_unchanged rfl Nat.one_pos

theorem lightens_send {callback : Callback Name Step} {event : Event}
    (done : w.act? true (.send callback event) = some effect) :
    Lightens w (1 + callbackWeight callback) effect := by
  simp only [act?, Option.bind_eq_bind, Option.bind_eq_some_iff] at done
  obtain ⟨listener, found, done⟩ := done
  cases done
  have left := weight_invoke_le w none listener event
  rw [weight_listener? found] at left
  simp only [Lightens]
  omega

theorem lightens_pollChannel {receiver : Name} (done : w.pollChannel receiver = some effect) :
    Lightens w 1 effect := by
  simp only [pollChannel, Option.bind_eq_bind, Option.bind_eq_some_iff] at done
  obtain ⟨found, _, done⟩ := done
  split at done
  · cases done
    exact lightens_unchanged rfl Nat.one_pos
  · cases done
    exact lightens_unchanged (by simp) Nat.one_pos

theorem lightens_wokenChannel {receiver : Name} (done : w.wokenChannel receiver = some effect) :
    Lightens w 1 effect := by
  simp only [wokenChannel, Option.bind_eq_bind, Option.bind_eq_some_iff] at done
  obtain ⟨channel, _, c, _, done⟩ := done
  cases done
  exact lightens_unchanged rfl Nat.one_pos

theorem lightens_spawn {on : Target} {tag : String}
    (done : w.act? true (.spawn on tag) = some effect) : Lightens w 4 effect := by
  cases done
  have left := weight_spawn_le w on (.mark tag)
  exact lightens_of_world rfl (Nat.lt_succ_of_le left)

theorem lightens_openGate (w : World) (gate : Name) : Lightens w 1 (w.openGate gate) := by
  refine lightens_unchanged ?_ Nat.one_pos
  simp only [weight, Dispatch.weight_release]

theorem lightens_act? (restrained : w.manager.Restrained) {step : Step}
    (done : w.act? true step = some effect) : Lightens w step.weight effect := by
  cases step with
  | attach => exact lightens_attach done
  | session => exact lightens_makeSession done
  | share => exact lightens_share done
  | drop => exact lightens_dropOwner restrained done
  | destroy => exact lightens_destroy restrained done
  | info => exact lightens_info done
  | request => exact lightens_request restrained done
  | specifier => exact lightens_specifier restrained done
  | dropManager => exact lightens_dropManager done
  | managerDisconnect => exact lightens_managerDisconnect restrained done
  | managerRequest => exact lightens_managerRequest restrained done
  | managerSpecifier => exact lightens_managerSpecifier restrained done
  | isAttached => exact lightens_isAttached done
  | channel => exact lightens_makeChannel done
  | cloneSender => exact lightens_cloneSender done
  | dropSender => exact lightens_dropSender done
  | dropReceiver => exact lightens_dropReceiver done
  | send => exact lightens_send done
  | poll => exact lightens_pollChannel done
  | woken => exact lightens_wokenChannel done
  | spawn => exact lightens_spawn done
  | openGate gate =>
    cases done
    exact lightens_openGate w gate
  -- A callback cannot take these.
  | pump | shutdown | current | raceDestroy | nowhere => simp [act?] at done

end

theorem Step.weight_pos (step : Step) : 0 < step.weight := by
  cases step <;> simp only [Step.weight] <;> omega

theorem lightens_perform {w : World} (restrained : w.manager.Restrained) (step : Step) :
    Lightens w step.weight (w.perform true step) := by
  unfold perform
  cases done : w.act? true step with
  | some effect => exact lightens_act? restrained done
  | none => exact lightens_unchanged rfl (Step.weight_pos step)

end World

/-! ### Ticks -/

namespace Run

/-- The next task of the target that is pumped goes, and leaves less behind. -/
theorem weight_pumped_lt {w : World} {target : Target} {task : Task} {queue : Queue}
    (popped : (w.dispatch.queue target).pop? = some (task, queue)) :
    let taken := { w with dispatch := w.dispatch.setQueue target queue }
    let ran := (taken.beginTask task).runTask target task
    ran.1.weight + framesWeight ran.2 < w.weight := by
  intro taken ran
  have left := Dispatch.weight_pop popped
  have before : taken.weight + task.weight = w.weight := by
    simp only [World.weight, taken]
    omega
  have lighter := World.weight_runTask_lt (taken.beginTask task) target task
  rw [World.weight_beginTask, before] at lighter
  exact lighter

theorem weight_tick_lt {r next : Run} (restrained : r.world.manager.Restrained)
    (ticked : r.tick = some next) : next.weight < r.weight := by
  unfold tick at ticked
  split at ticked
  · rename_i tag event step steps answers outer frames
    cases ticked
    have lighter := World.lightens_perform restrained step
    simp only [World.Lightens] at lighter
    simp only [weight, frames, framesWeight_append, framesWeight_cons, Frame.weight, stepsWeight]
    omega
  · rename_i tag event answers outer frames
    cases ticked
    simp only [weight, frames, framesWeight_cons, Frame.weight, stepsWeight, World.weight_emit]
    omega
  · rename_i session outer frames
    cases ticked
    have left := World.weight_teardown_le restrained session
    simp only [weight, frames, framesWeight_append, framesWeight_cons, Frame.weight]
    omega
  · rename_i session outer frames
    cases ticked
    have left := World.weight_sessionRequest_le restrained session (.publish {}) .silent none
    simp only [Listener.weight] at left
    simp only [weight, frames, framesWeight_append, framesWeight_cons, Frame.weight]
    omega
  · rename_i session outer frames
    cases ticked
    have left := World.weight_conclude_le r.world session
    simp only [weight, frames, framesWeight_cons, Frame.weight]
    omega
  · rename_i step outer frames
    cases ticked
    have lighter := World.lightens_perform restrained step
    simp only [World.Lightens] at lighter
    simp only [weight, frames, framesWeight_append, framesWeight_cons, Frame.weight]
    omega
  · rename_i outer frames
    cases ticked
    have same : r.world.disengage.weight = r.world.weight := rfl
    simp only [weight, frames, framesWeight_cons, Frame.weight, same]
    omega
  · rename_i frames
    split at ticked
    · cases ticked
    · rename_i target running
      split at ticked
      · cases ticked
        simp only [weight, frames, World.weight, World.rest, World.resumePolls, running, pumpWeight]
        omega
      · rename_i task queue popped
        cases ticked
        have lighter := weight_pumped_lt popped
        rw [weight, weight, frames]
        exact lighter

end Run

end Proximity
