import Proximity.Proofs.Tasks

/-! What a transition does to one task. A task that has been made is left alone, runs, is woken or
goes with its target; a new one is made for a request, for a disconnect or for neither. -/

set_option autoImplicit false

namespace Proximity

namespace World

variable {w mid next : World}

theorem placesOf_perm {places : List Place} (perm : w.dispatch.places.Perm places)
    (task : TaskRef) : (w.placesOf task).Perm (places.filter fun p => p.task.id = task) :=
  perm.filter _

theorem placesOf_own {p : Place} {task : TaskRef} (own : p.task.id = task)
    (perm : next.dispatch.places.Perm (p :: w.dispatch.places)) :
    (next.placesOf task).Perm (p :: w.placesOf task) := by
  refine (placesOf_perm perm task).trans (.of_eq ?_)
  rw [List.filter_cons_of_pos (by simpa using own)]
  rfl

theorem placesOf_other {p : Place} {task : TaskRef} (other : p.task.id ≠ task)
    (perm : next.dispatch.places.Perm (p :: w.dispatch.places)) :
    (next.placesOf task).Perm (w.placesOf task) := by
  refine (placesOf_perm perm task).trans (.of_eq ?_)
  rw [List.filter_cons_of_neg (by simpa using other)]
  rfl

theorem isClosed_of_dispatch (dispatch : next.dispatch = w.dispatch) (target : Target) :
    next.isClosed target = w.isClosed target := by
  rw [isClosed, isClosed, dispatch]

theorem placesOf_of_dispatch (dispatch : next.dispatch = w.dispatch) (task : TaskRef) :
    next.placesOf task = w.placesOf task := by
  rw [placesOf, placesOf, dispatch]

structure Idles (w next : World) (task : TaskRef) : Prop where
  places : (next.placesOf task).Perm (w.placesOf task)
  account : next.account task = w.account task

inductive Moved (w next : World) (task : TaskRef) : Prop where
  | kept (closed : ∀ target, next.isClosed target = w.isClosed target) (idles : w.Idles next task)
  | ended (target : Target) (run : Task) (facts : List Occurrence)
      (closed : ∀ target, next.isClosed target = w.isClosed target) (own : run.id = task)
      (places : (w.placesOf task).Perm (⟨target, none, run⟩ :: next.placesOf task))
      (ends : run.Ends (some target) facts) (account : next.account task = facts ++ w.account task)
  | suspended (target : Target) (run : Task) (gate : Name) (verdict : Verdict)
      (calls : List Occurrence) (left : List Place)
      (closed : ∀ target, next.isClosed target = w.isClosed target) (own : run.id = task)
      (new : run.verdict = none) (before : (w.placesOf task).Perm (⟨target, none, run⟩ :: left))
      (places : (next.placesOf task).Perm
        (⟨target, some gate, { run with verdict := some verdict }⟩ :: left))
      (called : run.Calls (some target) calls)
      (account : next.account task = .suspended task gate :: calls ++ w.account task)
  | woken (gate : Name) (closed : ∀ target, next.isClosed target = w.isClosed target)
      (places : (next.placesOf task).Perm ((w.placesOf task).map (Place.wake gate)))
      (account : next.account task = w.account task)
  | shut (target : Target)
      (closed : ∀ other, next.isClosed other = (w.isClosed other || decide (other = target)))
      (places : next.placesOf task = (w.placesOf task).filter (·.target ≠ target))
      (account : next.account task =
        ((w.placesOf task).filter (·.target = target)).map (fun _ => .discarded task) ++
          w.account task)

theorem Unfiled.idles (unfiled : w.Unfiled next) (task : TaskRef) : w.Idles next task :=
  ⟨.of_eq (unfiled.placesOf task), unfiled.account task⟩

theorem Unfiled.moved (unfiled : w.Unfiled next) (task : TaskRef) : w.Moved next task :=
  .kept (isClosed_of_dispatch unfiled.dispatch) (unfiled.idles task)

inductive Born (w next : World) (target : Target) (job : Job) : Prop where
  | queued (opened : next.isClosed target = false)
      (places : (next.placesOf w.tasksMade).Perm
        (⟨target, none, { id := w.tasksMade, job }⟩ :: w.placesOf w.tasksMade))
      (account : next.account w.tasksMade = w.account w.tasksMade)
  | dropped (closed : next.isClosed target = true)
      (places : (next.placesOf w.tasksMade).Perm (w.placesOf w.tasksMade))
      (account : next.account w.tasksMade = .discarded w.tasksMade :: w.account w.tasksMade)

theorem Spawns.born {target : Target} {job : Job} (spawns : w.Spawns target job next) :
    w.Born next target job := by
  cases spawns with
  | queued opened dispatch _ told =>
    refine .queued ?_ (placesOf_own rfl (dispatch ▸ Dispatch.places_push ..)) (told.account _)
    rw [isClosed, dispatch, Dispatch.closed_push]
    exact opened
  | dropped closed dispatch _ told =>
    refine .dropped ?_ (.of_eq (placesOf_of_dispatch dispatch _)) ?_
    · rw [isClosed_of_dispatch dispatch]
      exact closed
    · rw [told.account, List.filter_cons_of_pos (by simp [Occurrence.about?, Occurrence.task?])]
      rfl

theorem Spawns.idles {target : Target} {job : Job} (spawns : w.Spawns target job next)
    {task : TaskRef} (other : task ≠ w.tasksMade) : w.Idles next task := by
  have foreign : w.tasksMade ≠ task := fun same => other same.symm
  cases spawns with
  | queued _ dispatch _ told =>
    exact ⟨placesOf_other foreign (dispatch ▸ Dispatch.places_push ..), told.account task⟩
  | dropped _ dispatch _ told =>
    refine ⟨.of_eq (placesOf_of_dispatch dispatch task), ?_⟩
    rw [told.account, List.filter_cons_of_neg (by simpa [Occurrence.about?, Occurrence.task?] using foreign)]
    rfl

theorem Spawns.closed {target : Target} {job : Job} (spawns : w.Spawns target job next)
    (other : Target) : next.isClosed other = w.isClosed other := by
  cases spawns with
  | queued _ dispatch =>
    rw [isClosed, dispatch, Dispatch.closed_push]
    rfl
  | dropped _ dispatch => exact isClosed_of_dispatch dispatch other

theorem Spawns.tasksMade {target : Target} {job : Job} (spawns : w.Spawns target job next) :
    next.tasksMade = w.tasksMade + 1 := by
  cases spawns with
  | queued _ _ tasksMade | dropped _ _ tasksMade => exact tasksMade

theorem Spawns.commissions {target : Target} {job : Job} (spawns : w.Spawns target job next) :
    next.commissions = w.commissions := by
  cases spawns with
  | queued _ _ _ told | dropped _ _ _ told => exact told.commissions

theorem account_own {task : TaskRef} {facts : List Occurrence}
    (told : w.Told Occurrence.isFiled next facts)
    (own : ∀ o ∈ facts, o.about? = some task) : next.account task = facts ++ w.account task := by
  rw [told.account, List.filter_eq_self.2]
  simpa using own

theorem account_other {task other : TaskRef} {facts : List Occurrence}
    (told : w.Told Occurrence.isFiled next facts)
    (own : ∀ o ∈ facts, o.about? = some task) (foreign : task ≠ other) :
    next.account other = w.account other := by
  rw [told.account, List.filter_eq_nil_iff.2]
  · rfl
  · intro o member
    rw [own o member]
    simpa using foreign

theorem Runs.closed {target : Target} {run : Task} (runs : w.Runs target run next)
    (other : Target) : next.isClosed other = w.isClosed other := by
  cases runs with
  | ended _ _ dispatch => exact isClosed_of_dispatch dispatch other
  | suspended _ _ _ _ _ dispatch =>
    rw [isClosed, isClosed, dispatch]
    cases other <;> rfl

theorem Runs.idles {target : Target} {run : Task} (runs : w.Runs target run next)
    {task : TaskRef} (other : run.id ≠ task) : w.Idles next task := by
  cases runs with
  | ended facts ends dispatch _ told =>
    exact ⟨.of_eq (placesOf_of_dispatch dispatch task),
      account_other told (fun o member => (ends.own o member).1) other⟩
  | suspended gate verdict calls called _ dispatch _ told =>
    refine ⟨placesOf_other other (dispatch ▸ Dispatch.places_suspend ..), ?_⟩
    apply account_other told _ other
    intro o member
    rcases List.mem_cons.1 member with rfl | member
    · rfl
    · exact (called.own o member).1

theorem Runs.moved {before : World} {target : Target} {run : Task} {queue : Queue}
    (running : before.running = some target)
    (popped : (w.dispatch.queue target).pop? = some (run, queue))
    (unfiled : ({ w with dispatch := w.dispatch.setQueue target queue } : World).Unfiled before)
    (runs : before.Runs target run next) (task : TaskRef) : w.Moved next task := by
  have account : before.account task = w.account task := unfiled.account task
  have closed (other : Target) : next.isClosed other = w.isClosed other := by
    rw [runs.closed, isClosed, unfiled.dispatch]
    exact Dispatch.closed_pop popped other
  have popped : w.dispatch.places.Perm (⟨target, none, run⟩ :: before.dispatch.places) := by
    rw [unfiled.dispatch]
    exact Dispatch.places_pop popped
  by_cases own : run.id = task
  · have places := placesOf_own own popped
    cases runs with
    | ended facts ends dispatch _ told =>
      refine .ended target run facts closed own ?_ (running ▸ ends) ?_
      · rw [placesOf_of_dispatch dispatch]
        exact places
      · rw [account_own told (own ▸ fun o member => (ends.own o member).1), account]
    | suspended gate verdict calls called new dispatch _ told =>
      refine .suspended target run gate verdict calls (before.placesOf task) closed own new places
        (placesOf_own own (dispatch ▸ Dispatch.places_suspend ..)) (running ▸ called) ?_
      rw [account_own told, account, own]
      intro o member
      rcases List.mem_cons.1 member with rfl | member
      · exact congrArg some own
      · exact own ▸ (called.own o member).1
  -- The task that was taken out is another one.
  · obtain ⟨same, told⟩ := runs.idles own
    exact .kept closed ⟨same.trans (placesOf_other own popped).symm, told.trans account⟩

theorem moved_openGate (w : World) (gate : Name) (task : TaskRef) :
    w.Moved (w.openGate gate).world task := by
  refine .woken gate (fun target => Dispatch.closed_release ..) ?_ rfl
  refine (placesOf_perm (Dispatch.places_release ..) task).trans (.of_eq ?_)
  -- Waking changes no task's number, so it does not matter which comes first.
  rw [List.filter_map]
  apply congrArg (List.map (Place.wake gate))
  apply congrArg (List.filter · w.dispatch.places)
  funext p
  simp only [Function.comp_apply, Place.wake]
  split <;> rfl

theorem moved_shutdown (w : World) (target : Target) (task : TaskRef) :
    w.Moved (w.shutdown target) task := by
  obtain ⟨dispatch, tasksMade, told⟩ := filed_discards (w.dispatch.shutdown target).1
    { w with dispatch := (w.dispatch.shutdown target).2 }
  obtain ⟨left, dropped⟩ := w.dispatch.places_shutdown target
  refine .shut target (fun other => ?_) ?_ ?_
  · rw [isClosed, World.shutdown, dispatch]
    exact Dispatch.closed_shutdown ..
  · rw [placesOf, World.shutdown, dispatch, left, placesOf, List.filter_filter, List.filter_filter]
    apply congrArg (List.filter · w.dispatch.places)
    funext p
    exact Bool.and_comm ..
  · refine (Told.account told task).trans (congrArg (· ++ w.account task) ?_)
    rw [dropped, List.map_map, List.filter_reverse, List.filter_map]
    -- What is dropped of the whole target and is this task's, is what the task has there.
    have named : (w.dispatch.places.filter (·.target = target)).filter
        ((fun o => decide (o.about? = some task)) ∘
          (fun run : Task => Occurrence.discarded run.id) ∘ Place.task) =
        (w.placesOf task).filter (·.target = target) := by
      rw [placesOf, List.filter_filter, List.filter_filter]
      apply congrArg (List.filter · w.dispatch.places)
      funext p
      simp [Occurrence.about?, Occurrence.task?, Bool.and_comm]
    have own : ((w.placesOf task).filter (·.target = target)).map
        ((fun run : Task => Occurrence.discarded run.id) ∘ Place.task) =
          ((w.placesOf task).filter (·.target = target)).map fun _ => .discarded task := by
      apply List.map_congr_left
      intro p member
      have here := (List.mem_filter.1 (List.mem_filter.1 member).1).2
      exact congrArg Occurrence.discarded (of_decide_eq_true here)
    rw [named, own, List.map_const', List.reverse_replicate]

end World

/-! ### The manager with a client table -/

def Filing.made (f : Filing) : Task where
  id := f.task
  job := if f.rejection.isSome then .refuse f.request.listener else .start f.request

def Release.made (c : Release) : Task where
  id := c.task
  job := .detach c.client

namespace Commission

def made : Commission → Task
  | .request f => f.made
  | .release c => c.made

/-- A request names its target; disconnects go to the manager's own. -/
def target : Commission → Target
  | .request f => f.target
  | .release _ => defaultTarget

@[simp] theorem made_id (c : Commission) : c.made.id = c.task := by
  cases c <;> rfl

end Commission

namespace World

variable {w mid next : World}

structure Makes (w next : World) (target : Target) (job : Job) (news : Option Commission) :
    Prop where
  tasksMade : next.tasksMade = w.tasksMade + 1
  commissions : next.commissions = news.toList ++ w.commissions
  closed : ∀ other, next.isClosed other = w.isClosed other
  idles : ∀ task ≠ w.tasksMade, w.Idles next task
  born : w.Born next target job
  own : ∀ c ∈ news, c.task = w.tasksMade ∧ c.target = target ∧ c.made.job = job
  ruled : ∀ f, news = some (.request f) →
    f.rejection = w.rejection? f.request.client f.request.config
  mark : news = none → ∃ tag, job = .mark tag

theorem Spawns.makes {target : Target} {job : Job} {news : Option Commission}
    (spawns : mid.Spawns target job next) (dispatch : mid.dispatch = w.dispatch)
    (tasksMade : mid.tasksMade = w.tasksMade) (account : ∀ task, mid.account task = w.account task)
    (commissions : mid.commissions = news.toList ++ w.commissions)
    (own : ∀ c ∈ news, c.task = w.tasksMade ∧ c.target = target ∧ c.made.job = job)
    (ruled : ∀ f, news = some (.request f) →
      f.rejection = w.rejection? f.request.client f.request.config)
    (mark : news = none → ∃ tag, job = .mark tag) : w.Makes next target job news := by
  have places := placesOf_of_dispatch dispatch
  refine ⟨?_, spawns.commissions.trans commissions, fun other => ?_, fun task other => ?_, ?_, own,
    ruled, mark⟩
  · rw [spawns.tasksMade, tasksMade]
  · rw [spawns.closed, isClosed_of_dispatch dispatch]
  · have idles : mid.Idles next task := spawns.idles (tasksMade ▸ other)
    exact ⟨places task ▸ idles.places, idles.account.trans (account task)⟩
  · cases spawns.born with
    | queued opened queued told =>
      rw [tasksMade, places] at queued
      rw [tasksMade, account] at told
      exact .queued opened queued told
    | dropped closed same told =>
      rw [tasksMade, places] at same
      rw [tasksMade, account] at told
      exact .dropped closed same told

theorem Makes.filings {target : Target} {job : Job} {f : Filing}
    (makes : w.Makes next target job (some (.request f))) : next.filings = f :: w.filings := by
  rw [filings_eq, makes.commissions, filings_eq w]
  rfl

theorem Approach.makes {before : World} (approach : w.Approach before) {c : Commission}
    {target : Target} {job : Job} (spawns : mid.Spawns target job next) (told : List Occurrence)
    (silent : ∀ o ∈ told, o.about? = none) (reads : told.filterMap Occurrence.commission? = [c])
    (dispatch : mid.dispatch = before.dispatch) (tasksMade : mid.tasksMade = before.tasksMade)
    (trace : mid.trace = told ++ before.trace)
    (own : c.task = before.tasksMade ∧ c.target = target ∧ c.made.job = job)
    (ruled : ∀ f, c = .request f →
      f.rejection = before.rejection? f.request.client f.request.config) :
    w.Makes next target job (some c) := by
  have unfiled := approach.unfiled
  refine spawns.makes (dispatch.trans unfiled.dispatch) (tasksMade.trans unfiled.tasksMade)
    (fun task => ?_) ?_ ?_ ?_ (by simp)
  · rw [account, trace, List.filter_append,
      List.filter_eq_nil_iff.2 fun o member => by simp [silent o member]]
    exact unfiled.account task
  · rw [World.commissions, trace, List.filterMap_append, reads]
    exact congrArg ([c] ++ ·) unfiled.commissions
  · rintro _ ⟨rfl⟩
    exact ⟨own.1.trans unfiled.tasksMade, own.2⟩
  · rintro f ⟨rfl⟩
    rw [← approach.rejection?]
    exact ruled f rfl

theorem makes_registryRequest {before : World} (approach : w.Approach before)
    (origin : Option SessionRef) (request : Request) (target : Target) :
    ∃ job, w.Makes (before.registryRequest origin request target) target job
      (some (.request ⟨before.tasksMade, request, target,
        before.rejection? request.client request.config⟩)) := by
  have received : (Occurrence.received origin before.running (.request before.nextTask request
    target (before.rejection? request.client request.config))).about? = none := rfl
  unfold registryRequest
  simp only
  split
  · rename_i reason rejected
    refine ⟨_, approach.makes (spawns_spawn _ target (.refuse request.listener))
      [.logged (.requestRejected request.client request.config.kind reason),
        .received origin before.running (.request before.nextTask request target
          (before.rejection? request.client request.config))] ?_ rfl rfl rfl rfl ⟨rfl, rfl, ?_⟩ ?_⟩
    · simpa using ⟨rfl, received⟩
    · simp [Commission.made, Filing.made, rejected]
    · rintro _ ⟨rfl⟩
      rfl
  · rename_i admitted
    refine ⟨_, approach.makes (spawns_spawn _ target (.start request))
      [.received origin before.running (.request before.nextTask request target
        (before.rejection? request.client request.config))] ?_ rfl rfl rfl rfl ⟨rfl, rfl, ?_⟩ ?_⟩
    · simpa using received
    · simp [Commission.made, Filing.made, admitted]
    · rintro _ ⟨rfl⟩
      rfl

/-- What a transition does to the tasks of a registry: it makes a task, or every task moves by
itself. -/
inductive Course (w next : World) : Prop where
  | moved (tasksMade : next.tasksMade = w.tasksMade)
      (commissions : next.commissions = w.commissions) (moved : ∀ task, w.Moved next task)
  | makes (target : Target) (job : Job) (news : Option Commission)
      (makes : w.Makes next target job news)

theorem Unfiled.course (unfiled : w.Unfiled next) : w.Course next :=
  .moved unfiled.tasksMade unfiled.commissions unfiled.moved

theorem course_attached {client : ClientId} {session : SessionRef} {token : Token}
    (dispatch : next.dispatch = w.dispatch) (tasksMade : next.tasksMade = w.tasksMade)
    (told : w.Told Occurrence.isFiled next [.attached client session token]) : w.Course next :=
  .moved tasksMade told.commissions fun task => .kept (isClosed_of_dispatch dispatch)
    ⟨.of_eq (placesOf_of_dispatch dispatch task), told.account task⟩

theorem course_registryDisconnect {before : World} (approach : w.Approach before)
    (origin : Option SessionRef) (client : ClientId) (token : Token) :
    w.Course (before.registryDisconnect origin client token) := by
  have unfiled := approach.unfiled
  -- A disconnect that is not honoured is noted and makes no task.
  have ignored {notice : Notice} (other : (Occurrence.logged notice).isFiled = false) :
      w.Course ((before.emit (.received origin before.running (.disconnect client token none))).log
        notice) := by
    have told : w.Told Occurrence.isFiled ((before.emit (.received origin before.running
        (.disconnect client token none))).log notice)
        [.received origin before.running (.disconnect client token none)] :=
      (unfiled.told.emit rfl).skip other
    refine .moved unfiled.tasksMade told.commissions fun task => .kept
      (isClosed_of_dispatch unfiled.dispatch) ⟨.of_eq (unfiled.placesOf task), ?_⟩
    exact told.account task
  unfold registryDisconnect
  simp only
  split
  · exact ignored rfl
  · split
    · refine .makes _ _ _ (approach.makes (spawns_spawn _ defaultTarget (.detach client))
        [.received origin before.running (.disconnect client token (some before.nextTask))] ?_ rfl
        rfl rfl rfl ⟨rfl, rfl, rfl⟩ ?_)
      · intro o member
        rw [List.mem_singleton.1 member]
        rfl
      · rintro _ ⟨⟩
    · exact ignored rfl

theorem TaskChange.course (changes : w.TaskChange next) (registry : w.manager = .registry) :
    w.Course next := by
  cases changes with
  | idle unfiled => exact unfiled.course
  | attached _ _ _ dispatch tasksMade _ told => exact course_attached dispatch tasksMade told
  | requested before origin request target approach same =>
    rw [same, managerRequest, approach.manager, registry]
    obtain ⟨job, makes⟩ := makes_registryRequest approach origin request target
    exact .makes target job _ makes
  | disconnected before origin client token approach same =>
    rw [same, managerDisconnect, approach.manager, registry]
    exact course_registryDisconnect approach origin client token
  | spawned on tag same =>
    rw [same]
    exact .makes on (.mark tag) none ((spawns_spawn w on (.mark tag)).makes rfl rfl (fun _ => rfl)
      rfl (by simp) (by simp) fun _ => ⟨tag, rfl⟩)
  | ran before target run queue running popped unfiled still runs =>
    have quiet : next.tasksMade = before.tasksMade ∧ next.commissions = before.commissions := by
      cases runs with
      | ended facts ends _ tasksMade told =>
        refine ⟨tasksMade, ?_⟩
        rw [told.commissions, List.filterMap_eq_nil_iff.2 fun o member => (ends.own o member).2.1]
        rfl
      | suspended gate verdict calls called _ _ tasksMade told =>
        refine ⟨tasksMade, ?_⟩
        rw [told.commissions, List.filterMap_cons_none rfl,
          List.filterMap_eq_nil_iff.2 fun o member => (called.own o member).2.1]
        rfl
    exact .moved (quiet.1.trans unfiled.tasksMade) (quiet.2.trans unfiled.commissions)
      (runs.moved (still.trans running) popped unfiled)
  | opened gate same =>
    rw [same]
    exact .moved rfl rfl (moved_openGate w gate)
  | shut target same =>
    obtain ⟨_, tasksMade, told⟩ := filed_discards (w.dispatch.shutdown target).1
      { w with dispatch := (w.dispatch.shutdown target).2 }
    rw [same]
    refine .moved tasksMade (told.commissions.trans ?_) (moved_shutdown w target)
    rw [List.filterMap_eq_nil_iff.2]
    · rfl
    · simp [Occurrence.commission?]

end World

end Proximity
