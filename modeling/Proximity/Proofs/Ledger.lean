import Mathlib.Data.List.Nodup
import Proximity.Proofs.Life
import Proximity.Proofs.Settling
import Proximity.Proofs.SessionChanges

/-! Each request has one task, and where the task is and what has happened to it tell how far the
request has come: it is queued on its target, calls the service, waits there if it has to, and tells
its callback once, unless its target is shut down before. -/

set_option autoImplicit false

namespace Proximity

inductive Stage where
  | queued
  | suspended
  | finished
  | dropped
  deriving DecidableEq

def Stage.read : List Place → List Occurrence → Stage
  | p :: _, _ => if p.gate.isSome then .suspended else .queued
  | [], .discarded _ :: _ => .dropped
  | [], _ => .finished

namespace Filing

def call (f : Filing) : Occurrence :=
  .called (some f.target) (.start f.task f.request.client f.request.config)

inductive Called (f : Filing) : List Occurrence → Prop where
  | atOnce : f.Called [f.call]
  | later (gate : Name) : f.Called [.suspended f.task gate, f.call]

/-- How far a request has come, by where its task is, by what has happened to it, the latest first,
and by whether its target is closed. -/
inductive At (f : Filing) (closed : Bool) : Stage → List Place → List Occurrence → Prop where
  | queued (opened : closed = false) : f.At closed .queued [⟨f.target, none, f.made⟩] []
  | suspended (opened : closed = false) (admitted : f.rejection = none) (gate : Name)
      (verdict : Verdict) :
      f.At closed .suspended [⟨f.target, some gate, { f.made with verdict := some verdict }⟩]
        [.suspended f.task gate, f.call]
  | woken (opened : closed = false) (admitted : f.rejection = none) (gate : Name)
      (verdict : Verdict) :
      f.At closed .queued [⟨f.target, none, { f.made with verdict := some verdict }⟩]
        [.suspended f.task gate, f.call]
  | refused (rejected : f.rejection.isSome = true) :
      f.At closed .finished []
        [.invoked (some f.task) (some f.target) f.request.listener .configFailed]
  | answered (admitted : f.rejection = none) (result : Except Error SessionId)
      {calls : List Occurrence} (called : f.Called calls) :
      f.At closed .finished []
        (.invoked (some f.task) (some f.target) f.request.listener (f.request.outcome result) ::
          .answered f.task (result.map some) :: calls)
  | discarded (shut : closed = true) : f.At closed .dropped [] [.discarded f.task]
  | abandoned (shut : closed = true) (admitted : f.rejection = none) (gate : Name) :
      f.At closed .dropped [] [.discarded f.task, .suspended f.task gate, f.call]

variable {f : Filing} {closed : Bool} {stage other : Stage} {places : List Place}
  {record : List Occurrence}

theorem At.read (stands : f.At closed stage places record) : Stage.read places record = stage := by
  cases stands with
  | queued | suspended | woken | refused | answered | discarded | abandoned => rfl

theorem At.unique (first : f.At closed stage places record)
    (second : f.At closed other places record) : stage = other :=
  first.read.symm.trans second.read

theorem made_of_start {request : Request} (job : f.made.job = .start request) :
    f.rejection = none ∧ request = f.request := by
  unfold made at job
  cases rejected : f.rejection with
  | none =>
    simp only [rejected, Option.isSome_none, Bool.false_eq_true, if_false, Job.start.injEq] at job
    exact ⟨rfl, job.symm⟩
  | some reason => simp [rejected] at job

theorem made_of_refuse {listener : Listener} (job : f.made.job = .refuse listener) :
    f.rejection.isSome = true ∧ listener = f.request.listener := by
  unfold made at job
  cases rejected : f.rejection with
  | none => simp [rejected] at job
  | some reason =>
    simp only [rejected, Option.isSome_some, if_true, Job.refuse.injEq] at job
    exact ⟨rfl, job.symm⟩

theorem made_ne_announce {started : Started} {listener : Listener} :
    f.made.job ≠ .announce started listener := by
  unfold made
  split <;> simp

theorem made_listener : f.made.job.listener? = some f.request.listener := by
  unfold made
  split <;> rfl

/-- The task of a request calls the service only if the request was admitted. -/
theorem made_calls {calls : List Occurrence} (called : f.made.Calls (some f.target) calls) :
    f.rejection = none ∧ calls = [f.call] := by
  cases called with
  | before verdict => cases verdict
  | start job =>
    obtain ⟨admitted, rfl⟩ := made_of_start job
    exact ⟨admitted, rfl⟩
  | detach job =>
    have listener := f.made_listener
    rw [job] at listener
    cases listener

theorem ends_cases {verdict : Option Verdict} {facts : List Occurrence}
    (ends : { f.made with verdict : Task }.Ends (some f.target) facts) :
    (f.rejection.isSome = true ∧
      facts = [.invoked (some f.task) (some f.target) f.request.listener .configFailed]) ∨
    (f.rejection = none ∧ ∃ result calls,
      { f.made with verdict : Task }.Calls (some f.target) calls ∧
      facts = .invoked (some f.task) (some f.target) f.request.listener
        (f.request.outcome result) :: .answered f.task (result.map some) :: calls) := by
  cases ends with
  | answered job result called =>
    obtain ⟨admitted, rfl⟩ := made_of_start job
    exact .inr ⟨admitted, result, _, called, rfl⟩
  | refused job =>
    obtain ⟨rejected, rfl⟩ := made_of_refuse job
    exact .inl ⟨rejected, rfl⟩
  | announced job => exact absurd job made_ne_announce
  | detached job | marked job =>
    have listener := f.made_listener
    rw [job] at listener
    cases listener

theorem at_of_life {account : List Occurrence}
    (life : f.made.Life f.target closed places account) :
    ∃ stage, f.At closed stage places (account.filter fun o => o.task?.isSome) := by
  cases life with
  | queued opened => exact ⟨_, .queued opened⟩
  | suspended opened gate verdict called =>
    obtain ⟨admitted, rfl⟩ := made_calls called
    exact ⟨_, .suspended opened admitted gate verdict⟩
  | woken opened gate verdict called =>
    obtain ⟨admitted, rfl⟩ := made_calls called
    exact ⟨_, .woken opened admitted gate verdict⟩
  | ended ends =>
    rcases ends_cases ends with ⟨rejected, rfl⟩ | ⟨admitted, result, calls, called, rfl⟩
    · exact ⟨_, .refused rejected⟩
    · obtain ⟨_, rfl⟩ := made_calls called
      exact ⟨_, .answered admitted result .atOnce⟩
  | late gate verdict called ends =>
    obtain ⟨admitted, rfl⟩ := made_calls called
    rcases ends_cases ends with ⟨rejected, _⟩ | ⟨_, result, calls, again, rfl⟩
    · rw [admitted] at rejected
      cases rejected
    · -- It has its answer, so it does not call again.
      cases again with
      | before => exact ⟨_, .answered admitted result (.later gate)⟩
      | start _ new | detach _ new => cases new
  | discarded shut => exact ⟨_, .discarded shut⟩
  | abandoned shut gate called =>
    obtain ⟨admitted, rfl⟩ := made_calls called
    exact ⟨_, .abandoned shut admitted gate⟩

end Filing

namespace World

variable {w next : World}

def Stands (w : World) (f : Filing) (stage : Stage) : Prop :=
  f.At (w.isClosed f.target) stage (w.placesOf f.task) (w.record f.task)

theorem Lives.stands {f : Filing} (lives : w.Lives f.made f.target) :
    ∃ stage, w.Stands f stage := by
  unfold Stands
  rw [record_eq]
  exact f.at_of_life lives

structure Mute (w : World) (task : TaskRef) : Prop where
  places : ∀ p ∈ w.placesOf task, p.task.job.listener? = none
  record : ∀ running listener event,
    .invoked (some task) running listener event ∉ w.record task

/-- What the manager has made tasks for, and how far they have come. All other tasks are marks. -/
structure Ledger (w : World) : Prop where
  registry : w.manager = .registry
  fresh : ∀ task, w.tasksMade ≤ task → w.Fresh task
  made : ∀ c ∈ w.commissions, c.task < w.tasksMade
  falling : (w.commissions.map Commission.task).Pairwise (· > ·)
  lives : ∀ c ∈ w.commissions, w.Lives c.made c.target
  marks : ∀ task < w.tasksMade, (∃ c ∈ w.commissions, c.task = task) ∨
    ∃ tag target, w.Lives { id := task, job := .mark tag } target

theorem ledger_initial (service : Service) : (World.initial .registry service).Ledger where
  registry := rfl
  fresh _ _ := ⟨rfl, rfl⟩
  made := by simp [World.initial, commissions]
  falling := .nil
  lives := by simp [World.initial, commissions]
  marks := by simp [World.initial]

namespace Ledger

theorem moved (ledger : w.Ledger) (registry : next.manager = .registry)
    (tasksMade : next.tasksMade = w.tasksMade) (commissions : next.commissions = w.commissions)
    (moved : ∀ task, w.Moved next task) : next.Ledger where
  registry := registry
  fresh task later := (moved task).fresh (ledger.fresh task (tasksMade ▸ later))
  made := by
    rw [commissions, tasksMade]
    exact ledger.made
  falling := by
    rw [commissions]
    exact ledger.falling
  lives := by
    rw [commissions]
    exact fun c member => (moved _).lives (ledger.lives c member)
  marks task old := by
    rw [commissions]
    refine (ledger.marks task (tasksMade ▸ old)).imp_right ?_
    rintro ⟨tag, target, lives⟩
    exact ⟨tag, target, (moved _).lives lives⟩

theorem apart (ledger : w.Ledger) : (w.commissions.map Commission.task).Nodup :=
  ledger.falling.imp Nat.ne_of_gt

theorem falling_makes (ledger : w.Ledger) {target : Target} {job : Job} {news : Option Commission}
    (makes : w.Makes next target job news) :
    (next.commissions.map Commission.task).Pairwise (· > ·) := by
  rw [makes.commissions]
  cases news with
  | none => exact ledger.falling
  | some c =>
    refine List.pairwise_cons.2 ⟨fun task member => ?_, ledger.falling⟩
    obtain ⟨old, earlier, rfl⟩ := List.mem_map.1 member
    change old.task < c.task
    rw [(makes.own c rfl).1]
    exact ledger.made old earlier

theorem lives_makes (ledger : w.Ledger) {target : Target} {job : Job} {news : Option Commission}
    (makes : w.Makes next target job news) {c : Commission} (new : c ∈ news) :
    next.Lives c.made c.target := by
  obtain ⟨task, rfl, rfl⟩ := makes.own c new
  have made : c.made = { id := w.tasksMade, job := c.made.job } := by
    rw [← task]
    cases c with
    | request | release => rfl
  rw [made]
  exact makes.born.lives (ledger.fresh _ (Nat.le_refl _))

theorem makes (ledger : w.Ledger) (registry : next.manager = .registry) {target : Target}
    {job : Job} {news : Option Commission} (makes : w.Makes next target job news) :
    next.Ledger where
  registry := registry
  fresh task later := by
    rw [makes.tasksMade] at later
    have old := ledger.fresh task (by omega)
    exact (makes.idles task (by omega)).fresh old
  made := by
    rw [makes.commissions, makes.tasksMade]
    intro c member
    rcases List.mem_append.1 member with new | old
    · rw [(makes.own c (Option.mem_toList.1 new)).1]
      exact Nat.lt_succ_self _
    · exact Nat.lt_succ_of_lt (ledger.made c old)
  falling := ledger.falling_makes makes
  lives := by
    rw [makes.commissions]
    intro c member
    rcases List.mem_append.1 member with new | old
    · exact ledger.lives_makes makes (Option.mem_toList.1 new)
    · have other : c.made.id ≠ w.tasksMade := c.made_id ▸ Nat.ne_of_lt (ledger.made c old)
      exact (Moved.kept makes.closed (makes.idles _ other)).lives (ledger.lives c old)
  marks task old := by
    rw [makes.tasksMade] at old
    rw [makes.commissions]
    by_cases own : task = w.tasksMade
    · cases news with
      | some c => exact .inl ⟨c, List.mem_cons_self .., ((makes.own c rfl).1).trans own.symm⟩
      | none =>
        obtain ⟨tag, rfl⟩ := makes.mark rfl
        rw [own]
        exact .inr ⟨tag, target, makes.born.lives (ledger.fresh _ (Nat.le_refl _))⟩
    · rcases ledger.marks task (by omega) with ⟨c, earlier, same⟩ | ⟨tag, target, lives⟩
      · exact .inl ⟨c, List.mem_append_right _ earlier, same⟩
      · exact .inr ⟨tag, target, (Moved.kept makes.closed (makes.idles _ own)).lives lives⟩

theorem transition {pushed : List Frame} (ledger : w.Ledger)
    (transition : w.Transition next pushed) : next.Ledger := by
  have registry := transition.manager.trans ledger.registry
  cases transition.taskChange.course ledger.registry with
  | moved tasksMade commissions moved => exact ledger.moved registry tasksMade commissions moved
  | makes target job news made => exact ledger.makes registry made

theorem distinct (ledger : w.Ledger) : (w.filings.map (·.task)).Nodup := by
  rw [filings_eq]
  exact (Commission.filings_sublist _).nodup ledger.apart

theorem stands (ledger : w.Ledger) : ∀ f ∈ w.filings, ∃ stage, w.Stands f stage :=
  fun f member => Lives.stands (ledger.lives (.request f) (mem_filings.1 member))

theorem mute (ledger : w.Ledger) (task : TaskRef) :
    (∃ f ∈ w.filings, f.task = task) ∨ w.Mute task := by
  have silent {made : Task} {target : Target} (lives : w.Lives made target)
      (without : made.job.listener? = none) : w.Mute made.id := by
    refine ⟨fun p member => (lives.place_task p member).2 ▸ without, ?_⟩
    intro running listener event member
    rw [record_eq] at member
    have holds := (lives.own _ (List.mem_filter.1 member).1).2 _ _ _ _ rfl
    rw [without] at holds
    cases holds
  rcases Nat.lt_or_ge task w.tasksMade with old | new
  · rcases ledger.marks task old with ⟨c, member, rfl⟩ | ⟨tag, target, lives⟩
    · cases c with
      | request f => exact .inl ⟨f, mem_filings.2 member, rfl⟩
      | release c => exact .inr (silent (ledger.lives _ member) rfl)
    · exact .inr (silent lives rfl)
  · have fresh := ledger.fresh task new
    refine .inr ⟨?_, ?_⟩
    · simp [fresh.places]
    · simp [record_eq, fresh.account]

/-- A task that was made for nothing that has reached the manager does not call the service. -/
theorem served (ledger : w.Ledger) (task : TaskRef) :
    (∃ c ∈ w.commissions, c.task = task) ∨
      (w.account task).filterMap Occurrence.served? = [] := by
  rcases Nat.lt_or_ge task w.tasksMade with old | new
  · exact (ledger.marks task old).imp_right fun ⟨_, _, lives⟩ => List.sublist_nil.1 lives.served
  · rw [(ledger.fresh task new).account]
    exact .inr rfl

theorem length_placesOf_le (ledger : w.Ledger) (task : TaskRef) :
    (w.placesOf task).length ≤ 1 := by
  rcases Nat.lt_or_ge task w.tasksMade with old | new
  · rcases ledger.marks task old with ⟨c, member, rfl⟩ | ⟨tag, target, lives⟩
    · rw [← c.made_id]
      exact (ledger.lives c member).length_places_le
    · exact lives.length_places_le
  · rw [(ledger.fresh task new).places]
    exact Nat.zero_le 1

theorem away (ledger : w.Ledger) {target : Target} {task : Task} {queue : Queue}
    (popped : (w.dispatch.queue target).pop? = some (task, queue)) :
    ∀ p ∈ (w.dispatch.setQueue target queue).places, p.task.id ≠ task.id := by
  intro p member own
  have places := (placesOf_perm (Dispatch.places_pop popped) task.id).length_eq
  have left : 0 < ((w.dispatch.setQueue target queue).places.filter
      fun p => p.task.id = task.id).length :=
    List.length_pos_of_mem (List.mem_filter.2 ⟨member, decide_eq_true own⟩)
  have once := ledger.length_placesOf_le task.id
  rw [List.filter_cons_of_pos (by simp), List.length_cons] at places
  omega

/-- A task that calls the service makes the call of what it was made for, while its target is being
run. -/
theorem called (ledger : w.Ledger) {running : Option Target} {call : Call} {task : TaskRef}
    (told : .called running call ∈ w.trace)
    (calls : (Occurrence.called running call).caller? = some task) :
    ∃ c ∈ w.commissions, c.task = task ∧ running = some c.target ∧
      c.made.job.call? task = some call := by
  obtain ⟨_, _, _, about⟩ := Occurrence.eq_called_of_caller? calls
  have served : (running, call) ∈ (w.account task).filterMap Occurrence.served? :=
    List.mem_filterMap.2 ⟨_, List.mem_filter.2 ⟨told, by simp [about]⟩, rfl⟩
  rcases ledger.served task with ⟨c, member, rfl⟩ | quiet
  · have lives := ledger.lives c member
    rw [← c.made_id] at served ⊢
    obtain ⟨made, job, same⟩ := Option.map_eq_some_iff.1
      (Option.mem_toList.1 (lives.served.subset served))
    obtain ⟨rfl, rfl⟩ := Prod.mk.inj same
    exact ⟨c, member, c.made_id.symm, rfl, job⟩
  · rw [quiet] at served
    cases served

theorem callers_nodup (ledger : w.Ledger) : (w.trace.filterMap Occurrence.caller?).Nodup := by
  refine List.nodup_iff_count_le_one.2 fun task => Nat.le_trans (count_caller w.trace task) ?_
  change ((w.account task).filterMap Occurrence.served?).length ≤ 1
  rcases ledger.served task with ⟨c, member, rfl⟩ | quiet
  · rw [← c.made_id]
    refine Nat.le_trans (ledger.lives c member).served.length_le ?_
    cases c.made.job.call? c.made.id with
    | none => exact Nat.zero_le 1
    | some call => exact Nat.le_refl 1
  · rw [quiet]
    exact Nat.zero_le _

theorem born (ledger : w.Ledger) {target : Target} {job : Job} {f : Filing}
    (makes : w.Makes next target job (some (.request f))) :
    next.Stands f .queued ∨ next.Stands f .dropped := by
  obtain ⟨task, rfl, rfl⟩ := makes.own _ rfl
  change f.task = w.tasksMade at task
  have fresh := ledger.fresh w.tasksMade (Nat.le_refl _)
  unfold Stands
  rw [record_eq]
  cases makes.born with
  | queued opened places account =>
    rw [fresh.places, ← task] at places
    rw [fresh.account, ← task] at account
    change next.isClosed f.target = false at opened
    rw [opened, account, List.perm_singleton.1 places, task]
    exact .inl (task ▸ Filing.At.queued rfl)
  | dropped closed places account =>
    rw [fresh.places, ← task] at places
    rw [fresh.account, ← task] at account
    change next.isClosed f.target = true at closed
    rw [closed, account, List.perm_nil.1 places]
    exact .inr (Filing.At.discarded rfl)

end Ledger

/-- What comes of a request in the call itself. It is queued on its target, or dropped if that is
closed, and no callback is told. -/
structure Files (w next : World) (origin : Option SessionRef) (f : Filing) : Prop where
  rejection : f.rejection = w.rejection? f.request.client f.request.config
  resolved : ∀ session, origin = some session → ∃ s config listener on,
    w.sessions[session]? = some s ∧
    .asked session (.request config listener on) none ∈ w.newly next ∧
    f.request = ⟨s.client, config, listener⟩ ∧ f.target = on.getD s.dispatch
  quiet : ∀ task running listener event,
    .invoked (some task) running listener event ∉ w.newly next
  stands : next.Stands f .queued ∨ next.Stands f .dropped

/-- A move that makes a task tells of no other one, and of the new one only that it is gone. -/
theorem Makes.discarded {target : Target} {job : Job} {news : Option Commission}
    (makes : w.Makes next target job news) (trace : next.trace = w.newly next ++ w.trace)
    {o : Occurrence} (told : o ∈ w.newly next) {task : TaskRef} (about : o.about? = some task) :
    o = .discarded w.tasksMade := by
  have account : next.account task =
      ((w.newly next).filter fun o => o.about? = some task) ++ w.account task := by
    rw [World.account, trace, List.filter_append]
    rfl
  have own : o ∈ (w.newly next).filter fun o => o.about? = some task :=
    List.mem_filter.2 ⟨told, by simp [about]⟩
  by_cases new : task = w.tasksMade
  · subst new
    cases makes.born with
    | queued _ _ same =>
      rw [List.append_left_eq_self.1 (account.symm.trans same)] at own
      cases own
    | dropped _ _ same =>
      have only : ((w.newly next).filter fun o => o.about? = some w.tasksMade) =
          [.discarded w.tasksMade] := List.append_cancel_right (account.symm.trans same)
      rw [only] at own
      exact List.mem_singleton.1 own
  · rw [List.append_left_eq_self.1 (account.symm.trans (makes.idles task new).account)] at own
    cases own

theorem Ledger.files {pushed : List Frame} (ledger : w.Ledger)
    (transition : w.Transition next pushed)
    {origin : Option SessionRef} {running : Option Target} {task : TaskRef} {request : Request}
    {target : Target} {rejection : Option Error}
    (told : .received origin running (.request task request target rejection) ∈ w.newly next) :
    w.Files next origin ⟨task, request, target, rejection⟩ := by
  have changes := transition.sessionChange
  have commissions : next.commissions =
      (w.newly next).filterMap Occurrence.commission? ++ w.commissions := by
    rw [World.commissions, changes.trace, List.filterMap_append]
    rfl
  have filed : .request ⟨task, request, target, rejection⟩ ∈
      (w.newly next).filterMap Occurrence.commission? := List.mem_filterMap.2 ⟨_, told, rfl⟩
  cases transition.taskChange.course ledger.registry with
  | moved _ same =>
    rw [List.append_left_eq_self.1 (commissions.symm.trans same)] at filed
    cases filed
  | makes other job news makes =>
    rw [List.append_cancel_right (commissions.symm.trans makes.commissions), Option.mem_toList]
      at filed
    subst filed
    refine ⟨makes.ruled _ rfl, ?_, ?_, ledger.born makes⟩
    · rintro session rfl
      exact changes.request told
    · intro task running listener event told
      cases makes.discarded changes.trace told rfl

/-- Each request that is made of the manager is one request that it gets, with the target that is
named or the session's own. -/
structure Accepts (w : World) : Prop where
  direct : ∀ nested client config callback listener on, w.held = true →
    w.listener? callback = some listener →
    (w.perform nested (.managerRequest client config callback on)).world.filings =
      ⟨w.tasksMade, ⟨client, config, listener⟩, on.getD defaultTarget,
        w.rejection? client config⟩ :: w.filings
  passed : ∀ nested owner session s config callback listener on,
    w.owned? owner = some session → w.sessions[session]? = some s → w.refusal? s = none →
    w.listener? callback = some listener →
    (w.perform nested (.request owner config callback on)).world.filings =
      ⟨w.tasksMade, ⟨s.client, config, listener⟩, on.getD s.dispatch,
        w.rejection? s.client config⟩ :: w.filings

theorem Ledger.accepts (ledger : w.Ledger) : w.Accepts := by
  constructor
  · intro nested client config callback listener on held known
    obtain ⟨job, makes⟩ := makes_registryRequest (.refl w) none ⟨client, config, listener⟩
      (on.getD defaultTarget)
    have effect : (w.perform nested (.managerRequest client config callback on)).world =
        w.registryRequest none ⟨client, config, listener⟩ (on.getD defaultTarget) := by
      simp [perform, act?, held, known, managerRequest, ledger.registry]
    rw [effect, makes.filings]
  · intro nested owner session s config callback listener on owned found live known
    have asked : w.Approach (w.emit (.asked session (.request config listener on) none)) :=
      (Approach.refl w).noting rfl
    obtain ⟨job, makes⟩ := makes_registryRequest asked (some session)
      ⟨s.client, config, listener⟩ (on.getD s.dispatch)
    have registry : (w.emit (.asked session (.request config listener on) none)).manager =
        .registry := ledger.registry
    have effect : (w.perform nested (.request owner config callback on)).world =
        (w.emit (.asked session (.request config listener on) none)).registryRequest (some session)
          ⟨s.client, config, listener⟩ (on.getD s.dispatch) := by
      simp [perform, act?, owned, known, sessionRequest, found, live, managerRequest, registry]
    rw [effect, makes.filings]
    rfl

end World

namespace Run

theorem Reachable.ledger {service : Service} {r : Run}
    (reachable : Reachable .registry service r) : r.world.Ledger :=
  reachable.keeps (World.ledger_initial service) fun ledger transition =>
    ledger.transition transition

end Run

end Proximity
