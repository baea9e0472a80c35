import Proximity.Proofs.Tasks

/-! Where callbacks come from: a task tells a callback only for a request that has reached the
manager, and a task is made for one request at most. -/

set_option autoImplicit false

namespace Proximity

namespace World

/-- The request that a task was made for, if it was made for one: the latest that had reached the
manager. -/
def requestFor? (w : World) (task : TaskRef) : Option Request :=
  (w.filings.find? fun filing => filing.task ≤ task).map (·.request)

def Sources (w : World) (task : TaskRef) (listener : Listener) : Prop :=
  ∃ request, w.requestFor? task = some request ∧ request.listener = listener

structure Sourced (w : World) : Prop where
  made : ∀ p ∈ w.dispatch.places, p.task.id < w.tasksMade
  held : ∀ p ∈ w.dispatch.places, ∀ listener, p.task.job.listener? = some listener →
    w.Sources p.task.id listener
  told : ∀ task running listener event, .invoked (some task) running listener event ∈ w.trace →
    task < w.tasksMade ∧ w.Sources task listener

theorem sourced_initial (manager : ManagerKind) (service : Service) :
    (World.initial manager service).Sourced := by
  constructor <;> simp [World.initial, Dispatch.places, Queue.places, Queue.tasks]

variable {w next : World}

theorem requestFor?_of_filings (filings : next.filings = w.filings) (task : TaskRef) :
    next.requestFor? task = w.requestFor? task := by
  rw [requestFor?, requestFor?, filings]

namespace Sourced

/-- Tasks that have not ended are of old or hold what they may, and what was told was held. -/
theorem transfer (sourced : w.Sourced) (later : w.tasksMade ≤ next.tasksMade)
    (same : ∀ task < w.tasksMade, next.requestFor? task = w.requestFor? task)
    (places : ∀ p ∈ next.dispatch.places,
      (∃ q ∈ w.dispatch.places, q.task.id = p.task.id ∧ q.task.job = p.task.job) ∨
      (p.task.id < next.tasksMade ∧ ∀ listener, p.task.job.listener? = some listener →
        next.Sources p.task.id listener))
    (told : ∀ task running listener event,
      .invoked (some task) running listener event ∈ next.trace →
      .invoked (some task) running listener event ∈ w.trace ∨
      ∃ q ∈ w.dispatch.places, q.task.id = task ∧ q.task.job.listener? = some listener) :
    next.Sourced := by
  -- A request that comes later is not the source of a task that was made before it.
  have still {task : TaskRef} {listener : Listener} (old : task < w.tasksMade)
      (source : w.Sources task listener) : next.Sources task listener := by
    rw [Sources, same task old]
    exact source
  constructor
  · intro p member
    rcases places p member with ⟨q, old, id, _⟩ | ⟨new, _⟩
    · rw [← id]
      exact Nat.lt_of_lt_of_le (sourced.made q old) later
    · exact new
  · intro p member listener holds
    rcases places p member with ⟨q, old, id, job⟩ | ⟨_, new⟩
    · rw [← job] at holds
      rw [← id]
      exact still (sourced.made q old) (sourced.held q old listener holds)
    · exact new listener holds
  · intro task running listener event member
    rcases told task running listener event member with old | ⟨q, old, rfl, holds⟩
    · obtain ⟨made, source⟩ := sourced.told task running listener event old
      exact ⟨Nat.lt_of_lt_of_le made later, still made source⟩
    · have made := sourced.made q old
      exact ⟨Nat.lt_of_lt_of_le made later, still made (sourced.held q old listener holds)⟩

theorem transfer_facts (sourced : w.Sourced) {facts : List Occurrence}
    (told : w.Told Occurrence.isFiled next facts) (later : w.tasksMade ≤ next.tasksMade)
    (same : ∀ task < w.tasksMade, next.requestFor? task = w.requestFor? task)
    (places : ∀ p ∈ next.dispatch.places,
      (∃ q ∈ w.dispatch.places, q.task.id = p.task.id ∧ q.task.job = p.task.job) ∨
      (p.task.id < next.tasksMade ∧ ∀ listener, p.task.job.listener? = some listener →
        next.Sources p.task.id listener))
    (facts : ∀ task running listener event, .invoked (some task) running listener event ∈ facts →
      ∃ q ∈ w.dispatch.places, q.task.id = task ∧ q.task.job.listener? = some listener) :
    next.Sourced := by
  refine sourced.transfer later same places fun task running listener event member => ?_
  rcases (told.mem_trace rfl).1 member with new | old
  · exact .inr (facts task running listener event new)
  · exact .inl old

theorem unfiled (sourced : w.Sourced) (unfiled : w.Unfiled next) : next.Sourced := by
  refine sourced.transfer_facts unfiled.told (Nat.le_of_eq unfiled.tasksMade.symm)
    (fun task _ => requestFor?_of_filings unfiled.filings task) ?_ (by simp)
  rw [unfiled.dispatch]
  exact fun p member => .inl ⟨p, member, rfl, rfl⟩

theorem emit (sourced : w.Sourced) {o : Occurrence} (other : o.filing? = none)
    (quiet : ∀ task running listener event, o ≠ .invoked task running listener event) :
    (w.emit o).Sourced := by
  have filings : (w.emit o).filings = w.filings := List.filterMap_cons_none other
  refine sourced.transfer (Nat.le_refl _) (fun task _ => requestFor?_of_filings filings task)
    (fun p member => .inl ⟨p, member, rfl, rfl⟩) fun task running listener event member => ?_
  rcases List.mem_cons.1 member with same | old
  · exact absurd same.symm (quiet _ _ _ _)
  · exact .inl old

theorem spawn (sourced : w.Sourced) {target : Target} {job : Job}
    (source : ∀ listener, job.listener? = some listener → w.Sources w.tasksMade listener) :
    (w.spawn target job).Sourced := by
  have spawns := spawns_spawn w target job
  generalize w.spawn target job = next at spawns
  cases spawns with
  | queued _ dispatch tasksMade told =>
    have filings : next.filings = w.filings := told.filings
    refine sourced.transfer_facts told (by omega)
      (fun task _ => requestFor?_of_filings filings task) ?_ (by simp)
    intro p member
    rw [dispatch, (w.dispatch.places_push ..).mem_iff] at member
    rcases List.mem_cons.1 member with rfl | old
    · refine .inr ⟨by simp [tasksMade], fun listener holds => ?_⟩
      rw [Sources, requestFor?_of_filings filings]
      exact source listener holds
    · exact .inl ⟨p, old, rfl, rfl⟩
  | dropped _ dispatch tasksMade told =>
    refine sourced.transfer_facts told (by omega)
      (fun task _ => requestFor?_of_filings told.filings task) ?_ (by simp)
    rw [dispatch]
    exact fun p member => .inl ⟨p, member, rfl, rfl⟩

/-- A request is the source of every task that is made before the next one comes. -/
theorem received (sourced : w.Sourced) (origin : Option SessionRef) (request : Request)
    (target : Target) (rejection : Option Error) :
    let next := w.emit (.received origin w.running (.request w.tasksMade request target rejection))
    next.Sourced ∧ ∀ task, w.tasksMade ≤ task → next.Sources task request.listener := by
  intro next
  have latest (task : TaskRef) : next.requestFor? task =
      if w.tasksMade ≤ task then some request else w.requestFor? task := by
    change ((⟨w.tasksMade, request, target, rejection⟩ :: w.filings).find?
      fun filing => filing.task ≤ task).map _ = _
    rw [List.find?_cons]
    by_cases before : w.tasksMade ≤ task
    · simp [before]
    · simp [before, requestFor?]
  have told : w.Told Occurrence.isFiled next
      [.received origin w.running (.request w.tasksMade request target rejection)] :=
    (Told.refl w _).emit rfl
  constructor
  · refine sourced.transfer_facts told (Nat.le_refl _) ?_ ?_ (by simp)
    · intro task old
      rw [latest, if_neg (Nat.not_le.2 old)]
    · exact fun p member => .inl ⟨p, member, rfl, rfl⟩
  · intro task made
    exact ⟨request, by rw [latest, if_pos made], rfl⟩

theorem tellOutcomes (sourced : w.Sourced) {listener : Listener}
    (source : ∀ task, w.tasksMade ≤ task → w.Sources task listener)
    (outcomes : List (Target × Option Started)) : (w.tellOutcomes listener outcomes).Sourced := by
  refine Sourced.unfiled ?_ (unfiled_releaseListener ..)
  induction outcomes generalizing w with
  | nil => exact sourced
  | cons outcome rest ih =>
    -- Whatever the outcome, the task that tells it holds the request's own callback.
    have holds (other : Listener)
        (same : (outcomeJob listener outcome.2).listener? = some other) : other = listener := by
      cases told : outcome.2 with
      | none =>
        rw [told] at same
        exact (Option.some.inj same).symm
      | some started =>
        rw [told] at same
        exact (Option.some.inj same).symm
    refine ih (sourced.spawn fun other same => ?_) ?_
    · rw [holds other same]
      exact source _ (Nat.le_refl _)
    · have spawns := spawns_spawn w outcome.1 (outcomeJob listener outcome.2)
      intro task later
      have made : (w.spawn outcome.1 (outcomeJob listener outcome.2)).tasksMade ≤ task := later
      cases spawns with
      | queued _ _ tasksMade told | dropped _ _ tasksMade told =>
        rw [Sources, requestFor?_of_filings told.filings]
        exact source task (by omega)

theorem managerRequest (sourced : w.Sourced) (origin : Option SessionRef) (request : Request)
    (target : Target) : (w.managerRequest origin request target).1.Sourced := by
  unfold World.managerRequest
  split
  · obtain ⟨reached, source⟩ := sourced.received origin request target
      (w.rejection? request.client request.config)
    unfold registryRequest
    simp only
    split
    · refine Sourced.spawn (reached.emit rfl (by simp)) fun listener same => ?_
      rw [← Option.some.inj same]
      exact source _ (Nat.le_refl _)
    · refine reached.spawn fun listener same => ?_
      rw [← Option.some.inj same]
      exact source _ (Nat.le_refl _)
  · obtain ⟨reached, source⟩ := sourced.received origin request target none
    have counted : (w.emit (.received origin w.running (.request w.tasksMade request target
        none))).Unfiled { (w.emit (.received origin w.running (.request w.tasksMade request target
          none))).call (.request request.client request.config) with
          nextStarted := w.nextStarted + 1 } := ⟨rfl, rfl, rfl, rfl, [_], rfl, rfl⟩
    refine (reached.unfiled counted).spawn fun listener same => ?_
    rw [← Option.some.inj same, Sources, requestFor?_of_filings counted.filings]
    exact source _ (Nat.le_refl _)
  · obtain ⟨reached, source⟩ := sourced.received origin request target none
    rename_i conduct _
    have told := reached.tellOutcomes source (conduct (w.emit (.received origin w.running (.request
      w.tasksMade request target none))).managerCalls).outcomes
    apply told.unfiled
    exact .silent rfl rfl rfl rfl rfl

theorem managerDisconnect (sourced : w.Sourced) (origin : Option SessionRef) (client : ClientId)
    (token : Token) : (w.managerDisconnect origin client token).1.Sourced := by
  have told (task : Option TaskRef) :
      (w.emit (.received origin w.running (.disconnect client token task))).Sourced :=
    sourced.emit rfl (by simp)
  unfold World.managerDisconnect
  split
  · unfold registryDisconnect
    simp only
    split
    · exact (told none).unfiled (.emit rfl)
    · split
      · -- No callback is looked up in the table.
        have known := told (some w.nextTask)
        refine Sourced.spawn ?_ (by simp [Job.listener?])
        exact ⟨known.made, known.held, known.told⟩
      · exact (told none).unfiled (.emit rfl)
  · unfold permissiveDisconnect
    simp only
    have called := (told none).unfiled
      (.emit (o := .called w.running (.disconnect client token)) rfl)
    split
    · split
      · exact called.unfiled (.emit rfl)
      · exact called.unfiled (.emit rfl)
    · exact called
  · exact (told none).unfiled (.silent rfl rfl rfl rfl rfl)

/-- The callback of a task that is run was in its place, and a task that waits keeps it. -/
theorem run (sourced : w.Sourced) {before : World} {target : Target} {task : Task} {queue : Queue}
    (popped : (w.dispatch.queue target).pop? = some (task, queue))
    (unfiled : ({ w with dispatch := w.dispatch.setQueue target queue } : World).Unfiled before)
    (runs : before.Runs target task next) : next.Sourced := by
  have places := Dispatch.places_pop popped
  -- The task stood in its queue before it was taken, so the law spoke of it there.
  have own : (⟨target, none, task⟩ : Place) ∈ w.dispatch.places := by
    rw [places.mem_iff]
    exact List.mem_cons_self ..
  have left (p : Place) (member : p ∈ before.dispatch.places) : p ∈ w.dispatch.places := by
    rw [unfiled.dispatch] at member
    rw [places.mem_iff]
    exact List.mem_cons_of_mem _ member
  have begun : w.Told Occurrence.isFiled before [] := unfiled.told
  have made : before.tasksMade = w.tasksMade := unfiled.tasksMade
  have quiet {facts : List Occurrence} (told : before.Told Occurrence.isFiled next facts)
      (other : ∀ o ∈ facts, o.commission? = none) : next.filings = w.filings := by
    rw [filings_eq, filings_eq, (begun.trans told).commissions, List.append_nil,
      List.filterMap_eq_nil_iff.2 other]
    rfl
  cases runs with
  | ended facts ends dispatch tasksMade told =>
    refine sourced.transfer_facts (begun.trans told) (by omega) (fun id _ => requestFor?_of_filings
      (quiet told fun o member => (ends.own o member).2.1) id) ?_ ?_
    · rw [dispatch]
      exact fun p member => .inl ⟨p, left p member, rfl, rfl⟩
    · intro id running listener event member
      rw [List.append_nil] at member
      obtain ⟨same, _, holds⟩ := ends.own _ member
      exact ⟨_, own, (Option.some.inj same).symm, holds _ _ _ _ rfl⟩
  | suspended gate verdict calls called new dispatch tasksMade told =>
    have other : ∀ o ∈ .suspended task.id gate :: calls, o.commission? = none ∧
        ∀ called running listener event, o ≠ .invoked called running listener event := by
      intro o member
      rcases List.mem_cons.1 member with rfl | member
      · exact ⟨rfl, by simp⟩
      · exact (called.own o member).2
    refine sourced.transfer_facts (begun.trans told) (by omega) (fun id _ => requestFor?_of_filings
      (quiet told fun o member => (other o member).1) id) ?_ ?_
    · rw [dispatch]
      intro p member
      rw [(before.dispatch.places_suspend _).mem_iff] at member
      rcases List.mem_cons.1 member with rfl | old
      · exact .inl ⟨_, own, rfl, rfl⟩
      · exact .inl ⟨p, left p old, rfl, rfl⟩
    · intro id running listener event member
      rw [List.append_nil] at member
      exact absurd rfl ((other _ member).2 _ _ _ _)

theorem attached (sourced : w.Sourced) {client : ClientId} {session : SessionRef} {token : Token}
    (dispatch : next.dispatch = w.dispatch) (tasksMade : next.tasksMade = w.tasksMade)
    (told : w.Told Occurrence.isFiled next [.attached client session token]) : next.Sourced := by
  refine sourced.transfer_facts told (Nat.le_of_eq tasksMade.symm)
    (fun task _ => requestFor?_of_filings told.filings task) ?_ (by simp)
  rw [dispatch]
  exact fun p member => .inl ⟨p, member, rfl, rfl⟩

theorem openGate (sourced : w.Sourced) (gate : Name) : (w.openGate gate).world.Sourced := by
  refine sourced.transfer (Nat.le_refl _) (fun _ _ => rfl) ?_ fun _ _ _ _ => .inl
  intro p member
  have woken := (w.dispatch.places_release w.running gate).mem_iff.1 member
  obtain ⟨q, old, rfl⟩ := List.mem_map.1 woken
  refine .inl ⟨q, old, ?_⟩
  unfold Place.wake
  split
  · exact ⟨rfl, rfl⟩
  · exact ⟨rfl, rfl⟩

theorem shutdown (sourced : w.Sourced) (target : Target) : (w.shutdown target).Sourced := by
  obtain ⟨dispatch, tasksMade, told⟩ := filed_discards (w.dispatch.shutdown target).1
    { w with dispatch := (w.dispatch.shutdown target).2 }
  have discarded : w.Told Occurrence.isFiled (w.shutdown target) _ := told
  refine sourced.transfer_facts discarded (Nat.le_of_eq tasksMade.symm)
    (fun task _ => requestFor?_of_filings ?_ task) ?_ ?_
  · rw [discarded.filings, List.filterMap_eq_nil_iff.2]
    · rfl
    · simp [Occurrence.filing?]
  · intro p member
    rw [World.shutdown, dispatch, (w.dispatch.places_shutdown target).1] at member
    exact .inl ⟨p, (List.mem_filter.1 member).1, rfl, rfl⟩
  · simp

theorem taskChange (sourced : w.Sourced) (changes : w.TaskChange next) : next.Sourced := by
  cases changes with
  | idle unfiled => exact sourced.unfiled unfiled
  | attached client session token dispatch tasksMade _ told =>
    exact sourced.attached dispatch tasksMade told
  | requested before origin request target approach same =>
    rw [same]
    exact (sourced.unfiled approach.unfiled).managerRequest origin request target
  | disconnected before origin client token approach same =>
    rw [same]
    exact (sourced.unfiled approach.unfiled).managerDisconnect origin client token
  | spawned on tag same =>
    rw [same]
    exact sourced.spawn (by simp [Job.listener?])
  | ran before target task queue _ popped unfiled _ runs => exact sourced.run popped unfiled runs
  | opened gate same =>
    rw [same]
    exact sourced.openGate gate
  | shut target same =>
    rw [same]
    exact sourced.shutdown target

end Sourced

end World

theorem Run.Reachable.sourced {manager : ManagerKind} {service : Service} {r : Run}
    (reachable : Run.Reachable manager service r) : r.world.Sourced :=
  reachable.keeps (World.sourced_initial manager service) fun sourced transition =>
    sourced.taskChange transition.taskChange

end Proximity
