import Proximity.Proofs.Overtaking

/-! Outcomes on one target are told in the order of the requests. A request that stands ahead in
line has its callback told first, whatever comes of either, unless its call waits for a gate. -/

set_option autoImplicit false

namespace Proximity

def Occurrence.teller? : Occurrence → Option TaskRef
  | .invoked task _ _ _ => task
  | _ => none

theorem Occurrence.eq_invoked_of_teller {o : Occurrence} {task : TaskRef}
    (tells : o.teller? = some task) :
    ∃ running listener event, o = .invoked (some task) running listener event := by
  cases o with
  | invoked told running listener event =>
    obtain rfl : told = some task := tells
    exact ⟨running, listener, event, rfl⟩
  | _ => cases tells

theorem Dispatch.mem_places_queued {d : Dispatch} {target : Target} {task : Task} :
    (⟨target, none, task⟩ : Place) ∈ d.places ↔ task ∈ (d.queue target).tasks := by
  cases target <;> simp [places, Queue.places, Waiting.place, queue]

namespace World

variable {w next : World}

theorem follows_of_suffix {later earlier : Occurrence} (suffix : w.trace <:+ next.trace)
    (late : later ∈ next.trace) (new : later ∉ w.trace) (old : earlier ∈ w.trace) :
    next.Follows later earlier := by
  obtain ⟨since, split⟩ := suffix
  rw [← split] at late
  obtain ⟨after, between, parts⟩ := List.append_of_mem ((List.mem_append.1 late).resolve_right new)
  refine ⟨after, between ++ w.trace, ?_, List.mem_append_right _ old⟩
  rw [← split, parts, List.append_assoc, List.cons_append]

theorem Follows.of_suffix {later earlier : Occurrence} (follows : w.Follows later earlier)
    (suffix : w.trace <:+ next.trace) : next.Follows later earlier := by
  obtain ⟨since, split⟩ := suffix
  obtain ⟨after, before, parts, member⟩ := follows
  refine ⟨since ++ after, before, ?_, member⟩
  rw [← split, parts, List.append_assoc]

theorem mem_record {task : TaskRef} {o : Occurrence} (about : o.task? = some task) :
    o ∈ w.record task ↔ o ∈ w.trace := by
  simp [record, about]

/-- As long as a request is queued, or once it is dropped, its callback has not been told. -/
theorem untold {f : Filing} (stands : w.Stands f .queued ∨ w.Stands f .dropped)
    (running : Option Target) (listener : Listener) (event : Event) :
    .invoked (some f.task) running listener event ∉ w.trace := by
  have read : (Occurrence.invoked (some f.task) running listener event).task? = some f.task := rfl
  rw [← mem_record read]
  unfold Stands at stands
  generalize w.record f.task = record at stands ⊢
  generalize w.placesOf f.task = places at stands
  rcases stands with stands | stands
  · cases stands with
    | queued | woken => simp [Filing.call]
  · cases stands with
    | discarded | abandoned => simp [Filing.call]

/-- A callback is told by the task that stands first in the queue of the target that is run. -/
theorem TaskChange.telling (changes : w.TaskChange next) (registry : w.manager = .registry)
    (recorded : w.Recorded) {task : TaskRef} {running : Option Target} {listener : Listener}
    {event : Event} (told : .invoked (some task) running listener event ∈ w.newly next) :
    ∃ target run queue, (w.dispatch.queue target).pop? = some (run, queue) ∧ run.id = task := by
  cases changes with
  | idle unfiled => exact absurd ((unfiled.told.mem_newly rfl).1 told) List.not_mem_nil
  | attached _ _ _ _ _ _ attached =>
    cases List.mem_singleton.1 ((attached.mem_newly rfl).1 told)
  | requested before origin request target approach same =>
    rw [same, managerRequest_registry (approach.manager.trans registry)] at told
    obtain ⟨facts, heard, each⟩ := (approach.hears origin request target).facts
    rcases each _ ((heard.mem_newly rfl).1 told) with other | ⟨_, other⟩ | other <;> cases other
  | disconnected before origin client token approach same =>
    obtain ⟨_, takes⟩ := recorded.takes registry approach origin client token
    rw [← same] at takes
    obtain ⟨dropped, only, facts⟩ := takes.told
    rcases List.mem_append.1 ((facts.mem_newly rfl).1 told) with gone | other
    · cases only _ gone
    · cases List.mem_singleton.1 other
  | spawned on tag same =>
    have spawns := spawns_spawn w on (.mark tag)
    rw [← same] at spawns
    cases spawns with
    | queued _ _ _ facts => exact absurd ((facts.mem_newly rfl).1 told) List.not_mem_nil
    | dropped _ _ _ facts => cases List.mem_singleton.1 ((facts.mem_newly rfl).1 told)
  | ran before target run queue _ popped unfiled _ runs =>
    have begun : w.Told Occurrence.isFiled before [] := unfiled.told
    refine ⟨target, run, queue, popped, ?_⟩
    cases runs with
    | ended facts ends _ _ ran =>
      have member := ((begun.trans ran).mem_newly rfl).1 told
      rw [List.append_nil] at member
      exact (Option.some.inj (ends.own _ member).1).symm
    | suspended gate verdict calls called _ _ _ ran =>
      have member := ((begun.trans ran).mem_newly rfl).1 told
      rw [List.append_nil] at member
      rcases List.mem_cons.1 member with other | member
      · cases other
      · exact absurd rfl ((called.own _ member).2.2 _ _ _ _)
  | opened gate same =>
    have still : w.Told Occurrence.isFiled next [] :=
      (Told.refl w _).of_trace (by rw [same]; rfl)
    exact absurd ((still.mem_newly rfl).1 told) List.not_mem_nil
  | shut target same =>
    obtain ⟨_, _, discards⟩ := filed_discards (w.dispatch.shutdown target).1
      { w with dispatch := (w.dispatch.shutdown target).2 }
    rw [same] at told
    have facts : w.Told Occurrence.isFiled (w.shutdown target) _ := discards
    simpa using (facts.mem_newly rfl).1 told

/-- A task that a target takes from its queue is that of a request for the target, it stands in line
before all that have not called, and the target is open. -/
theorem Ledger.popped (ledger : w.Ledger) {f : Filing} (filed : f ∈ w.filings) {target : Target}
    {run : Task} {queue : Queue} (popped : (w.dispatch.queue target).pop? = some (run, queue))
    (own : run.id = f.task) : target = f.target ∧ w.isClosed f.target = false ∧
      (f.task ∈ w.served f.target ∨ run.isNew = true) := by
  have place : (⟨target, none, run⟩ : Place) ∈ w.placesOf f.task := by
    have first : run ∈ (w.dispatch.queue target).tasks := by
      rw [Queue.tasks_of_pop? popped]
      exact List.mem_cons_self ..
    exact List.mem_filter.2 ⟨Dispatch.mem_places_queued.2 first, by simp [own]⟩
  obtain ⟨stage, stands⟩ := ledger.stands f filed
  unfold Stands at stands
  generalize places : w.placesOf f.task = found at stands place
  generalize record : w.record f.task = facts at stands
  generalize w.isClosed f.target = closed at stands ⊢
  cases stands with
  | queued opened =>
    cases List.mem_singleton.1 place
    exact ⟨rfl, opened, .inr rfl⟩
  | woken opened admitted gate verdict =>
    cases List.mem_singleton.1 place
    have called : f.call ∈ w.trace := by
      have about : f.call.task? = some f.task := rfl
      rw [← mem_record about, record]
      simp
    refine ⟨rfl, opened, .inl (List.mem_filterMap.2 ⟨_, called, ?_⟩)⟩
    simp [Filing.call, Occurrence.turn?, Occurrence.served?, Call.task?]
  | suspended => cases List.mem_singleton.1 place
  | refused | answered | discarded | abandoned => cases place

theorem InLine.precedes_of_pop (inLine : w.InLine) {target : Target} {run waits : Task}
    {queue : Queue} (popped : (w.dispatch.queue target).pop? = some (run, queue))
    (ahead : run.id ∈ w.served target ∨ run.isNew = true)
    (queued : waits ∈ (w.dispatch.queue target).tasks) (new : waits.isNew = true)
    (other : waits.id ≠ run.id) : w.Precedes target run.id waits.id := by
  obtain ⟨-, last, across⟩ := List.pairwise_append.1 (inLine.ordered target)
  have behind : waits.id ∈
      ((w.dispatch.queue target).tasks.filter Task.isNew).map (·.id) :=
    List.mem_map_of_mem (List.mem_filter.2 ⟨queued, new⟩)
  rcases ahead with called | fresh
  · exact across _ (List.mem_reverse.2 called) _ behind
  · rw [Queue.tasks_of_pop? popped, List.filter_cons_of_pos fresh, List.map_cons] at last behind
    exact (List.pairwise_cons.1 last).1 _ ((List.mem_cons.1 behind).resolve_left other)

/-- When the task of a later request is taken from its queue, the callback of an earlier one has
been told, unless its call has had to wait. -/
theorem Ledger.told_ahead (ledger : w.Ledger) (inLine : w.InLine) {f g : Filing}
    {origin other : Option SessionRef} {asked shown : Option Target}
    (came : .received origin asked (.request f.task f.request f.target f.rejection) ∈ w.trace)
    (went : .received other shown (.request g.task g.request g.target g.rejection) ∈ w.trace)
    (same : g.target = f.target) (older : f.task < g.task)
    (alike : asked = some f.target ↔ shown = some f.target) {target : Target} {run : Task}
    {queue : Queue} (popped : (w.dispatch.queue target).pop? = some (run, queue))
    (own : run.id = g.task) (free : ∀ gate, .suspended f.task gate ∉ w.trace) :
    ∃ outcome,
      .invoked (some f.task) (some f.target) f.request.listener outcome ∈ w.trace := by
  obtain ⟨rfl, opened, ahead⟩ := ledger.popped (List.mem_filterMap.2 ⟨_, went, rfl⟩) popped own
  rw [same] at popped opened ahead
  obtain ⟨stage, stands⟩ := ledger.stands f (List.mem_filterMap.2 ⟨_, came, rfl⟩)
  have happened {o : Occurrence} (about : o.task? = some f.task) (member : o ∈ w.record f.task) :
      o ∈ w.trace := (mem_record about).1 member
  have waited {gate : Name} (member : .suspended f.task gate ∈ w.record f.task) : False :=
    free gate (happened rfl member)
  unfold Stands at stands
  rw [opened] at stands
  generalize places : w.placesOf f.task = found at stands
  generalize w.record f.task = record at stands happened waited
  cases stands with
  | queued =>
    -- It would stand behind the later one, which nothing allows.
    have place : (⟨f.target, none, f.made⟩ : Place) ∈ w.dispatch.places :=
      (List.mem_filter.1 (places ▸ List.mem_singleton_self _)).1
    have precedes := inLine.precedes_of_pop popped (own ▸ ahead)
      (Dispatch.mem_places_queued.1 place) rfl (own ▸ Nat.ne_of_lt older)
    rw [own] at precedes
    rcases precedes with younger | apart
    · exact absurd younger (Nat.lt_asymm older)
    · have inside : (g.task, shown) ∈ w.sources := List.mem_filterMap.2 ⟨_, went, rfl⟩
      have outside : (f.task, asked) ∈ w.sources := List.mem_filterMap.2 ⟨_, came, rfl⟩
      obtain ⟨within, without⟩ := apart shown asked inside outside
      exact absurd (alike.2 within) without
  | suspended | woken => exact (waited (List.mem_cons_self ..)).elim
  | refused => exact ⟨_, happened rfl (List.mem_cons_self ..)⟩
  | answered _ result => exact ⟨_, happened rfl (List.mem_cons_self ..)⟩
  | discarded shut | abandoned shut => cases shut

end World

namespace Run

variable {service : Service} {r : Run} {earlier : List Run}

/-- The callback of a request is told in a move that finds the request made. -/
theorem History.telling (history : History .registry service (r :: earlier))
    {origin : Option SessionRef} {asked running : Option Target} {f : Filing} {listener : Listener}
    {event : Event}
    (came : .received origin asked (.request f.task f.request f.target f.rejection) ∈ r.world.trace)
    (told : .invoked (some f.task) running listener event ∈ r.world.trace) :
    ∃ before next, Moment (r :: earlier) before next ∧
      .invoked (some f.task) running listener event ∈ before.world.newly next.world ∧
      .received origin asked (.request f.task f.request f.target f.rejection) ∈
        before.world.trace ∧
      next.world.trace <:+ r.world.trace := by
  rcases World.follows_or_follows told came (by simp) with after | before
  · obtain ⟨before, next, moment, new, there, suffix⟩ := history.follows after
    obtain ⟨reached, moves⟩ := history.moment moment
    obtain ⟨_, _, transition, _⟩ := moves.transition
    refine ⟨before, next, moment, new, ?_, suffix⟩
    rw [transition.sessionChange.trace] at there
    refine (List.mem_append.1 there).resolve_left fun filed => ?_
    exact (reached.ledger.files transition filed).quiet _ _ _ _ new
  · -- A request that is new when its callback has been told has not had it told.
    obtain ⟨before, next, moment, new, there, _⟩ := history.follows before
    obtain ⟨reached, moves⟩ := history.moment moment
    obtain ⟨_, _, transition, _⟩ := moves.transition
    have stands := (reached.ledger.files transition new).stands
    exact absurd there (World.untold stands running listener event)

/-- Of two requests for one target that were both made from inside it, or both from outside, the
later one has its callback told only after the earlier one, unless the call that the earlier one
makes has to wait for a gate. -/
theorem Reachable.outcomes_ordered (reachable : Reachable .registry service r)
    {origin other : Option SessionRef} {asked shown running : Option Target}
    {task late : TaskRef} {request following : Request} {target : Target}
    {rejection verdict : Option Error} {listener : Listener} {event : Event}
    (made : r.world.Follows (.received other shown (.request late following target verdict))
      (.received origin asked (.request task request target rejection)))
    (alike : asked = some target ↔ shown = some target)
    (free : ∀ gate, .suspended task gate ∉ r.world.trace)
    (told : .invoked (some late) running listener event ∈ r.world.trace) :
    ∃ outcome, r.world.Follows (.invoked (some late) running listener event)
      (.invoked (some task) (some target) request.listener outcome) := by
  obtain ⟨earlier, history⟩ := reachable.history
  have older := reachable.ledger.lt_of_follows made rfl rfl
  change task < late at older
  let f : Filing := ⟨task, request, target, rejection⟩
  let g : Filing := ⟨late, following, target, verdict⟩
  obtain ⟨before, next, moment, new, went, suffix⟩ := history.telling (f := g) made.mem.1 told
  obtain ⟨reached, moves⟩ := history.moment moment
  obtain ⟨_, _, transition, _⟩ := moves.transition
  have trace := transition.sessionChange.trace
  have known : before.world.trace <:+ r.world.trace :=
    (trace ▸ List.suffix_append ..).trans suffix
  -- The earlier request was there as well, for tasks are made in order.
  have came : .received origin asked (.request task request target rejection) ∈
      before.world.trace := by
    by_contra absent
    have reversed := World.follows_of_suffix known made.mem.2 absent went
    exact Nat.lt_asymm older (reachable.ledger.lt_of_follows reversed rfl rfl)
  obtain ⟨_, _, _, popped, own⟩ := transition.taskChange.telling reached.manager reached.recorded
    new
  obtain ⟨outcome, answered⟩ := reached.ledger.told_ahead reached.inLine (f := f) (g := g) came went
    rfl older alike popped own fun gate waits => free gate (known.subset waits)
  exact ⟨outcome, (World.follows_of_newly new answered trace).of_suffix suffix⟩

def slow : Service := { subscribe := [{ gate := some "gate", verdict := .number 5 }] }

/-- One request waits, the next one is rejected and the last one is started, by two pumps. -/
def threeInTurn : Run :=
  ⟨(World.initial .registry slow).takeAll
    [.attach "only", .request "only" (.subscribe { serviceName := "printer" }) .silent none,
      .pump .main, .request "only" (.publish {}) .silent none,
      .request "only" beacon .silent none, .pump .main], []⟩

theorem received_threeInTurn {f : Filing} (filed : f ∈ threeInTurn.world.filings) :
    ∃ origin, .received origin none (.request f.task f.request f.target f.rejection) ∈
      threeInTurn.world.trace := by
  obtain ⟨o, member, read⟩ := List.mem_filterMap.1 (World.mem_filings.1 filed)
  obtain ⟨origin, running, rfl⟩ := Occurrence.eq_received_of_request read
  have outside : ∀ s ∈ threeInTurn.world.sources, s.2 = none := by decide +kernel
  have source : (f.task, running) ∈ threeInTurn.world.sources :=
    List.mem_filterMap.2 ⟨_, member, rfl⟩
  obtain rfl : running = none := outside _ source
  exact ⟨origin, member⟩

theorem outcomes_ordered_threeInTurn : ∃ rejected ∈ threeInTurn.world.filings,
    rejected.task = 1 ∧ rejected.rejection.isSome = true ∧ ∃ running listener event outcome,
      threeInTurn.world.Follows (.invoked (some 2) running listener event)
        (.invoked (some 1) (some .main) rejected.request.listener outcome) := by
  have reached : Reachable .registry slow threeInTurn := .scenario .registry _
  have only : ∀ o ∈ threeInTurn.world.trace, o.task? = some 1 → o.teller? = some 1 := by
    decide +kernel
  obtain ⟨o, member, tells⟩ : ∃ o ∈ threeInTurn.world.trace, o.teller? = some 2 := by
    decide +kernel
  obtain ⟨f, rejected, task, target, broken⟩ : ∃ f ∈ threeInTurn.world.filings,
      f.task = 1 ∧ f.target = .main ∧ f.rejection.isSome = true := by decide +kernel
  obtain ⟨g, admitted, late, same⟩ : ∃ g ∈ threeInTurn.world.filings,
      g.task = 2 ∧ g.target = .main := by decide +kernel
  obtain ⟨_, came⟩ := received_threeInTurn rejected
  obtain ⟨_, went⟩ := received_threeInTurn admitted
  rw [task, target] at came
  rw [late, same] at went
  have made : threeInTurn.world.Follows _ _ :=
    (World.follows_or_follows went came (by simp)).resolve_right fun reversed =>
      Nat.lt_asymm (reached.ledger.lt_of_follows reversed rfl rfl) (Nat.lt_succ_self 1)
  have free : ∀ gate, .suspended 1 gate ∉ threeInTurn.world.trace := fun gate waiting => by
    cases only _ waiting rfl
  obtain ⟨running, listener, event, rfl⟩ := Occurrence.eq_invoked_of_teller tells
  obtain ⟨outcome, follows⟩ := reached.outcomes_ordered made Iff.rfl free member
  exact ⟨f, rejected, task, broken, running, listener, event, outcome, follows⟩

end Run

end Proximity
