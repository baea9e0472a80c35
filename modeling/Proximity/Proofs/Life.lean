import Proximity.Proofs.Moves

/-! A task that has been made is queued on its target, waits for a gate if the service has to, and
ends once, unless its target is shut down before. -/

set_option autoImplicit false

namespace Proximity

def Job.call? (task : TaskRef) : Job → Option Call
  | .start request => some (.start task request.client request.config)
  | .detach client => some (.detach task client)
  | _ => none

theorem Commission.call?_made (c : Commission) : c.made.job.call? c.task =
    match c with
    | .request f =>
      if f.rejection.isSome then none else some (.start f.task f.request.client f.request.config)
    | .release c => some (.detach c.task c.client) := by
  cases c with
  | request f =>
    cases rejected : f.rejection <;> simp [made, Filing.made, rejected, Job.call?, task]
  | release c => rfl

def Occurrence.served? : Occurrence → Option (Option Target × Call)
  | .called running call => some (running, call)
  | _ => none

def Call.task? : Call → Option TaskRef
  | .start task _ _ | .detach task _ => some task
  | _ => none

def Occurrence.caller? : Occurrence → Option TaskRef
  | .called _ call => call.task?
  | _ => none

namespace Task

variable {task : Task} {running : Option Target} {facts : List Occurrence}

theorem Calls.served (called : task.Calls running facts) :
    (facts.filterMap Occurrence.served?).Sublist
      ((task.job.call? task.id).map (running, ·)).toList := by
  cases called with
  | before => exact List.nil_sublist _
  | start job | detach job =>
    rw [job]
    exact .refl _

theorem Calls.eq_nil (called : task.Calls running facts) (known : task.verdict.isSome = true) :
    facts = [] := by
  cases called with
  | before => rfl
  | start _ new | detach _ new =>
    rw [new] at known
    cases known

theorem Ends.served (ends : task.Ends running facts) :
    facts.filterMap Occurrence.served? = [] ∨ ∃ calls, task.Calls running calls ∧
      facts.filterMap Occurrence.served? = calls.filterMap Occurrence.served? := by
  cases ends with
  | answered _ _ called | detached _ _ called => exact .inr ⟨_, called, rfl⟩
  | refused | announced | marked => exact .inl rfl

end Task

/-- How far a task has come since it was made, by where it is, by what has happened to it, the
latest first, and by whether its target is closed. -/
inductive Task.Life (made : Task) (target : Target) (closed : Bool) :
    List Place → List Occurrence → Prop where
  | queued (opened : closed = false) : made.Life target closed [⟨target, none, made⟩] []
  | suspended {calls : List Occurrence} (opened : closed = false) (gate : Name) (verdict : Verdict)
      (called : made.Calls (some target) calls) :
      made.Life target closed [⟨target, some gate, { made with verdict := some verdict }⟩]
        (.suspended made.id gate :: calls)
  | woken {calls : List Occurrence} (opened : closed = false) (gate : Name) (verdict : Verdict)
      (called : made.Calls (some target) calls) :
      made.Life target closed [⟨target, none, { made with verdict := some verdict }⟩]
        (.suspended made.id gate :: calls)
  | ended {facts : List Occurrence} (ends : made.Ends (some target) facts) :
      made.Life target closed [] facts
  /-- It has waited for its gate before it ended. -/
  | late {facts calls : List Occurrence} (gate : Name) (verdict : Verdict)
      (called : made.Calls (some target) calls)
      (ends : { made with verdict := some verdict : Task }.Ends (some target) facts) :
      made.Life target closed [] (facts ++ .suspended made.id gate :: calls)
  | discarded (shut : closed = true) : made.Life target closed [] [.discarded made.id]
  /-- Its target went while it was waiting, or before it could go on. -/
  | abandoned {calls : List Occurrence} (shut : closed = true) (gate : Name)
      (called : made.Calls (some target) calls) :
      made.Life target closed [] (.discarded made.id :: .suspended made.id gate :: calls)

namespace Task.Life

variable {made : Task} {target : Target} {closed : Bool} {places : List Place}
  {account : List Occurrence}

theorem length_places_le (life : made.Life target closed places account) : places.length ≤ 1 := by
  cases life with
  | queued | suspended | woken | ended | late | discarded | abandoned => simp

theorem of_perm {now : List Place} (life : made.Life target closed places account)
    (perm : now.Perm places) : made.Life target closed now account := by
  have same : now = places := by
    cases life with
    | queued | suspended | woken => exact List.perm_singleton.1 perm
    | ended | late | discarded | abandoned => exact List.perm_nil.1 perm
  rw [same]
  exact life

/-- A task that is taken from its queue has not called the service, or has its answer. -/
theorem popped {at_ : Target} {run : Task} {left : List Place}
    (life : made.Life target closed (⟨at_, none, run⟩ :: left) account) :
    at_ = target ∧ left = [] ∧ closed = false ∧
      ((run = made ∧ account = []) ∨
      ∃ gate verdict calls, run = { made with verdict := some verdict } ∧
        made.Calls (some target) calls ∧ account = .suspended made.id gate :: calls) := by
  cases life with
  | queued opened => exact ⟨rfl, rfl, opened, .inl ⟨rfl, rfl⟩⟩
  | woken opened gate verdict called =>
    exact ⟨rfl, rfl, opened, .inr ⟨gate, verdict, _, rfl, called, rfl⟩⟩

theorem run_ends {at_ : Target} {run : Task} {left : List Place} {facts : List Occurrence}
    (life : made.Life target closed (⟨at_, none, run⟩ :: left) account)
    (ends : run.Ends (some at_) facts) : made.Life target closed left (facts ++ account) := by
  obtain ⟨rfl, rfl, _, ⟨rfl, rfl⟩ | ⟨gate, verdict, calls, rfl, called, rfl⟩⟩ := life.popped
  · rw [List.append_nil]
    exact .ended ends
  · exact .late gate verdict called ends

/-- A task waits for one gate at most: afterwards it has its answer. -/
theorem run_waits {at_ : Target} {run : Task} {left : List Place} {calls : List Occurrence}
    (life : made.Life target closed (⟨at_, none, run⟩ :: left) account)
    (new : run.verdict = none) (called : run.Calls (some at_) calls) (gate : Name)
    (verdict : Verdict) :
    made.Life target closed (⟨at_, some gate, { run with verdict := some verdict }⟩ :: left)
      (.suspended made.id gate :: calls ++ account) := by
  obtain ⟨rfl, rfl, opened, ⟨rfl, rfl⟩ | ⟨_, _, _, rfl, _, rfl⟩⟩ := life.popped
  · rw [List.append_nil]
    exact .suspended opened gate verdict called
  · cases new

theorem wake (life : made.Life target closed places account) (gate : Name) :
    made.Life target closed (places.map (Place.wake gate)) account := by
  cases life with
  | queued opened => exact .queued opened
  | woken opened gate verdict called => exact .woken opened gate verdict called
  | suspended opened waits verdict called =>
    by_cases own : waits = gate
    · subst own
      rw [List.map_cons, Place.wake, if_pos rfl]
      exact .woken opened waits verdict called
    · rw [List.map_cons, Place.wake, if_neg fun same => own (Option.some.inj same)]
      exact .suspended opened waits verdict called
  | ended ends => exact .ended ends
  | late gate verdict called ends => exact .late gate verdict called ends
  | discarded shut => exact .discarded shut
  | abandoned shut gate called => exact .abandoned shut gate called

theorem place_target (life : made.Life target closed places account) :
    ∀ p ∈ places, p.target = target := by
  cases life with
  | queued | suspended | woken | ended | late | discarded | abandoned => simp

/-- A target that is shut down drops the tasks that have not come to their end. -/
theorem shut (life : made.Life target closed places account) (other : Target) :
    made.Life target (closed || decide (target = other)) (places.filter (·.target ≠ other))
      ((places.filter (·.target = other)).map (fun _ => .discarded made.id) ++ account) := by
  by_cases own : target = other
  · cases life with
    | queued => simpa [own] using Life.discarded rfl
    | woken _ gate _ called | suspended _ gate _ called =>
      simpa [own] using Life.abandoned rfl gate (own ▸ called)
    | ended ends => exact .ended ends
    | late gate verdict called ends => exact .late gate verdict called ends
    | discarded shut => exact .discarded (by simp [shut])
    | abandoned shut gate called => exact .abandoned (by simp [shut]) gate called
  · -- Everything the task has is on its own target.
    have stays : places.filter (·.target ≠ other) = places :=
      List.filter_eq_self.2 fun p member => by simpa [life.place_target p member] using own
    have none_goes : places.filter (·.target = other) = [] :=
      List.filter_eq_nil_iff.2 fun p member => by simpa [life.place_target p member] using own
    rw [stays, none_goes, decide_eq_false own, Bool.or_false]
    exact life

/-- What a task is in its places is what it was made as, but for the answer it waits for. -/
theorem place_task (life : made.Life target closed places account) :
    ∀ p ∈ places, p.task.id = made.id ∧ p.task.job = made.job := by
  cases life with
  | queued | suspended | woken | ended | late | discarded | abandoned => simp

/-- What a task tells is its own, and the callback that it tells is its own. -/
theorem own (life : made.Life target closed places account) :
    ∀ o ∈ account, o.about? = some made.id ∧
      ∀ called running listener event, o = .invoked called running listener event →
        made.job.listener? = some listener := by
  have ofCalls {calls : List Occurrence} (called : made.Calls (some target) calls) (gate : Name)
      (o : Occurrence) (member : o ∈ .suspended made.id gate :: calls) :
      o.about? = some made.id ∧ ∀ called running listener event,
        o = .invoked called running listener event → made.job.listener? = some listener := by
    rcases List.mem_cons.1 member with rfl | member
    · exact ⟨rfl, by simp⟩
    · obtain ⟨own, _, quiet⟩ := called.own o member
      exact ⟨own, fun _ _ _ _ same => absurd same (quiet _ _ _ _)⟩
  intro o member
  cases life with
  | queued => cases member
  | suspended _ gate _ called | woken _ gate _ called => exact ofCalls called gate o member
  | ended ends => exact ⟨(ends.own o member).1, (ends.own o member).2.2⟩
  | late gate _ called ends =>
    rcases List.mem_append.1 member with member | member
    · exact ⟨(ends.own o member).1, (ends.own o member).2.2⟩
    · exact ofCalls called gate o member
  | discarded =>
    rw [List.mem_singleton.1 member]
    exact ⟨rfl, by simp⟩
  | abandoned _ gate called =>
    rcases List.mem_cons.1 member with rfl | member
    · exact ⟨rfl, by simp⟩
    · exact ofCalls called gate o member

/-- A task makes the call of its job, once at most, while its target is being run. -/
theorem served (life : made.Life target closed places account) :
    (account.filterMap Occurrence.served?).Sublist
      ((made.job.call? made.id).map (some target, ·)).toList := by
  cases life with
  | queued | discarded => exact List.nil_sublist _
  | suspended _ _ _ called | woken _ _ _ called | abandoned _ _ called => exact called.served
  | ended ends =>
    rcases ends.served with none_made | ⟨calls, called, same⟩
    · rw [none_made]
      exact List.nil_sublist _
    · rw [same]
      exact called.served
  | late gate verdict called ends =>
    rcases ends.served with told | ⟨_, again, told⟩
    · rw [List.filterMap_append, told]
      exact called.served
    · rw [again.eq_nil rfl] at told
      rw [List.filterMap_append, told]
      exact called.served

end Task.Life

theorem Occurrence.eq_called_of_caller? {o : Occurrence} {task : TaskRef}
    (calls : o.caller? = some task) :
    ∃ running call, o = .called running call ∧ o.about? = some task := by
  cases o with
  | called running call =>
    refine ⟨running, call, rfl, ?_⟩
    cases call with
    | detach | start => exact calls
    | _ => cases calls
  | _ => cases calls

theorem count_caller (told : List Occurrence) (task : TaskRef) :
    (told.filterMap Occurrence.caller?).count task ≤
      ((told.filter fun o => o.about? = some task).filterMap Occurrence.served?).length := by
  induction told with
  | nil => exact Nat.le_refl _
  | cons o rest ih =>
    have more := (((List.sublist_cons_self o rest).filter fun o => o.about? = some task).filterMap
      Occurrence.served?).length_le
    cases calls : o.caller? with
    | none =>
      rw [List.filterMap_cons_none calls]
      exact Nat.le_trans ih more
    | some other =>
      obtain ⟨running, call, rfl, about⟩ := Occurrence.eq_called_of_caller? calls
      rw [List.filterMap_cons_some calls]
      by_cases own : other = task
      · rw [own, List.count_cons_self, List.filter_cons_of_pos (by simp [about, own])]
        exact Nat.succ_le_succ ih
      · rw [List.count_cons_of_ne own]
        exact Nat.le_trans ih more

namespace World

variable {w next : World}

def Lives (w : World) (made : Task) (target : Target) : Prop :=
  made.Life target (w.isClosed target) (w.placesOf made.id) (w.account made.id)

theorem Moved.lives {made : Task} {target : Target} (moved : w.Moved next made.id)
    (lives : w.Lives made target) : next.Lives made target := by
  unfold Lives at lives ⊢
  cases moved with
  | kept closed idles =>
    rw [closed, idles.account]
    exact lives.of_perm idles.places
  | ended _ run facts closed _ places ends account =>
    rw [closed, account]
    exact (lives.of_perm places.symm).run_ends ends
  | suspended _ run gate verdict calls left closed _ new before places called account =>
    rw [closed, account]
    exact ((lives.of_perm before.symm).run_waits new called gate verdict).of_perm places
  | woken gate closed places account =>
    rw [closed, account]
    exact (lives.wake gate).of_perm places
  | shut other closed places account =>
    rw [closed, account, places]
    exact lives.shut other

structure Fresh (w : World) (task : TaskRef) : Prop where
  places : w.placesOf task = []
  account : w.account task = []

theorem Idles.fresh {task : TaskRef} (idles : w.Idles next task) (fresh : w.Fresh task) :
    next.Fresh task :=
  ⟨List.perm_nil.1 (fresh.places ▸ idles.places), idles.account.trans fresh.account⟩

theorem Moved.fresh {task : TaskRef} (moved : w.Moved next task) (fresh : w.Fresh task) :
    next.Fresh task := by
  cases moved with
  | kept _ idles => exact idles.fresh fresh
  | ended _ _ _ _ _ places =>
    rw [fresh.places] at places
    exact absurd places (List.not_perm_nil_cons _ _)
  | suspended _ _ _ _ _ _ _ _ _ before =>
    rw [fresh.places] at before
    exact absurd before (List.not_perm_nil_cons _ _)
  | woken gate _ places account =>
    rw [fresh.places] at places
    exact ⟨List.perm_nil.1 places, account.trans fresh.account⟩
  | shut target _ places account =>
    rw [fresh.places] at places account
    exact ⟨places, account.trans fresh.account⟩

theorem Born.lives {target : Target} {job : Job} (born : w.Born next target job)
    (fresh : w.Fresh w.tasksMade) : next.Lives { id := w.tasksMade, job } target := by
  unfold Lives
  cases born with
  | queued opened places account =>
    rw [fresh.places] at places
    rw [fresh.account] at account
    rw [opened, account]
    exact (Task.Life.queued rfl).of_perm places
  | dropped closed places account =>
    rw [fresh.places] at places
    rw [fresh.account] at account
    rw [closed, account]
    exact (Task.Life.discarded rfl).of_perm places

end World

end Proximity
