import Proximity.Proofs.Ledger
import Proximity.Proofs.TableChanges

/-! The tasks of one target stand in line. Those that have called the service come first, in the
order of their calls, and then those that have not, as they are queued. A task is made behind all
others of its target; only when it is made from inside the target, it goes before those from
outside. -/

set_option autoImplicit false

namespace Proximity

def Task.isNew (task : Task) : Bool := task.verdict.isNone

namespace Occurrence

/-- The task that is made for what reaches the manager, and the target that is being run then. -/
def source? : Occurrence → Option (TaskRef × Option Target)
  | .received origin running call =>
    (Occurrence.received origin running call).commission?.map fun c => (c.task, running)
  | _ => none

def turn? (target : Target) (o : Occurrence) : Option TaskRef :=
  o.served?.bind fun served => if served.1 = some target then served.2.task? else none

theorem source?_of_commission? {o : Occurrence} (other : o.commission? = none) :
    o.source? = none := by
  cases o with
  | received => rw [source?, other, Option.map_none]
  | _ => rfl

theorem source?_of_isFiled {o : Occurrence} (other : o.isFiled = false) : o.source? = none :=
  source?_of_commission? (commission?_of_isRuling (isRuling_of_isFiled other))

theorem turn?_of_isFiled (target : Target) {o : Occurrence} (other : o.isFiled = false) :
    o.turn? target = none := by
  cases o with
  | called running call =>
    cases call with
    | detach | start => cases other
    | _ => exact ite_self _
  | _ => rfl

end Occurrence

/-- A task calls the service at most when it is new, and then it is its own call. -/
theorem Task.Calls.first {task : Task} {running : Option Target} {facts : List Occurrence}
    (called : task.Calls running facts) :
    facts.filterMap Occurrence.served? = [] ∨ task.isNew = true ∧ ∃ call : Call,
      call.task? = some task.id ∧ facts.filterMap Occurrence.served? = [(running, call)] := by
  cases called with
  | before => exact .inl rfl
  | start _ new | detach _ new => exact .inr ⟨by rw [isNew, new]; rfl, _, rfl, rfl⟩

theorem Queue.outside_of_pop? {q left : Queue} {task : Task} (popped : q.pop? = some (task, left)) :
    ∀ other ∈ left.outside, other ∈ q.outside := by
  unfold pop? at popped
  split at popped
  · cases popped
    exact fun _ member => member
  · rename_i outside
    cases popped
    rw [outside]
    exact fun _ member => List.mem_cons_of_mem _ member
  · cases popped

structure Dispatch.SameNew (d after : Dispatch) : Prop where
  tasks : ∀ target, (after.queue target).tasks.filter Task.isNew =
    (d.queue target).tasks.filter Task.isNew
  outside : ∀ target, ∀ task ∈ (after.queue target).outside, task.isNew = true →
    task ∈ (d.queue target).outside

namespace Dispatch

variable {d after last : Dispatch}

theorem queue_push (d : Dispatch) (running : Option Target) (target other : Target) (task : Task) :
    (d.push running target task).queue other = if other = target then
      (d.queue target).push (decide (running = some target)) task else d.queue other := by
  rw [push, queue_setQueue]

theorem SameNew.trans (first : d.SameNew after) (second : after.SameNew last) : d.SameNew last :=
  ⟨fun target => (second.tasks target).trans (first.tasks target), fun target task member new =>
    first.outside target task (second.outside target task member new) new⟩

theorem sameNew_push (d : Dispatch) (running : Option Target) (target : Target) {task : Task}
    (known : task.isNew = false) : d.SameNew (d.push running target task) := by
  constructor
  · intro other
    rw [queue_push]
    split
    · rename_i here
      rw [here, Queue.push]
      split <;> simp [Queue.tasks, known]
    · rfl
  · intro other waits member new
    rw [queue_push] at member
    split at member
    · rename_i here
      rw [here]
      unfold Queue.push at member
      split at member
      · exact member
      · rcases List.mem_append.1 member with old | last
        · exact old
        · rw [List.mem_singleton.1 last, known] at new
          cases new
    · exact member

theorem sameNew_foldl_push (running : Option Target) {released : List Waiting}
    (known : ∀ p ∈ released, p.task.isNew = false) (d : Dispatch) :
    d.SameNew (released.foldl (fun d p => d.push running p.target p.task) d) := by
  induction released generalizing d with
  | nil => exact ⟨fun _ => rfl, fun _ _ member _ => member⟩
  | cons p rest ih =>
    have first := sameNew_push d running p.target (known p (List.mem_cons_self ..))
    exact first.trans (ih (fun q member => known q (List.mem_cons_of_mem _ member)) _)

theorem waiting_foldl_push (running : Option Target) (released : List Waiting) (d : Dispatch) :
    (released.foldl (fun d p => d.push running p.target p.task) d).waiting = d.waiting := by
  induction released generalizing d with
  | nil => rfl
  | cons p rest ih =>
    rw [List.foldl_cons, ih]
    cases p.target <;> rfl

end Dispatch

namespace World

variable {w mid next : World}

/-- The tasks that were made for what has reached the manager, each with the target that was being
run then. -/
def sources (w : World) : List (TaskRef × Option Target) := w.trace.filterMap Occurrence.source?

/-- The tasks that have called the service while the target was being run, the latest first. -/
def served (w : World) (target : Target) : List TaskRef :=
  w.trace.filterMap (Occurrence.turn? target)

def line (w : World) (target : Target) : List TaskRef :=
  (w.served target).reverse ++ ((w.dispatch.queue target).tasks.filter Task.isNew).map (·.id)

/-- Whether one task may go before another on a target: it was made before, or from inside and the
other from outside. -/
def Precedes (w : World) (target : Target) (first second : TaskRef) : Prop :=
  first < second ∨ ∀ inside outside, (first, inside) ∈ w.sources → (second, outside) ∈ w.sources →
    inside = some target ∧ outside ≠ some target

theorem Told.sources {facts : List Occurrence} (told : w.Told Occurrence.isFiled next facts) :
    next.sources = facts.filterMap Occurrence.source? ++ w.sources :=
  told.filterMap fun _ => Occurrence.source?_of_isFiled

theorem Told.served {facts : List Occurrence} (told : w.Told Occurrence.isFiled next facts)
    (target : Target) :
    next.served target = facts.filterMap (Occurrence.turn? target) ++ w.served target :=
  told.filterMap fun _ => Occurrence.turn?_of_isFiled target

/-- Every line is in order. Tasks that wait for a gate have called and are in no queue. -/
structure InLine (w : World) : Prop where
  waits : ∀ p ∈ w.dispatch.waiting, p.task.isNew = false
  made : ∀ target, ∀ task ∈ w.line target, task < w.tasksMade
  outside : ∀ target, ∀ task ∈ (w.dispatch.queue target).outside, task.isNew = true →
    ∀ running, (task.id, running) ∈ w.sources → running ≠ some target
  ordered : ∀ target, (w.line target).Pairwise (w.Precedes target)

theorem inLine_initial (service : Service) : (World.initial .registry service).InLine where
  waits := by simp [World.initial]
  made target := by
    cases target <;> simp [World.initial, line, served, Dispatch.queue, Queue.tasks]
  outside target := by
    cases target <;> simp [World.initial, Dispatch.queue]
  ordered target := by
    cases target <;> simp [World.initial, line, served, Dispatch.queue, Queue.tasks]

/-- What a transition does to the lines: a task joins one, or is dropped at once; or tasks leave and
call in the order in which they stand. -/
inductive Shift (w next : World) : Prop where
  | joined (target : Target) (task : Task) (own : task.id = w.tasksMade)
      (new : task.isNew = true) (tasksMade : next.tasksMade = w.tasksMade + 1)
      (sources : ∀ s ∈ next.sources, s ∈ w.sources ∨ s = (w.tasksMade, w.running))
      (served : ∀ target, next.served target = w.served target)
      (dispatch : next.dispatch = w.dispatch.push w.running target task)
  | dropped (tasksMade : next.tasksMade = w.tasksMade + 1)
      (sources : ∀ s ∈ next.sources, s ∈ w.sources ∨ s = (w.tasksMade, w.running))
      (served : ∀ target, next.served target = w.served target)
      (dispatch : next.dispatch = w.dispatch)
  | moved (tasksMade : next.tasksMade = w.tasksMade) (sources : next.sources = w.sources)
      (waits : ∀ p ∈ next.dispatch.waiting, p.task.isNew = false)
      (outside : ∀ target, ∀ task ∈ (next.dispatch.queue target).outside, task.isNew = true →
        task ∈ (w.dispatch.queue target).outside)
      (line : ∀ target, (next.line target).Sublist (w.line target))

/-! ### Lines stay in order -/

theorem Ledger.source_made (ledger : w.Ledger) {task : TaskRef} {running : Option Target}
    (source : (task, running) ∈ w.sources) : task < w.tasksMade := by
  obtain ⟨o, member, read⟩ := List.mem_filterMap.1 source
  cases o with
  | received =>
    obtain ⟨c, made, same⟩ := Option.map_eq_some_iff.1 read
    rw [← (Prod.mk.inj same).1]
    exact ledger.made c (List.mem_filterMap.2 ⟨_, member, made⟩)
  | _ => cases read

theorem source_old (sources : ∀ s ∈ next.sources, s ∈ w.sources ∨ s = (w.tasksMade, w.running))
    {task : TaskRef} {running : Option Target} (old : task < w.tasksMade)
    (source : (task, running) ∈ next.sources) : (task, running) ∈ w.sources := by
  rcases sources _ source with same | new
  · exact same
  · rw [(Prod.mk.inj new).1] at old
    exact absurd old (Nat.lt_irrefl _)

theorem Ledger.source_new (ledger : w.Ledger)
    (sources : ∀ s ∈ next.sources, s ∈ w.sources ∨ s = (w.tasksMade, w.running))
    {running : Option Target} (source : (w.tasksMade, running) ∈ next.sources) :
    running = w.running := by
  rcases sources _ source with old | new
  · exact absurd (ledger.source_made old) (Nat.lt_irrefl _)
  · exact (Prod.mk.inj new).2

theorem Precedes.keep {target : Target} {first second : TaskRef}
    (precedes : w.Precedes target first second)
    (sources : ∀ s ∈ next.sources, s ∈ w.sources ∨ s = (w.tasksMade, w.running))
    (old : first < w.tasksMade) (older : second < w.tasksMade) :
    next.Precedes target first second :=
  precedes.imp_right fun apart inside outside within without =>
    apart inside outside (source_old sources old within) (source_old sources older without)

theorem line_of_dispatch (served : ∀ target, next.served target = w.served target)
    (dispatch : next.dispatch = w.dispatch) (target : Target) :
    next.line target = w.line target := by
  rw [line, line, served, dispatch]

theorem mem_line_of_outside {target : Target} {task : Task}
    (member : task ∈ (w.dispatch.queue target).outside) (new : task.isNew = true) :
    task.id ∈ w.line target :=
  List.mem_append_right _ (List.mem_map_of_mem
    (List.mem_filter.2 ⟨List.mem_append_right _ member, new⟩))

/-- A task that joins a line stands behind all others, or, from inside, behind all from inside. -/
theorem line_push {target : Target} {task : Task} (new : task.isNew = true)
    (served : ∀ target, next.served target = w.served target)
    (dispatch : next.dispatch = w.dispatch.push w.running target task) :
    ∃ front back, w.line target = front ++ back ∧ next.line target = front ++ task.id :: back ∧
      ∀ id ∈ back, w.running = some target ∧
        ∃ waiting ∈ (w.dispatch.queue target).outside, waiting.isNew = true ∧ waiting.id = id := by
  have queue : next.dispatch.queue target =
      (w.dispatch.queue target).push (decide (w.running = some target)) task := by
    rw [dispatch, Dispatch.queue_push, if_pos rfl]
  by_cases inside : w.running = some target
  · refine ⟨(w.served target).reverse ++
        ((w.dispatch.queue target).inside.filter Task.isNew).map (·.id),
      ((w.dispatch.queue target).outside.filter Task.isNew).map (·.id), ?_, ?_, ?_⟩
    · simp [line, Queue.tasks]
    · simp [line, Queue.tasks, queue, served, Queue.push, inside, new]
    · intro id member
      obtain ⟨waiting, kept, same⟩ := List.mem_map.1 member
      obtain ⟨waits, fresh⟩ := List.mem_filter.1 kept
      exact ⟨inside, waiting, waits, fresh, same⟩
  · refine ⟨w.line target, [], (List.append_nil _).symm, ?_, by simp⟩
    simp [line, Queue.tasks, queue, served, Queue.push, inside, new]

namespace InLine

theorem joined_outside (inLine : w.InLine) (ledger : w.Ledger) {target : Target} {task : Task}
    (own : task.id = w.tasksMade)
    (sources : ∀ s ∈ next.sources, s ∈ w.sources ∨ s = (w.tasksMade, w.running))
    (dispatch : next.dispatch = w.dispatch.push w.running target task) {other : Target}
    {waiting : Task} (member : waiting ∈ (next.dispatch.queue other).outside)
    (fresh : waiting.isNew = true) {running : Option Target}
    (source : (waiting.id, running) ∈ next.sources) : running ≠ some other := by
  have old (stood : waiting ∈ (w.dispatch.queue other).outside) : running ≠ some other :=
    inLine.outside other waiting stood fresh running
      (source_old sources (inLine.made other _ (mem_line_of_outside stood fresh)) source)
  rw [dispatch, Dispatch.queue_push] at member
  split at member
  · rename_i here
    subst here
    by_cases inside : w.running = some other
    · simp only [Queue.push, inside, decide_true, if_true] at member
      exact old member
    · simp only [Queue.push, inside, decide_false, Bool.false_eq_true, if_false] at member
      rcases List.mem_append.1 member with stood | last
      · exact old stood
      · rw [List.mem_singleton.1 last, own] at source
        rw [ledger.source_new sources source]
        exact inside
  · exact old member

/-- A new task may stand before those that come from outside, if it comes from inside itself. -/
theorem joined_ordered (inLine : w.InLine) (ledger : w.Ledger) {target : Target} {task : Task}
    (own : task.id = w.tasksMade)
    (sources : ∀ s ∈ next.sources, s ∈ w.sources ∨ s = (w.tasksMade, w.running))
    {front back : List TaskRef} (before : w.line target = front ++ back)
    (behind : ∀ id ∈ back, w.running = some target ∧
      ∃ waiting ∈ (w.dispatch.queue target).outside, waiting.isNew = true ∧ waiting.id = id) :
    (front ++ task.id :: back).Pairwise (next.Precedes target) := by
  have made : ∀ id ∈ front ++ back, id < w.tasksMade := before ▸ inLine.made target
  have ordered : (front ++ back).Pairwise (next.Precedes target) := by
    rw [← before]
    exact (inLine.ordered target).imp_of_mem fun left right precedes =>
      precedes.keep sources (inLine.made target _ left) (inLine.made target _ right)
  obtain ⟨first, last, across⟩ := List.pairwise_append.1 ordered
  refine List.pairwise_append.2 ⟨first, List.pairwise_cons.2 ⟨?_, last⟩, ?_⟩
  · intro id member
    obtain ⟨inside, waiting, stood, fresh, rfl⟩ := behind id member
    refine .inr fun within without source other => ⟨?_, ?_⟩
    · rw [own] at source
      exact (ledger.source_new sources source).trans inside
    · exact inLine.outside target waiting stood fresh without
        (source_old sources (made _ (List.mem_append_right _ member)) other)
  · intro a left b right
    rcases List.mem_cons.1 right with rfl | right
    · exact .inl (own ▸ made a (List.mem_append_left _ left))
    · exact across a left b right

theorem joined (inLine : w.InLine) (ledger : w.Ledger) {target : Target} {task : Task}
    (own : task.id = w.tasksMade) (new : task.isNew = true)
    (tasksMade : next.tasksMade = w.tasksMade + 1)
    (sources : ∀ s ∈ next.sources, s ∈ w.sources ∨ s = (w.tasksMade, w.running))
    (served : ∀ target, next.served target = w.served target)
    (dispatch : next.dispatch = w.dispatch.push w.running target task) : next.InLine := by
  obtain ⟨front, back, before, after, behind⟩ := line_push new served dispatch
  have same {other : Target} (foreign : other ≠ target) : next.line other = w.line other := by
    rw [line, line, served, dispatch, Dispatch.queue_push, if_neg foreign]
  refine ⟨?_, ?_, ?_, ?_⟩
  · have waiting : next.dispatch.waiting = w.dispatch.waiting := by
      rw [dispatch]
      cases target <;> rfl
    rw [waiting]
    exact inLine.waits
  · intro other id member
    rw [tasksMade]
    by_cases here : other = target
    · have old : id ∈ front ++ back → id < w.tasksMade + 1 := fun stood =>
        Nat.lt_succ_of_lt (inLine.made target id (before ▸ stood))
      rw [here, after] at member
      rcases List.mem_append.1 member with first | rest
      · exact old (List.mem_append_left _ first)
      · rcases List.mem_cons.1 rest with rfl | last
        · exact own ▸ Nat.lt_succ_self _
        · exact old (List.mem_append_right _ last)
    · rw [same here] at member
      exact Nat.lt_succ_of_lt (inLine.made other id member)
  · intro other waiting member fresh running source
    exact inLine.joined_outside ledger own sources dispatch member fresh source
  · intro other
    by_cases here : other = target
    · rw [here, after]
      exact inLine.joined_ordered ledger own sources before behind
    · rw [same here]
      exact (inLine.ordered other).imp_of_mem fun left right precedes =>
        precedes.keep sources (inLine.made other _ left) (inLine.made other _ right)

theorem shift (inLine : w.InLine) (ledger : w.Ledger) (shift : w.Shift next) : next.InLine := by
  cases shift with
  | joined target task own new tasksMade sources served dispatch =>
    exact inLine.joined ledger own new tasksMade sources served dispatch
  | dropped tasksMade sources served dispatch =>
    have line := line_of_dispatch served dispatch
    refine ⟨dispatch ▸ inLine.waits, ?_, ?_, ?_⟩
    · intro target id member
      rw [line] at member
      rw [tasksMade]
      exact Nat.lt_succ_of_lt (inLine.made target id member)
    · rw [dispatch]
      intro target task member new running source
      exact inLine.outside target task member new running
        (source_old sources (inLine.made target _ (mem_line_of_outside member new)) source)
    · intro target
      rw [line]
      exact (inLine.ordered target).imp_of_mem fun left right precedes =>
        precedes.keep sources (inLine.made target _ left) (inLine.made target _ right)
  | moved tasksMade sources waits outside line =>
    refine ⟨waits, ?_, ?_, ?_⟩
    · intro target id member
      rw [tasksMade]
      exact inLine.made target id ((line target).subset member)
    · rw [sources]
      exact fun target task member new =>
        inLine.outside target task (outside target task member new) new
    · intro target
      have same : next.Precedes target = w.Precedes target := by
        funext first second
        rw [Precedes, Precedes, sources]
      rw [same]
      exact (inLine.ordered target).sublist (line target)

end InLine

/-! ### What transitions do to lines -/

theorem shift_still (inLine : w.InLine) (dispatch : next.dispatch = w.dispatch)
    (tasksMade : next.tasksMade = w.tasksMade) {facts : List Occurrence}
    (told : w.Told Occurrence.isFiled next facts)
    (quiet : ∀ o ∈ facts, o.served? = none ∧ o.source? = none) : w.Shift next := by
  have served (target : Target) : next.served target = w.served target := by
    rw [told.served, List.filterMap_eq_nil_iff.2 fun o member => by
      rw [Occurrence.turn?, (quiet o member).1, Option.bind_none]]
    rfl
  refine .moved tasksMade ?_ (dispatch ▸ inLine.waits) ?_ fun target => ?_
  · rw [told.sources, List.filterMap_eq_nil_iff.2 fun o member => (quiet o member).2]
    rfl
  · rw [dispatch]
    exact fun _ _ member _ => member
  · rw [line_of_dispatch served dispatch]

theorem shift_made (tasksMade : next.tasksMade = w.tasksMade + 1)
    (dispatch : next.dispatch = w.dispatch ∨ ∃ target job,
      next.dispatch = w.dispatch.push w.running target { id := w.tasksMade, job })
    {facts : List Occurrence} (told : w.Told Occurrence.isFiled next facts)
    (reads : ∀ o ∈ facts, o.served? = none ∧ ∀ s ∈ o.source?, s = (w.tasksMade, w.running)) :
    w.Shift next := by
  have served (target : Target) : next.served target = w.served target := by
    rw [told.served, List.filterMap_eq_nil_iff.2 fun o member => by
      rw [Occurrence.turn?, (reads o member).1, Option.bind_none]]
    rfl
  have sources : ∀ s ∈ next.sources, s ∈ w.sources ∨ s = (w.tasksMade, w.running) := by
    rw [told.sources]
    intro s member
    rcases List.mem_append.1 member with new | old
    · obtain ⟨o, fact, read⟩ := List.mem_filterMap.1 new
      exact .inr ((reads o fact).2 s read)
    · exact .inl old
  rcases dispatch with same | ⟨target, job, pushed⟩
  · exact .dropped tasksMade sources served same
  · exact .joined target _ rfl rfl tasksMade sources served pushed

theorem dispatch_spawns {target : Target} {job : Job} (spawns : mid.Spawns target job next)
    (dispatch : mid.dispatch = w.dispatch) (running : mid.running = w.running)
    (tasksMade : mid.tasksMade = w.tasksMade) :
    next.tasksMade = w.tasksMade + 1 ∧ (next.dispatch = w.dispatch ∨ ∃ target job,
      next.dispatch = w.dispatch.push w.running target { id := w.tasksMade, job }) := by
  refine ⟨by rw [spawns.tasksMade, tasksMade], ?_⟩
  rw [← dispatch, ← running, ← tasksMade]
  cases spawns with
  | queued _ pushed => exact .inr ⟨target, job, pushed⟩
  | dropped _ same => exact .inl same

theorem dispatch_registryRequest (w : World) (origin : Option SessionRef) (request : Request)
    (target : Target) : ∃ (mid : World) (job : Job),
      mid.Spawns target job (w.registryRequest origin request target) ∧
      mid.dispatch = w.dispatch ∧ mid.running = w.running ∧ mid.tasksMade = w.tasksMade := by
  unfold registryRequest
  simp only
  split
  · exact ⟨_, _, spawns_spawn .., rfl, rfl, rfl⟩
  · exact ⟨_, _, spawns_spawn .., rfl, rfl, rfl⟩

theorem shift_requested {before : World} (approach : w.Approach before)
    (origin : Option SessionRef) (request : Request) (target : Target) :
    w.Shift (before.registryRequest origin request target) := by
  obtain ⟨mid, job, spawns, dispatch, running, made⟩ :=
    dispatch_registryRequest before origin request target
  obtain ⟨tasksMade, pushed⟩ := dispatch_spawns spawns (dispatch.trans approach.unfiled.dispatch)
    (running.trans approach.running) (made.trans approach.unfiled.tasksMade)
  obtain ⟨facts, told, each⟩ := (approach.hears origin request target).facts
  refine shift_made tasksMade pushed told fun o member => ?_
  rcases each o member with rfl | ⟨_, rfl⟩ | rfl
  · exact ⟨rfl, by simp [Occurrence.source?]⟩
  · exact ⟨rfl, by simp [Occurrence.source?]⟩
  · refine ⟨rfl, ?_⟩
    rintro _ ⟨rfl⟩
    rfl

theorem shift_disconnected (inLine : w.InLine) {origin : Option SessionRef} {client : ClientId}
    {token : Token} {task : Option TaskRef} (takes : w.Takes next origin client token task) :
    w.Shift next := by
  obtain ⟨dropped, only, told⟩ := takes.told
  cases takes with
  | honoured before approach _ honours =>
    have reads : ∀ o ∈ dropped ++ [.received origin w.running (.disconnect client token
        (some w.tasksMade))], o.served? = none ∧
        ∀ s ∈ o.source?, s = (w.tasksMade, w.running) := by
      intro o member
      rcases List.mem_append.1 member with gone | fact
      · rw [only o gone]
        exact ⟨rfl, by simp [Occurrence.source?]⟩
      · rw [List.mem_singleton.1 fact]
        refine ⟨rfl, ?_⟩
        rintro _ ⟨rfl⟩
        rfl
    cases honours with
    | queued _ same =>
      refine shift_made ?_ (.inr ⟨defaultTarget, .detach client, ?_⟩) told reads
      · rw [same, approach.unfiled.tasksMade]
      · rw [same, approach.unfiled.tasksMade, approach.unfiled.dispatch, approach.running]
    | dropped _ same =>
      refine shift_made ?_ (.inl ?_) told reads
      · rw [same, approach.unfiled.tasksMade]
      · rw [same, approach.unfiled.dispatch]
  | ignored before approach _ ignores =>
    refine shift_still inLine ?_ ?_ told fun o member => ?_
    · rw [ignores.same, approach.unfiled.dispatch]
    · rw [ignores.same, approach.unfiled.tasksMade]
    · rcases List.mem_append.1 member with gone | fact
      · rw [only o gone]
        exact ⟨rfl, rfl⟩
      · rw [List.mem_singleton.1 fact]
        exact ⟨rfl, rfl⟩

theorem Runs.told {target : Target} {task : Task} (runs : w.Runs target task next) :
    ∃ facts, w.Told Occurrence.isFiled next facts ∧ (∀ o ∈ facts, o.commission? = none) ∧
      (facts.filterMap Occurrence.served? = [] ∨ task.isNew = true ∧ ∃ call : Call,
        call.task? = some task.id ∧ facts.filterMap Occurrence.served? = [(w.running, call)]) := by
  cases runs with
  | ended facts ends _ _ told =>
    refine ⟨facts, told, fun o member => (ends.own o member).2.1, ?_⟩
    rcases ends.served with none_made | ⟨calls, called, same⟩
    · exact .inl none_made
    · rw [same]
      exact called.first
  | suspended gate verdict calls called _ _ _ told =>
    refine ⟨_, told, fun o member => ?_, called.first⟩
    rcases List.mem_cons.1 member with rfl | member
    · rfl
    · exact (called.own o member).2.1

theorem Runs.served {target : Target} {task : Task} (runs : w.Runs target task next)
    (running : w.running = some target) :
    next.sources = w.sources ∧ (∀ other, other ≠ target → next.served other = w.served other) ∧
    (next.served target = w.served target ∨
      task.isNew = true ∧ next.served target = task.id :: w.served target) := by
  obtain ⟨facts, told, quiet, calls⟩ := runs.told
  have served (other : Target) : next.served other =
      ((facts.filterMap Occurrence.served?).filterMap fun served =>
        if served.1 = some other then served.2.task? else none) ++ w.served other := by
    rw [told.served, List.filterMap_filterMap]
    rfl
  refine ⟨?_, fun other foreign => ?_, ?_⟩
  · rw [told.sources, List.filterMap_eq_nil_iff.2 fun o member =>
      Occurrence.source?_of_commission? (quiet o member)]
    rfl
  · rcases calls with none_made | ⟨_, call, _, made⟩
    · rw [served, none_made]
      rfl
    · rw [served, made, running]
      simp [Ne.symm foreign]
  · rcases calls with none_made | ⟨new, call, own, made⟩
    · rw [served, none_made]
      exact .inl rfl
    · rw [served, made, running]
      exact .inr ⟨new, by simp [own]⟩

theorem Runs.queue {target : Target} {task : Task} (runs : w.Runs target task next)
    (other : Target) : next.dispatch.queue other = w.dispatch.queue other := by
  cases runs with
  | ended _ _ dispatch => rw [dispatch]
  | suspended _ _ _ _ _ dispatch =>
    rw [dispatch]
    cases other <;> rfl

theorem Runs.waits {target : Target} {task : Task} (runs : w.Runs target task next)
    (waits : ∀ p ∈ w.dispatch.waiting, p.task.isNew = false) :
    ∀ p ∈ next.dispatch.waiting, p.task.isNew = false := by
  cases runs with
  | ended _ _ dispatch =>
    rw [dispatch]
    exact waits
  | suspended _ _ _ _ _ dispatch =>
    rw [dispatch]
    intro p member
    rcases List.mem_append.1 member with old | last
    · exact waits p old
    · rw [List.mem_singleton.1 last]
      rfl

/-- A task that is run leaves its queue, and calls at most while it stands first. -/
theorem shift_ran (inLine : w.InLine) {before : World} {target : Target} {task : Task}
    {queue : Queue} (running : before.running = some target)
    (popped : (w.dispatch.queue target).pop? = some (task, queue))
    (unfiled : ({ w with dispatch := w.dispatch.setQueue target queue } : World).Unfiled before)
    (runs : before.Runs target task next) : w.Shift next := by
  obtain ⟨sources, others, own⟩ := runs.served running
  have begun (other : Target) : before.served other = w.served other := unfiled.told.served other
  have queues (other : Target) : next.dispatch.queue other =
      if other = target then queue else w.dispatch.queue other := by
    rw [runs.queue, unfiled.dispatch, Dispatch.queue_setQueue]
  have waiting : before.dispatch.waiting = w.dispatch.waiting := by
    rw [unfiled.dispatch]
    cases target <;> rfl
  refine .moved ?_ (sources.trans unfiled.told.sources) (runs.waits (waiting ▸ inLine.waits)) ?_ ?_
  · cases runs with
    | ended _ _ _ tasksMade => exact tasksMade.trans unfiled.tasksMade
    | suspended _ _ _ _ _ _ tasksMade => exact tasksMade.trans unfiled.tasksMade
  · intro other waits member _
    rw [queues] at member
    split at member
    · rename_i here
      rw [here]
      exact Queue.outside_of_pop? popped waits member
    · exact member
  · intro other
    by_cases here : other = target
    · have stood := Queue.tasks_of_pop? popped
      subst here
      rw [line, line, queues, if_pos rfl, stood, ← begun]
      rcases own with same | ⟨new, called⟩
      · rw [same]
        exact (((List.sublist_cons_self task queue.tasks).filter _).map _).append_left _
      · -- It stood first of those that had not called, and now it stands last of those that have.
        rw [called, List.filter_cons_of_pos new]
        simp
    · rw [line, line, queues, if_neg here, others other here, begun]

theorem shift_opened (inLine : w.InLine) (gate : Name) : w.Shift (w.openGate gate).world := by
  have known : ∀ p ∈ w.dispatch.waiting.filter (·.gate = gate), p.task.isNew = false :=
    fun p member => inLine.waits p (List.mem_filter.1 member).1
  have same := Dispatch.sameNew_foldl_push w.running known
    { w.dispatch with waiting := w.dispatch.waiting.filter (·.gate ≠ gate) }
  refine .moved rfl rfl ?_ ?_ ?_
  · intro p member
    change p ∈ (w.dispatch.release w.running gate).waiting at member
    rw [Dispatch.release, Dispatch.waiting_foldl_push] at member
    exact inLine.waits p (List.mem_filter.1 member).1
  · intro target task member new
    have old := same.outside target task member new
    cases target <;> exact old
  · intro target
    have tasks : ((w.openGate gate).world.dispatch.queue target).tasks.filter Task.isNew =
        (w.dispatch.queue target).tasks.filter Task.isNew := by
      refine (same.tasks target).trans ?_
      cases target <;> rfl
    rw [line, line, tasks]
    exact .refl _

theorem shift_shut (inLine : w.InLine) (target : Target) : w.Shift (w.shutdown target) := by
  obtain ⟨dispatch, tasksMade, told⟩ := filed_discards (w.dispatch.shutdown target).1
    { w with dispatch := (w.dispatch.shutdown target).2 }
  have told : w.Told Occurrence.isFiled (w.shutdown target) _ := told
  have dispatch : (w.shutdown target).dispatch = (w.dispatch.shutdown target).2 := dispatch
  have queue (other : Target) : (w.shutdown target).dispatch.queue other =
      if other = target then { closed := true } else w.dispatch.queue other := by
    rw [dispatch, Dispatch.shutdown, Dispatch.queue_setQueue]
    cases other <;> rfl
  have served (other : Target) : (w.shutdown target).served other = w.served other := by
    rw [told.served, List.filterMap_eq_nil_iff.2]
    · rfl
    · simp [Occurrence.turn?, Occurrence.served?]
  refine .moved tasksMade ?_ ?_ ?_ ?_
  · rw [told.sources, List.filterMap_eq_nil_iff.2]
    · rfl
    · simp [Occurrence.source?]
  · intro p member
    have left : p ∈ w.dispatch.waiting.filter (·.target ≠ target) := by
      rw [dispatch, Dispatch.shutdown] at member
      cases target <;> exact member
    exact inLine.waits p (List.mem_filter.1 left).1
  · intro other task member _
    rw [queue] at member
    split at member
    · cases member
    · exact member
  · intro other
    rw [line, line, served, queue]
    split
    · exact (List.nil_sublist _).append_left _
    · exact .refl _

theorem TaskChange.shift (changes : w.TaskChange next) (inLine : w.InLine) (recorded : w.Recorded)
    (registry : w.manager = .registry) : w.Shift next := by
  cases changes with
  | idle unfiled =>
    exact shift_still inLine unfiled.dispatch unfiled.tasksMade unfiled.told (by simp)
  | attached _ _ _ dispatch tasksMade _ told =>
    refine shift_still inLine dispatch tasksMade told fun o member => ?_
    rw [List.mem_singleton.1 member]
    exact ⟨rfl, rfl⟩
  | requested before origin request target approach same =>
    rw [same, managerRequest_registry (approach.manager.trans registry)]
    exact shift_requested approach origin request target
  | disconnected before origin client token approach same =>
    obtain ⟨_, takes⟩ := recorded.takes registry approach origin client token
    rw [← same] at takes
    exact shift_disconnected inLine takes
  | spawned on tag same =>
    have spawns := spawns_spawn w on (.mark tag)
    rw [← same] at spawns
    obtain ⟨tasksMade, dispatch⟩ := dispatch_spawns spawns rfl rfl rfl
    cases spawns with
    | queued _ _ _ told => exact shift_made tasksMade dispatch told (by simp)
    | dropped _ _ _ told =>
      refine shift_made tasksMade dispatch told fun o member => ?_
      rw [List.mem_singleton.1 member]
      exact ⟨rfl, by simp [Occurrence.source?]⟩
  | ran before target task queue running popped unfiled still runs =>
    exact shift_ran inLine (still.trans running) popped unfiled runs
  | opened gate same =>
    rw [same]
    exact shift_opened inLine gate
  | shut target same =>
    rw [same]
    exact shift_shut inLine target

end World

namespace Run

theorem Reachable.inLine {service : Service} {r : Run}
    (reachable : Reachable .registry service r) : r.world.InLine := by
  induction reachable with
  | start => exact World.inLine_initial service
  | next earlier moves ih =>
    obtain ⟨_, _, transition, _⟩ := moves.transition
    exact ih.shift earlier.ledger (transition.taskChange.shift ih earlier.recorded earlier.manager)

end Run

end Proximity
