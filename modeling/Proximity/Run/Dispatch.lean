import Proximity.Run.Service

/-! Tasks, the two targets they are queued on, and the tasks that wait for a gate. A target serves
what its own tasks queue before what comes from elsewhere, each in the order it came. -/

set_option autoImplicit false

namespace Proximity

/-- A sender of an event channel. Copies of a sender differ in their number alone. -/
structure Sender where
  channel : ChannelRef
  number : Nat
  deriving DecidableEq, Repr

abbrev Listener := Callback Sender Step

def Callback.holds {step : Type} (channel : ChannelRef) : Callback Sender step → Bool
  | .channel sender => sender.channel = channel
  | _ => false

structure Request where
  client : ClientId
  config : Config
  listener : Listener

inductive Job where
  /-- Put a request to the service and tell its listener the outcome. -/
  | start (request : Request)
  | refuse (listener : Listener)
  | detach (client : ClientId)
  /-- Tell a listener of a session that was started without asking. -/
  | announce (started : Started) (listener : Listener)
  | mark (tag : String)

def Job.listener? : Job → Option Listener
  | .start request => some request.listener
  | .refuse listener => some listener
  | .announce _ listener => some listener
  | .detach _ | .mark _ => none

structure Task where
  id : TaskRef
  job : Job
  /-- What the service will answer, once it has been called. -/
  verdict : Option Verdict := none

def Task.holds (channel : ChannelRef) (task : Task) : Bool :=
  match task.job.listener? with
  | some listener => listener.holds channel
  | none => false

structure Queue where
  inside : List Task := []
  outside : List Task := []
  /-- After a shutdown nothing is taken in any more. -/
  closed : Bool := false

namespace Queue

def tasks (q : Queue) : List Task := q.inside ++ q.outside

def push (q : Queue) (fromInside : Bool) (task : Task) : Queue :=
  if fromInside then { q with inside := q.inside ++ [task] }
  else { q with outside := q.outside ++ [task] }

def pop? (q : Queue) : Option (Task × Queue) :=
  match q.inside, q.outside with
  | task :: rest, _ => some (task, { q with inside := rest })
  | [], task :: rest => some (task, { q with outside := rest })
  | [], [] => none

theorem tasks_of_pop? {q left : Queue} {task : Task} (popped : q.pop? = some (task, left)) :
    q.tasks = task :: left.tasks := by
  unfold pop? at popped
  split at popped
  · rename_i inside
    cases popped
    simp [tasks, inside]
  · rename_i inside outside
    cases popped
    simp [tasks, inside, outside]
  · cases popped

end Queue

structure Waiting where
  gate : Name
  target : Target
  task : Task

structure Dispatch where
  main : Queue := {}
  alt : Queue := {}
  /-- In the order the calls came. -/
  waiting : List Waiting := []

namespace Dispatch

def queue (d : Dispatch) : Target → Queue
  | .main => d.main
  | .alt => d.alt

def setQueue (d : Dispatch) (target : Target) (q : Queue) : Dispatch :=
  match target with
  | .main => { d with main := q }
  | .alt => { d with alt := q }

def tasks (d : Dispatch) : List Task :=
  d.main.tasks ++ d.alt.tasks ++ d.waiting.map (·.task)

/-- Queue a task; it counts as from inside when a task of the same target is being run. -/
def push (d : Dispatch) (running : Option Target) (target : Target) (task : Task) : Dispatch :=
  d.setQueue target ((d.queue target).push (running = some target) task)

def release (d : Dispatch) (running : Option Target) (gate : Name) : Dispatch :=
  (d.waiting.filter (·.gate = gate)).foldl (fun d w => d.push running w.target w.task)
    { d with waiting := d.waiting.filter (·.gate ≠ gate) }

/-- Close a target: its tasks, and the ones that wait, are taken out. -/
def shutdown (d : Dispatch) (target : Target) : List Task × Dispatch :=
  let dropped := (d.queue target).tasks ++
    (d.waiting.filter (·.target = target)).map (·.task)
  let left := { d with waiting := d.waiting.filter (·.target ≠ target) }
  (dropped, left.setQueue target { closed := true })

end Dispatch

end Proximity
