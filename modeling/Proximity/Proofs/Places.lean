import Mathlib.Data.List.Perm.Basic
import Proximity.Run.Tick

/-! Where tasks are: each that has not ended is queued on a target or waits for a gate. Queues are
read up to their order here. -/

set_option autoImplicit false

namespace Proximity

structure Place where
  target : Target
  gate : Option Name
  task : Task

def Waiting.place (w : Waiting) : Place := ⟨w.target, some w.gate, w.task⟩

def Place.wake (gate : Name) (p : Place) : Place :=
  if p.gate = some gate then { p with gate := none } else p

def Queue.places (target : Target) (q : Queue) : List Place := q.tasks.map (⟨target, none, ·⟩)

namespace Dispatch

def places (d : Dispatch) : List Place :=
  d.main.places .main ++ d.alt.places .alt ++ d.waiting.map Waiting.place

theorem places_perm (d : Dispatch) (target : Target) : d.places.Perm
    ((d.queue target).places target ++
      (d.setQueue target { closed := (d.queue target).closed }).places) := by
  cases target with
  | main => simp [places, queue, setQueue, Queue.places, Queue.tasks]
  | alt =>
    simp only [places, queue, setQueue, Queue.places, Queue.tasks, List.append_assoc]
    -- The other target comes first in the list, so its places are moved past.
    exact List.perm_append_comm_assoc ..

theorem places_setQueue (d : Dispatch) (target : Target) (q : Queue) :
    (d.setQueue target q).places.Perm (q.places target ++
      (d.setQueue target { closed := (d.queue target).closed }).places) := by
  cases target with
  | main => simp [places, setQueue, Queue.places, Queue.tasks]
  | alt =>
    simp only [places, setQueue, Queue.places, Queue.tasks, List.append_assoc]
    exact List.perm_append_comm_assoc ..

end Dispatch

theorem Queue.places_push (q : Queue) (target : Target) (fromInside : Bool) (task : Task) :
    ((q.push fromInside task).places target).Perm (⟨target, none, task⟩ :: q.places target) := by
  cases fromInside with
  | true =>
    simp only [push, places, tasks, if_true, List.map_append, List.append_assoc, List.map_cons,
      List.singleton_append]
    exact List.perm_middle
  | false =>
    simp only [push, places, tasks, Bool.false_eq_true, if_false, List.map_append, List.map_cons,
      List.map_nil, ← List.append_assoc]
    exact List.perm_append_singleton ..

namespace Dispatch

variable {d : Dispatch}

theorem places_push (d : Dispatch) (running : Option Target) (target : Target) (task : Task) :
    (d.push running target task).places.Perm (⟨target, none, task⟩ :: d.places) := by
  apply (places_setQueue d target _).trans
  apply ((Queue.places_push ..).append_right _).trans
  exact (d.places_perm target).symm.cons _

theorem places_pop {target : Target} {task : Task} {left : Queue}
    (popped : (d.queue target).pop? = some (task, left)) :
    d.places.Perm (⟨target, none, task⟩ :: (d.setQueue target left).places) := by
  have first : (d.queue target).places target = ⟨target, none, task⟩ :: left.places target := by
    rw [Queue.places, Queue.tasks_of_pop? popped]
    rfl
  apply (d.places_perm target).trans
  rw [first]
  exact (places_setQueue d target left).symm.cons _

theorem places_suspend (d : Dispatch) (waiting : Waiting) :
    ({ d with waiting := d.waiting ++ [waiting] } : Dispatch).places.Perm
      (waiting.place :: d.places) := by
  simp only [places, List.map_append, List.map_cons, List.map_nil, ← List.append_assoc]
  exact List.perm_append_singleton ..

theorem places_foldl_push (running : Option Target) (released : List Waiting) (d : Dispatch) :
    (released.foldl (fun d w => d.push running w.target w.task) d).places.Perm
      (released.map (fun w => ⟨w.target, none, w.task⟩) ++ d.places) := by
  induction released generalizing d with
  | nil => exact .refl _
  | cons w rest ih =>
    apply (ih _).trans
    apply ((places_push ..).append_left _).trans
    exact List.perm_middle

theorem wake_queue (gate : Name) (q : Queue) (target : Target) :
    (q.places target).map (Place.wake gate) = q.places target := by
  simp [Queue.places, Place.wake, Function.comp_def]

theorem places_release (d : Dispatch) (running : Option Target) (gate : Name) :
    (d.release running gate).places.Perm (d.places.map (Place.wake gate)) := by
  have woken : (d.waiting.filter (·.gate = gate)).map (Place.wake gate ∘ Waiting.place) =
      (d.waiting.filter (·.gate = gate)).map fun w => ⟨w.target, none, w.task⟩ := by
    apply List.map_congr_left
    intro w member
    have same : w.gate = gate := by simpa using (List.mem_filter.1 member).2
    simp [Place.wake, Waiting.place, same]
  have asleep : (d.waiting.filter (·.gate ≠ gate)).map (Place.wake gate ∘ Waiting.place) =
      (d.waiting.filter (·.gate ≠ gate)).map Waiting.place := by
    apply List.map_congr_left
    intro w member
    have other : w.gate ≠ gate := by simpa using (List.mem_filter.1 member).2
    simp [Place.wake, Waiting.place, other]
  -- The waiting tasks part into those of the gate, which are woken, and the others.
  have all : (d.waiting.map (Place.wake gate ∘ Waiting.place)).Perm
      ((d.waiting.filter (·.gate = gate)).map (fun w => ⟨w.target, none, w.task⟩) ++
        (d.waiting.filter (·.gate ≠ gate)).map Waiting.place) := by
    rw [← woken, ← asleep, ← List.map_append]
    refine (List.Perm.map _ ?_).symm
    simpa using List.filter_append_perm (fun w : Waiting => decide (w.gate = gate)) d.waiting
  apply (places_foldl_push ..).trans
  simp only [places, List.map_append, wake_queue, List.map_map]
  refine List.Perm.trans ?_ (all.symm.append_left _)
  rw [← List.append_assoc, ← List.append_assoc _ _ (List.map Waiting.place _)]
  exact (List.perm_append_comm ..).append_right _

end Dispatch

theorem Queue.filter_places (q : Queue) (owner target : Target) :
    (q.places owner).filter (·.target = target) =
      if owner = target then q.places owner else [] := by
  rw [places, List.filter_map]
  by_cases same : owner = target
  · simp [same, Function.comp_def]
  · simp [same, Function.comp_def]

theorem Queue.filter_places_ne (q : Queue) (owner target : Target) :
    (q.places owner).filter (·.target ≠ target) =
      if owner = target then [] else q.places owner := by
  rw [places, List.filter_map]
  by_cases same : owner = target
  · simp [same, Function.comp_def]
  · simp [same, Function.comp_def]

theorem Queue.map_places (q : Queue) (target : Target) :
    (q.places target).map (·.task) = q.tasks := by
  simp [places, Function.comp_def]

namespace Dispatch

variable {d : Dispatch}

theorem places_shutdown (d : Dispatch) (target : Target) :
    (d.shutdown target).2.places = d.places.filter (·.target ≠ target) ∧
      (d.shutdown target).1 = (d.places.filter (·.target = target)).map (·.task) := by
  have waits : (d.waiting.map Waiting.place).filter (·.target = target) =
      (d.waiting.filter (·.target = target)).map Waiting.place := List.filter_map ..
  have others : (d.waiting.map Waiting.place).filter (·.target ≠ target) =
      (d.waiting.filter (·.target ≠ target)).map Waiting.place := List.filter_map ..
  constructor
  · rw [places, places, List.filter_append, List.filter_append, others, Queue.filter_places_ne,
      Queue.filter_places_ne]
    cases target <;> rfl
  · rw [places, List.filter_append, List.filter_append, waits, Queue.filter_places,
      Queue.filter_places, List.map_append, List.map_append, List.map_map]
    cases target with
    | main =>
      rw [if_pos rfl, if_neg (by decide), Queue.map_places, List.map_nil, List.append_nil]
      rfl
    | alt =>
      rw [if_neg (by decide), if_pos rfl, Queue.map_places, List.map_nil, List.nil_append]
      rfl

/-! ### Targets that are closed -/

theorem queue_setQueue (d : Dispatch) (target other : Target) (q : Queue) :
    (d.setQueue target q).queue other = if other = target then q else d.queue other := by
  cases target <;> cases other <;> rfl

theorem closed_setQueue {target : Target} {q : Queue} (same : q.closed = (d.queue target).closed)
    (other : Target) : ((d.setQueue target q).queue other).closed = (d.queue other).closed := by
  rw [queue_setQueue]
  split
  · rename_i own
    rw [same, own]
  · rfl

theorem closed_push (d : Dispatch) (running : Option Target) (target : Target) (task : Task)
    (other : Target) :
    ((d.push running target task).queue other).closed = (d.queue other).closed := by
  apply closed_setQueue
  unfold Queue.push
  split <;> rfl

theorem closed_pop {target : Target} {task : Task} {left : Queue}
    (popped : (d.queue target).pop? = some (task, left)) (other : Target) :
    ((d.setQueue target left).queue other).closed = (d.queue other).closed := by
  apply closed_setQueue
  unfold Queue.pop? at popped
  split at popped <;> cases popped <;> rfl

theorem closed_release (d : Dispatch) (running : Option Target) (gate : Name) (other : Target) :
    ((d.release running gate).queue other).closed = (d.queue other).closed := by
  have pushed (released : List Waiting) (d : Dispatch) :
      ((released.foldl (fun d w => d.push running w.target w.task) d).queue other).closed =
        (d.queue other).closed := by
    induction released generalizing d with
    | nil => rfl
    | cons w rest ih => exact (ih _).trans (closed_push ..)
  apply (pushed _ _).trans
  cases other <;> rfl

theorem closed_shutdown (d : Dispatch) (target other : Target) :
    ((d.shutdown target).2.queue other).closed =
      ((d.queue other).closed || decide (other = target)) := by
  rw [shutdown, queue_setQueue]
  split
  · rename_i own
    simp [own]
  · rename_i foreign
    cases other <;> simp [queue, foreign]

end Dispatch

end Proximity
