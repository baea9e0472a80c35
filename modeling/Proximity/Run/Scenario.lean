import Proximity.Run.Tick

/-! A whole run: steps taken one after another from outside, and what is told of each. -/

set_option autoImplicit false

namespace Proximity

structure Entry where
  answer : Answer
  log : List Notice
  /-- What reached the service, or the manager that has none, in order. -/
  calls : List Call
  /-- What callbacks and tasks noted, in order. -/
  notes : List Note
  /-- The attached clients afterwards, while there is a manager that keeps them. -/
  attached : Option (List ClientId)

namespace Occurrence

def notice? : Occurrence → Option Notice
  | .logged notice => some notice
  | _ => none

def call? : Occurrence → Option Call
  | .called _ call => some call
  | _ => none

def note? : Occurrence → Option Note
  | .noted note => some note
  | _ => none

end Occurrence

namespace World

/-- What has happened since the trace had the given length, in order. -/
def since (w : World) (length : Nat) : List Occurrence :=
  (w.trace.take (w.trace.length - length)).reverse

def tokenNames (w : World) (token : Token) : List Name :=
  ((w.tokens.filter (·.2 = token)).map (·.1)).mergeSort (· ≤ ·)

def attachedClients (w : World) : Option (List ClientId) :=
  if w.held && w.manager.isRegistry then some w.clients.clients else none

def take (w : World) (step : Step) : Answer × World :=
  let effect := w.perform false step
  (effect.answer, (Run.settle ⟨effect.world, effect.frames⟩).world)

end World

/-- Of a race only its outcome is told: how many callers come too late depends on the threads. -/
def Step.tells : Step → Notice → Bool
  | .raceDestroy .., notice => notice.level ≠ .debug
  | _, _ => true

namespace World

def takeStep (w : World) (step : Step) : Entry × World :=
  let (answer, after) := w.take step
  let happened := after.since w.trace.length
  ({ answer
     log := (happened.filterMap Occurrence.notice?).filter step.tells
     calls := happened.filterMap Occurrence.call?
     notes := happened.filterMap Occurrence.note?
     attached := after.attachedClients }, after)

/-- Take steps in order; each entry comes with the world after it. -/
def takeSteps (w : World) : List Step → List (Entry × World)
  | [] => []
  | step :: steps =>
    let (entry, after) := w.takeStep step
    (entry, after) :: after.takeSteps steps

end World

end Proximity
