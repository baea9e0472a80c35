import Proximity.Run.Perform

/-! A run in progress: the world, and the callbacks and calls that have begun and not ended. Each
tick does one thing that nothing else comes between, so a law about every tick is a law about every
moment of a run, also inside callbacks. -/

set_option autoImplicit false

namespace Proximity

structure Run where
  world : World
  /-- Innermost first. -/
  frames : List Frame := []

namespace Run

/-- Go on with the innermost frame, or with the next task of the target that is being pumped. A run
that has neither is idle. -/
def tick (r : Run) : Option Run :=
  match r.frames with
  | .callback tag event (step :: steps) answers :: outer =>
    let effect := r.world.perform true step
    some ⟨effect.world,
      effect.frames ++ .callback tag event steps (answers ++ [effect.answer]) :: outer⟩
  | .callback tag event [] answers :: outer =>
    some ⟨r.world.emit (.noted (.callback tag r.world.running event answers)), outer⟩
  | .teardown session :: outer =>
    let torn := r.world.teardown session
    some ⟨torn.1, torn.2 ++ outer⟩
  | .republish session :: outer =>
    let asked := r.world.sessionRequest session (.publish {}) .silent none
    some ⟨asked.1, asked.2 ++ outer⟩
  | .conclude session :: outer => some ⟨r.world.conclude session, outer⟩
  | .step step :: outer =>
    let effect := r.world.perform true step
    some ⟨effect.world, effect.frames ++ outer⟩
  | .returned :: outer => some ⟨r.world.disengage, outer⟩
  | [] =>
    match r.world.running with
    | none => none
    | some target =>
      match (r.world.dispatch.queue target).pop? with
      -- Tasks that wait for a gate do not keep a target running.
      | none => some ⟨r.world.rest, []⟩
      | some (task, queue) =>
        let w := { r.world with dispatch := r.world.dispatch.setQueue target queue }
        let ran := (w.beginTask task).runTask target task
        some ⟨ran.1, ran.2⟩

end Run

/-! ### How much is still to do

As long as the manager calls back no more than it may, every tick takes some of it away, so a run
comes to rest within as many ticks as its weight. A session that has not been terminated counts for
what its teardown will leave to do, and a step for what it may start. -/

mutual

def Step.weight : Step → Nat
  | .attach .. | .session .. => 11
  | .request _ _ callback _ | .managerRequest _ _ callback _ => 5 + callbackWeight callback
  | .specifier .. | .managerSpecifier .. => 2
  | .send callback _ => 1 + callbackWeight callback
  | .managerDisconnect .. => 8
  | .spawn .. => 4
  | _ => 1

def callbackWeight : Callback Name Step → Nat
  | .record _ steps => 1 + stepsWeight steps
  | _ => 0

def stepsWeight : List Step → Nat
  | [] => 0
  | step :: steps => step.weight + stepsWeight steps

end

def Listener.weight : Listener → Nat
  | .record _ steps => 1 + stepsWeight steps
  | _ => 0

def Job.weight (job : Job) : Nat :=
  match job.listener? with
  | some listener => Listener.weight listener
  | none => 0

def Task.weight (task : Task) : Nat :=
  (if task.verdict.isNone then 3 else 2) + task.job.weight

def Dispatch.weight (d : Dispatch) : Nat := (d.tasks.map Task.weight).foldr (· + ·) 0

def Frame.weight : Frame → Nat
  | .callback _ _ steps _ => 1 + stepsWeight steps
  | .teardown _ => 1
  | .republish _ => 5
  | .conclude _ => 1
  | .step taken => taken.weight
  | .returned => 1

def Session.weight (s : Session) : Nat := if s.terminated then 0 else 10

def pumpWeight : Option Target → Nat
  | none => 0
  | some _ => 1

def World.weight (w : World) : Nat :=
  w.dispatch.weight + (w.sessions.map Session.weight).foldr (· + ·) 0 + pumpWeight w.running

/-- What the steps may weigh that a manager takes before it returns: a destroy and a publish when it
is told to disconnect, and none otherwise. -/
def ManagerCall.allowance : ManagerCall → Nat
  | .disconnect .. => 6
  | _ => 0

/-- A manager that leaves no more to do than it may, whatever has happened before. -/
def ManagerKind.Restrained : ManagerKind → Prop
  | .foreign conduct => ∀ (call : ManagerCall) (earlier : List ManagerCall),
      stepsWeight (conduct (call :: earlier)).steps ≤ call.allowance ∧
        (conduct (call :: earlier)).outcomes.length ≤ 1
  | _ => True

theorem ManagerKind.Restrained.registry : ManagerKind.registry.Restrained := trivial

theorem ManagerKind.Restrained.permissive (reentrant : Bool) :
    (ManagerKind.permissive reentrant).Restrained := trivial

def framesWeight (frames : List Frame) : Nat := (frames.map Frame.weight).foldr (· + ·) 0

namespace Run

def weight (r : Run) : Nat := r.world.weight + framesWeight r.frames

def advance : Nat → Run → Run
  | 0, r => r
  | ticks + 1, r =>
    match r.tick with
    | none => r
    | some next => next.advance ticks

def settle (r : Run) : Run := r.advance r.weight

end Run

end Proximity
