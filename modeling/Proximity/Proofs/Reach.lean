import Proximity.Run.Tick

/-! The moves of a run and the runs they reach. A run that is idle takes any step from outside; one
that is not goes on by itself. What a move can do to the world is listed once, as a transition, so a
law that every transition keeps holds in every state that is reached, also inside callbacks. -/

set_option autoImplicit false

namespace Proximity

/-- Whether somebody can use a callback: its sender, if it has one, has a name. -/
def World.Knows (w : World) (listener : Listener) : Prop :=
  ∃ callback, w.listener? callback = some listener

/-- What a move can do to a world without a call on a session or on the manager, and the work it
leaves to go on with. -/
inductive World.InternalTransition (w : World) : World → List Frame → Prop where
  | nothing : w.InternalTransition w []
  | race (session : SessionRef) (threads : Nat) :
      w.InternalTransition w (List.replicate threads (.teardown session))
  | makeChannel {as : Name} {effect : Effect} (done : w.makeChannel as = some effect) :
      w.InternalTransition effect.world effect.frames
  | cloneSender {sender as : Name} {effect : Effect}
      (done : w.cloneSender sender as = some effect) :
      w.InternalTransition effect.world effect.frames
  | dropSender {sender : Name} {effect : Effect} (done : w.dropSender sender = some effect) :
      w.InternalTransition effect.world effect.frames
  | dropReceiver {receiver : Name} {effect : Effect}
      (done : w.dropReceiver receiver = some effect) :
      w.InternalTransition effect.world effect.frames
  | poll {receiver : Name} {effect : Effect} (done : w.pollChannel receiver = some effect) :
      w.InternalTransition effect.world effect.frames
  | send (listener : Listener) (event : Event) (known : w.Knows listener) :
      w.InternalTransition (w.invoke none listener event).1 (w.invoke none listener event).2
  | note (note : Note) : w.InternalTransition (w.emit (.noted note)) []
  | spawn (on : Target) (tag : String) : w.InternalTransition (w.spawn on (.mark tag)) []
  | pump (on : Target) : w.InternalTransition { w with running := some on, tasksRun := 0 } []
  | openGate (gate : Name) : w.InternalTransition (w.openGate gate).world []
  | shutdown (on : Target) : w.InternalTransition (w.shutdown on) []
  | run {target : Target} {task : Task} {queue : Queue} (running : w.running = some target)
      (popped : (w.dispatch.queue target).pop? = some (task, queue)) :
      w.InternalTransition
        ((({ w with dispatch := w.dispatch.setQueue target queue } : World).beginTask task).runTask
          target task).1
        ((({ w with dispatch := w.dispatch.setQueue target queue } : World).beginTask task).runTask
          target task).2
  | rest : w.InternalTransition w.rest []

def Step.isInternal : Step → Bool
  | .attach _ | .session .. | .share .. | .drop _ | .destroy _ | .request .. | .specifier ..
  | .dropManager | .managerDisconnect .. | .managerRequest .. | .managerSpecifier .. => false
  | _ => true

inductive World.Transition (w : World) : World → List Frame → Prop where
  | internal {next : World} {pushed : List Frame} (internal : w.InternalTransition next pushed) :
      w.Transition next pushed
  | attach {as : Name} {effect : Effect} (done : w.attach as = some effect) :
      w.Transition effect.world effect.frames
  | session {as : Name} {client : ClientId} {token : Name} {on : Option Target} {effect : Effect}
      (done : w.makeSession as client token on = some effect) :
      w.Transition effect.world effect.frames
  | share {owner as : Name} {session : SessionRef} (owned : w.owned? owner = some session)
      (free : isTaken as w.owners = false) : w.Transition (w.own as session) []
  | drop {owner : Name} {effect : Effect} (done : w.dropOwner owner = some effect) :
      w.Transition effect.world effect.frames
  | teardown (session : SessionRef) : w.Transition (w.teardown session).1 (w.teardown session).2
  | conclude (session : SessionRef) : w.Transition (w.conclude session) []
  | request (session : SessionRef) (config : Config) (listener : Listener) (on : Option Target)
      (known : w.Knows listener) :
      w.Transition (w.sessionRequest session config listener on).1
        (w.sessionRequest session config listener on).2
  | specifier (session : SessionRef) (role : Role) (peer token : Option Bytes) :
      w.Transition (w.sessionSpecifier session role peer token).2.1
        (w.sessionSpecifier session role peer token).2.2
  | dropManager : w.Transition { w with held := false } []
  | managerDisconnect (client : ClientId) (token : Name) :
      w.Transition ((w.tokenNamed token).2.managerDisconnect none client (w.tokenNamed token).1).1
        ((w.tokenNamed token).2.managerDisconnect none client (w.tokenNamed token).1).2
  | managerRequest (request : Request) (target : Target) (known : w.Knows request.listener) :
      w.Transition (w.managerRequest none request target).1 (w.managerRequest none request target).2
  | managerSpecifier (client : ClientId) (role : Role) (peer token : Option Bytes) :
      w.Transition (w.managerSpecifier none client role peer token).2.1
        (w.managerSpecifier none client role peer token).2.2
  | returned : w.Transition w.disengage []

namespace World

theorem internal_of_act? {w : World} {nested : Bool} {step : Step} {effect : Effect}
    (internal : step.isInternal = true) (done : w.act? nested step = some effect) :
    w.InternalTransition effect.world effect.frames := by
  cases step with
  | info owner =>
    simp only [act?, Option.bind_eq_bind, Option.bind_eq_some_iff] at done
    obtain ⟨_, _, _, _, done⟩ := done
    cases done
    exact .nothing
  | isAttached client =>
    simp only [act?] at done
    split at done
    · cases done
      exact .nothing
    · cases done
  | channel as => exact .makeChannel done
  | cloneSender sender as => exact .cloneSender done
  | dropSender sender => exact .dropSender done
  | dropReceiver receiver => exact .dropReceiver done
  | send callback event =>
    simp only [act?, Option.bind_eq_bind, Option.bind_eq_some_iff] at done
    obtain ⟨listener, known, done⟩ := done
    cases done
    exact .send listener event ⟨callback, known⟩
  | poll receiver => exact .poll done
  | woken receiver =>
    simp only [act?, wokenChannel, Option.bind_eq_bind, Option.bind_eq_some_iff] at done
    obtain ⟨_, _, _, _, done⟩ := done
    cases done
    exact .nothing
  | spawn on tag =>
    cases done
    exact .spawn on tag
  | pump on =>
    simp only [act?] at done
    split at done
    · cases done
    · cases done
      exact .pump on
  | openGate gate =>
    cases done
    exact .openGate gate
  | shutdown on =>
    simp only [act?] at done
    split at done
    · cases done
    · cases done
      exact .shutdown on
  | current inside =>
    simp only [act?] at done
    split at done
    · cases done
    · cases done
      exact .nothing
  | raceDestroy owner threads =>
    simp only [act?] at done
    split at done
    · cases done
    · simp only [Option.bind_eq_bind, Option.bind_eq_some_iff] at done
      obtain ⟨session, _, done⟩ := done
      cases done
      exact .race session threads
  | nowhere => cases done
  | attach | session | share | drop | destroy | request | specifier | dropManager
  | managerDisconnect | managerRequest | managerSpecifier => cases internal

theorem transition_of_act? {w : World} {nested : Bool} {step : Step} {effect : Effect}
    (done : w.act? nested step = some effect) : w.Transition effect.world effect.frames := by
  cases step with
  | attach as => exact .attach done
  | session as client token on => exact .session done
  | share owner as =>
    simp only [act?, Option.bind_eq_bind, Option.bind_eq_some_iff] at done
    obtain ⟨session, owned, done⟩ := done
    split at done
    · cases done
    · rename_i free
      cases done
      exact .share owned (by simpa using free)
  | drop owner => exact .drop done
  | destroy owner =>
    simp only [act?, Option.bind_eq_bind, Option.bind_eq_some_iff] at done
    obtain ⟨session, _, done⟩ := done
    cases done
    exact .teardown session
  | request owner config callback on =>
    simp only [act?, Option.bind_eq_bind, Option.bind_eq_some_iff] at done
    obtain ⟨session, _, listener, known, done⟩ := done
    cases done
    exact .request session config listener on ⟨callback, known⟩
  | specifier owner role peer token =>
    simp only [act?, Option.bind_eq_bind, Option.bind_eq_some_iff] at done
    obtain ⟨session, _, done⟩ := done
    cases done
    exact .specifier session role peer token
  | dropManager =>
    simp only [act?] at done
    split at done
    · cases done
      exact .dropManager
    · cases done
  | managerDisconnect client token =>
    simp only [act?] at done
    split at done
    · cases done
      exact .managerDisconnect client token
    · cases done
  | managerRequest client config callback on =>
    simp only [act?] at done
    split at done
    · simp only [Option.bind_eq_bind, Option.bind_eq_some_iff] at done
      obtain ⟨listener, known, done⟩ := done
      cases done
      exact .managerRequest ⟨client, config, listener⟩ (on.getD defaultTarget) ⟨callback, known⟩
    · cases done
  | managerSpecifier client role peer token =>
    simp only [act?] at done
    split at done
    · cases done
      exact .managerSpecifier client role peer token
    · cases done
  | _ => exact .internal (internal_of_act? rfl done)

theorem transition_perform (w : World) (nested : Bool) (step : Step) :
    w.Transition (w.perform nested step).world (w.perform nested step).frames := by
  unfold perform
  cases done : w.act? nested step with
  | none => exact .internal .nothing
  | some effect => exact transition_of_act? done

end World

namespace Run

inductive Next (r : Run) : Run → Prop where
  | tick {next : Run} (ticked : r.tick = some next) : r.Next next
  | step (idle : r.tick = none) (step : Step) :
      r.Next ⟨(r.world.perform false step).world, (r.world.perform false step).frames⟩

/-- The runs that can come about from the start, whatever steps are taken. -/
inductive Reachable (manager : ManagerKind) (service : Service) : Run → Prop where
  | start : Reachable manager service ⟨World.initial manager service, []⟩
  | next {r next : Run} (reachable : Reachable manager service r) (moves : r.Next next) :
      Reachable manager service next

theorem tick_eq_none {r : Run} : r.tick = none ↔ r.frames = [] ∧ r.world.running = none := by
  constructor
  · intro idle
    unfold tick at idle
    split at idle <;> try cases idle
    rename_i frames
    split at idle
    · rename_i running
      exact ⟨frames, running⟩
    · split at idle <;> cases idle
  · rintro ⟨frames, running⟩
    simp [tick, frames, running]

/-- The work that is left when a run goes on: all of it, all but the innermost, or the innermost
less one step. -/
inductive Leaves (r : Run) : List Frame → Prop where
  | all : r.Leaves r.frames
  | outer {frame : Frame} {outer : List Frame} (frames : r.frames = frame :: outer) :
      r.Leaves outer
  | advanced {tag : String} {event : Event} {step : Step} {steps : List Step}
      {answers answered : List Answer} {outer : List Frame}
      (frames : r.frames = .callback tag event (step :: steps) answers :: outer) :
      r.Leaves (.callback tag event steps answered :: outer)

/-- A move is a transition, and the work that the transition leaves comes before what was left. -/
theorem Next.transition {r next : Run} (moves : r.Next next) : ∃ pushed left,
    r.world.Transition next.world pushed ∧ next.frames = pushed ++ left ∧ r.Leaves left := by
  cases moves with
  | step idle step =>
    refine ⟨_, r.frames, World.transition_perform .., ?_, .all⟩
    simp [(tick_eq_none.1 idle).1]
  | tick ticked =>
    unfold Run.tick at ticked
    split at ticked
    · rename_i frames
      cases ticked
      exact ⟨_, _, World.transition_perform .., rfl, .advanced frames⟩
    · rename_i frames
      cases ticked
      exact ⟨[], _, .internal (.note _), rfl, .outer frames⟩
    · rename_i frames
      cases ticked
      exact ⟨_, _, .teardown _, rfl, .outer frames⟩
    · rename_i frames
      cases ticked
      exact ⟨_, _, .request _ _ _ _ ⟨.silent, rfl⟩, rfl, .outer frames⟩
    · rename_i frames
      cases ticked
      exact ⟨[], _, .conclude _, rfl, .outer frames⟩
    · rename_i frames
      cases ticked
      exact ⟨_, _, World.transition_perform .., rfl, .outer frames⟩
    · rename_i frames
      cases ticked
      exact ⟨[], _, .returned, rfl, .outer frames⟩
    · rename_i frames
      split at ticked
      · cases ticked
      · rename_i running
        split at ticked
        · cases ticked
          exact ⟨[], r.frames, .internal .rest, by simp [frames], .all⟩
        · rename_i popped
          cases ticked
          exact ⟨_, r.frames, .internal (.run running popped), by simp [frames], .all⟩

/-- A law of worlds that every transition keeps holds in every world that is reached. -/
theorem Reachable.keeps {manager : ManagerKind} {service : Service} {law : World → Prop}
    (start : law (World.initial manager service))
    (step : ∀ {w next : World} {pushed : List Frame}, law w → w.Transition next pushed → law next)
    {r : Run} (reachable : Reachable manager service r) : law r.world := by
  induction reachable with
  | start => exact start
  | next _ moves ih =>
    obtain ⟨_, _, transition, _⟩ := moves.transition
    exact step ih transition

end Run

end Proximity
