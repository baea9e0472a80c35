import Proximity.Proofs.Sessions
import Proximity.Proofs.Rest
import Proximity.Run.Scenario

/-! A step always comes to rest, so a run is never stuck inside a callback: what a whole scenario
tells of are states that are reached between steps. -/

set_option autoImplicit false

namespace Proximity

theorem World.Transition.manager {w next : World} {pushed : List Frame}
    (transition : w.Transition next pushed) :
    next.manager = w.manager := by
  cases transition with
  | internal internal => exact internal.aside.manager
  | attach done =>
    obtain ⟨_, _, aside | ⟨client, attaches⟩⟩ := attach_cases done
    · exact aside.manager
    · exact congrArg Standing.manager attaches.standing
  | session done =>
    obtain ⟨_, _, made⟩ := makeSession_eq done
    rw [made, own, addSession, tokenNamed_eq]
    rfl
  | share => rfl
  | drop done =>
    obtain ⟨session, _, ⟨_, rfl⟩ | ⟨_, rfl⟩⟩ := dropOwner_cases done
    · rfl
    · exact (dropSession_retains (w.disown _) session).manager
  | teardown session => exact (teardown_retains w session).manager
  | conclude session => exact (conclude_retains w session).manager
  | request => exact congrArg Standing.manager (sessionRequest_standing ..)
  | specifier => exact congrArg Standing.manager (sessionSpecifier_standing ..)
  | dropManager => rfl
  | managerDisconnect client token =>
    apply (congrArg Standing.manager (managerDisconnect_standing ..)).trans
    rw [tokenNamed_eq]
    rfl
  | managerRequest => exact congrArg Standing.manager (managerRequest_standing ..)
  | managerSpecifier => exact congrArg Standing.manager (managerSpecifier_standing ..)
  | returned => rfl

namespace Run

theorem Next.manager {r next : Run} (moves : r.Next next) :
    next.world.manager = r.world.manager := by
  obtain ⟨_, _, transition, _⟩ := moves.transition
  exact transition.manager

theorem Reachable.manager {manager : ManagerKind} {service : Service} {r : Run}
    (reachable : Reachable manager service r) : r.world.manager = manager := by
  induction reachable with
  | start => rfl
  | next _ moves ih => exact moves.manager.trans ih

theorem tick_advance {ticks : Nat} {r : Run} (restrained : r.world.manager.Restrained)
    (enough : r.weight ≤ ticks) : (r.advance ticks).tick = none := by
  induction ticks generalizing r with
  | zero =>
    cases ticked : r.tick with
    | none => exact ticked
    | some next =>
      have less := weight_tick_lt restrained ticked
      omega
  | succ ticks ih =>
    cases ticked : r.tick with
    | none =>
      simp only [advance, ticked]
    | some next =>
      -- The tick took weight away, so the ticks that are left are enough for the rest.
      have less := weight_tick_lt restrained ticked
      simp only [advance, ticked]
      refine ih ?_ (by omega)
      rw [(Next.tick ticked).manager]
      exact restrained

theorem tick_settle {r : Run} (restrained : r.world.manager.Restrained) : r.settle.tick = none :=
  tick_advance restrained (Nat.le_refl _)

theorem Reachable.advance {manager : ManagerKind} {service : Service} {r : Run}
    (reachable : Reachable manager service r) (ticks : Nat) :
    Reachable manager service (r.advance ticks) := by
  induction ticks generalizing r with
  | zero => exact reachable
  | succ ticks ih =>
    cases ticked : r.tick with
    | none =>
      simp only [Run.advance, ticked]
      exact reachable
    | some next =>
      simp only [Run.advance, ticked]
      exact ih (.next reachable (.tick ticked))

theorem Reachable.settle {manager : ManagerKind} {service : Service} {r : Run}
    (reachable : Reachable manager service r) : Reachable manager service r.settle :=
  reachable.advance r.weight

/-- A step and all that follows from it ends in a reachable state that is idle again. -/
theorem Reachable.take {manager : ManagerKind} {service : Service} {w : World}
    (restrained : manager.Restrained) (reachable : Reachable manager service ⟨w, []⟩)
    (idle : w.running = none) (step : Step) :
    Reachable manager service ⟨(w.take step).2, []⟩ ∧ (w.take step).2.running = none := by
  have stepped := Reachable.next reachable (.step (tick_eq_none.2 ⟨rfl, idle⟩) step)
  have kept := stepped.manager
  have rests := tick_eq_none.1 (tick_settle (kept ▸ restrained))
  have settled := stepped.settle
  refine ⟨?_, rests.2⟩
  -- The frames are used up, so the run that `take` gives is the one that has settled.
  have shape : (Run.settle ⟨(w.perform false step).world, (w.perform false step).frames⟩) =
      ⟨(w.take step).2, []⟩ := by
    rw [← rests.1]
    rfl
  rw [← shape]
  exact settled

end Run

def World.takeAll (w : World) (steps : List Step) : World :=
  steps.foldl (fun w step => (w.take step).2) w

theorem Run.Reachable.takeAll {manager : ManagerKind} {service : Service} {w : World}
    (restrained : manager.Restrained) (reachable : Reachable manager service ⟨w, []⟩)
    (idle : w.running = none) (steps : List Step) :
    Reachable manager service ⟨w.takeAll steps, []⟩ := by
  induction steps generalizing w with
  | nil => exact reachable
  | cons step steps ih =>
    obtain ⟨reached, rests⟩ := reachable.take restrained idle step
    exact ih reached rests

theorem Run.Reachable.scenario {manager : ManagerKind} {service : Service}
    (restrained : manager.Restrained) (steps : List Step) :
    Reachable manager service ⟨(World.initial manager service).takeAll steps, []⟩ :=
  Reachable.takeAll restrained .start rfl steps

end Proximity
