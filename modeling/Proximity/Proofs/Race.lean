import Mathlib.Logic.Function.Iterate
import Proximity.Proofs.Gate
import Proximity.Proofs.Teardown

/-! Several callers may destroy a session at once. Each call is a row of atomic steps, and the steps
of different calls may alternate in any way. Whatever the order, what is left is what one call would
have left: the callers that find the flag set drop out, and the one that sets it does the work. -/

set_option autoImplicit false

namespace Proximity

/-- What is seen of a run without DEBUG events and without the calls that were made on sessions. -/
def Occurrence.isSeen : Occurrence → Bool
  | .logged notice => notice.level ≠ .debug
  | .asked .. => false
  | _ => true

namespace World

structure Agrees (a b : World) : Prop where
  same : a = { b with trace := a.trace }
  seen : a.trace.filter Occurrence.isSeen = b.trace.filter Occurrence.isSeen

namespace Agrees

variable {a b c : World}

theorem refl (w : World) : w.Agrees w := ⟨rfl, rfl⟩

theorem symm (agrees : a.Agrees b) : b.Agrees a := by
  obtain ⟨same, seen⟩ := agrees
  generalize a.trace = told at same seen
  subst same
  exact ⟨rfl, seen.symm⟩

theorem trans (first : a.Agrees b) (second : b.Agrees c) : a.Agrees c := by
  refine ⟨?_, first.seen.trans second.seen⟩
  rw [first.same, second.same]

theorem emit (agrees : a.Agrees b) (o : Occurrence) : (a.emit o).Agrees (b.emit o) := by
  refine ⟨?_, ?_⟩
  · rw [agrees.same]
    rfl
  · simp only [World.emit, List.filter_cons, agrees.seen]

theorem skip (agrees : a.Agrees b) {o : Occurrence} (unseen : o.isSeen = false) :
    (a.emit o).Agrees b := by
  refine ⟨?_, ?_⟩
  · rw [agrees.same]
    rfl
  · rw [World.emit, List.filter_cons_of_neg (by simp [unseen]), agrees.seen]

theorem map (agrees : a.Agrees b) (change : World → World)
    (blind : ∀ w told, change { w with trace := told } = { change w with trace := told }) :
    (change a).Agrees (change b) := by
  have kept (w : World) : (change w).trace = w.trace := by
    have same := congrArg World.trace (blind w w.trace)
    exact same
  refine ⟨?_, ?_⟩
  · rw [kept, agrees.same, blind]
  · rw [kept, kept, agrees.seen]

theorem terminate (agrees : a.Agrees b) (session : SessionRef) :
    (a.terminate session).Agrees (b.terminate session) :=
  agrees.map (·.terminate session) fun _ _ => rfl

theorem closeGuard (agrees : a.Agrees b) (session : SessionRef) :
    (a.closeGuard session).Agrees (b.closeGuard session) :=
  agrees.map (·.closeGuard session) fun _ _ => rfl

theorem sessions (agrees : a.Agrees b) : a.sessions = b.sessions := by
  rw [agrees.same]

theorem alive (agrees : a.Agrees b) : a.alive = b.alive := by
  rw [agrees.same]
  rfl

theorem running (agrees : a.Agrees b) : a.running = b.running := by
  rw [agrees.same]

theorem filterMap (agrees : a.Agrees b) {β : Type} {read : Occurrence → Option β}
    (skips : ∀ o, o.isSeen = false → read o = none) :
    a.trace.filterMap read = b.trace.filterMap read := by
  have seen (told : List Occurrence) :
      (told.filter Occurrence.isSeen).filterMap read = told.filterMap read := by
    rw [List.filterMap_filter]
    apply congrArg (List.filterMap · told)
    funext o
    cases kept : o.isSeen with
    | true => rfl
    | false => exact (skips o kept).symm
  rw [← seen, agrees.seen, seen]

theorem managerCalls (agrees : a.Agrees b) : a.managerCalls = b.managerCalls := by
  apply agrees.filterMap
  intro o unseen
  cases o <;> first | rfl | cases unseen

theorem spawn (agrees : a.Agrees b) (target : Target) {job : Job} (silent : job.listener? = none) :
    (a.spawn target job).Agrees (b.spawn target job) := by
  obtain ⟨same, seen⟩ := agrees
  generalize a.trace = told at same seen
  subst same
  simp only [World.spawn, discard, silent]
  split
  · exact emit ⟨rfl, seen⟩ _
  · exact ⟨rfl, seen⟩

theorem call (agrees : a.Agrees b) (made : Call) : (a.call made).Agrees (b.call made) := by
  rw [World.call, World.call, agrees.running]
  exact agrees.emit _

/-- The session that is called back depends on the sessions and their owners alone. -/
theorem latestOwned (agrees : a.Agrees b) (client : ClientId) :
    (a.latestSession? client).filter a.isOwned = (b.latestSession? client).filter b.isOwned := by
  rw [agrees.same]
  rfl

theorem managerDisconnect (agrees : a.Agrees b) (origin : Option SessionRef) (client : ClientId)
    (token : Token) :
    (a.managerDisconnect origin client token).1.Agrees
        (b.managerDisconnect origin client token).1 ∧
      (a.managerDisconnect origin client token).2 =
        (b.managerDisconnect origin client token).2 := by
  have manager : a.manager = b.manager := by rw [agrees.same]
  have told (task : Option TaskRef) :=
    agrees.emit (.received origin b.running (.disconnect client token task))
  cases kind : b.manager with
  | registry =>
    have clients : a.clients = b.clients := by rw [agrees.same]
    have nextTask : a.nextTask = b.nextTask := by
      rw [agrees.same]
      rfl
    rw [managerDisconnect_registry (manager.trans kind), managerDisconnect_registry kind]
    refine ⟨?_, rfl⟩
    simp only [registryDisconnect, clients, agrees.running, nextTask]
    split
    · exact (told none).emit _
    · split
      · have forgotten := (told (some b.nextTask)).map
          (fun w => { w with clients := w.clients.erase client }) fun _ _ => rfl
        exact forgotten.spawn defaultTarget rfl
      · exact (told none).emit _
  | permissive reentrant =>
    have called := (told none).call (.disconnect client token)
    simp only [World.managerDisconnect, manager, kind, permissiveDisconnect, agrees.running,
      called.latestOwned, called.sessions]
    split
    · split
      · exact ⟨called.call _, rfl⟩
      · exact ⟨called.call _, rfl⟩
    · exact ⟨called, rfl⟩
  | foreign conduct =>
    simp only [World.managerDisconnect, manager, kind, foreignDisconnect, agrees.running,
      (told none).managerCalls]
    exact ⟨(told none).map (fun w => { w with engaged := w.engaged + 1 }) fun _ _ => rfl, rfl⟩

end Agrees

/-- What a call of `destroy` comes to that no other call meets, and what its manager has left to do
when it returns. -/
def destroyed (w : World) (session : SessionRef) : World × List Frame :=
  let torn := w.teardown session
  if w.isLive session then (torn.1.conclude session, torn.2.dropLast) else torn

end World

/-- In a run with a client table one call of `destroy` is what a teardown comes to. -/
theorem Run.advance_teardown {w : World} (registry : w.manager = .registry) (session : SessionRef)
    (outer : List Frame) : ∃ ticks,
      Run.advance ticks ⟨w, .teardown session :: outer⟩ =
        ⟨(w.destroyed session).1, (w.destroyed session).2 ++ outer⟩ := by
  cases live : w.isLive session with
  | false => exact ⟨1, by simp [advance, tick, World.destroyed, live]⟩
  | true =>
    obtain ⟨alive, active⟩ := Bool.and_eq_true_iff.1 live
    obtain ⟨s, found, active⟩ := World.isActive_eq_true.1 active
    have forwarded := World.teardown_forwarded found active alive
    have registry : ((w.emit (.asked session .destroy none)).terminate session).manager =
      .registry := registry
    simp only [World.managerDisconnect_registry registry] at forwarded
    exact ⟨2, by simp [advance, tick, World.destroyed, live, forwarded]⟩

/-- Where a call of `destroy` stands: each is the atomic step that comes next. -/
inductive Caller where
  /-- Load the flag. -/
  | load
  /-- Log that the session was terminated before. -/
  | late
  /-- Look for the manager. -/
  | upgrade
  /-- Set the flag, with or without a manager in hand. -/
  | swap (alive : Bool)
  | disconnect
  /-- Log that the manager is gone. -/
  | warn
  /-- Close the guard, after the manager has been told or in its absence. -/
  | close (told : Bool)
  /-- Log that the session has been destroyed. -/
  | conclude
  | returned
  deriving DecidableEq

structure Stride where
  caller : Caller
  world : World
  frames : List Frame := []

/-- One atomic step. Only the call that sets the flag goes on to the manager or warns. -/
def Caller.step (session : SessionRef) (w : World) (caller : Caller) : Stride :=
  match w.sessions[session]? with
  | none => { caller := .returned, world := w }
  | some s =>
    match caller with
    | .load =>
      if s.terminated then
        { caller := .late, world := w.emit (.asked session .destroy (some .terminated)) }
      else { caller := .upgrade, world := w }
    | .late => { caller := .returned, world := w.log (.alreadyDestroyed session s.client) }
    | .upgrade => { caller := .swap w.alive, world := w }
    | .swap alive =>
      if s.terminated then
        { caller := .returned, world := w.emit (.asked session .destroy (some .terminated)) }
      else if alive then
        { caller := .disconnect
          world := (w.emit (.asked session .destroy none)).terminate session }
      else
        { caller := .warn
          world := (w.emit (.asked session .destroy (some .managerDropped))).terminate session }
    | .disconnect =>
      let told := w.managerDisconnect (some session) s.client s.token
      { caller := .close true, world := told.1, frames := told.2 }
    | .warn => { caller := .close false, world := w.log (.managerDropped session s.client) }
    | .close told =>
      { caller := if told then .conclude else .returned, world := w.closeGuard session }
    | .conclude => { caller := .returned, world := w.log (.sessionDestroyed session s.client) }
    | .returned => { caller := .returned, world := w }

def Caller.rank : Caller → Nat
  | .load => 6
  | .upgrade => 5
  | .swap _ => 4
  | .disconnect | .warn => 3
  | .close _ => 2
  | .late | .conclude => 1
  | .returned => 0

structure Race where
  world : World
  callers : List Caller
  frames : List Frame := []

namespace Race

def begin (w : World) (calls : Nat) : Race := { world := w, callers := .replicate calls .load }

def go (session : SessionRef) (r : Race) (turn : Nat) : Race :=
  match r.callers[turn]? with
  | none => r
  | some caller =>
    let stride := caller.step session r.world
    { world := stride.world
      callers := r.callers.set turn stride.caller
      frames := r.frames ++ stride.frames }

def play (session : SessionRef) (r : Race) (schedule : List Nat) : Race :=
  schedule.foldl (go session) r

end Race

namespace Stride

def next (session : SessionRef) (x : Stride) : Stride :=
  let stride := x.caller.step session x.world
  { stride with frames := x.frames ++ stride.frames }

end Stride

namespace World

def alone (w : World) (session : SessionRef) (steps : Nat) : Stride :=
  (Stride.next session)^[steps] { caller := .load, world := w }

theorem alone_succ (w : World) (session : SessionRef) (steps : Nat) :
    w.alone session (steps + 1) = (w.alone session steps).next session :=
  Function.iterate_succ_apply' ..

theorem alone_add {w : World} {session : SessionRef} {steps : Nat}
    (returned : (w.alone session steps).caller = .returned) (more : Nat) :
    w.alone session (steps + more) = w.alone session steps := by
  induction more with
  | zero => rfl
  | succ more ih =>
    rw [← Nat.add_assoc, alone_succ, ih]
    unfold Stride.next Caller.step
    rw [returned]
    split <;> simp [← returned]

theorem alone_six {w : World} {session : SessionRef} {s : Session}
    (found : w.sessions[session]? = some s) :
    w.alone session 6 =
      { caller := .returned
        world := (w.destroyed session).1
        frames := (w.destroyed session).2 } := by
  have live : w.isLive session = (w.alive && !s.terminated) := by
    rw [isLive, isActive, found, Option.any_some]
  have emitted (w : World) (o : Occurrence) : (w.emit o).sessions = w.sessions := rfl
  have set : (w.terminate session).sessions[session]? = some { s with terminated := true } := by
    rw [terminate, getElem?_updateSession, if_pos rfl, found]
    rfl
  have still (o : Occurrence) :
      ((w.emit o).terminate session).sessions = (w.terminate session).sessions := rfl
  cases active : s.terminated with
  | true =>
    rw [destroyed, live, active, Bool.not_true, Bool.and_false,
      teardown_terminated found active]
    simp [alone, Stride.next, Caller.step, found, active, emitted, log]
  | false =>
    cases alive : w.alive with
    | false =>
      rw [destroyed, live, active, alive, teardown_managerDropped found active alive]
      simp [alone, Stride.next, Caller.step, found, active, alive, emitted, still, set, log,
        closeGuard, getElem?_updateSession]
    | true =>
      have told := congrArg Standing.sessions (managerDisconnect_standing ((w.emit (.asked
        session .destroy none)).terminate session) (some session) s.client s.token)
      change (managerDisconnect _ _ _ _).1.sessions = (w.terminate session).sessions at told
      rw [destroyed, live, active, alive, teardown_forwarded found active alive]
      simp [alone, Stride.next, Caller.step, found, active, alive, still, told, set, conclude, log,
        closeGuard, getElem?_updateSession]

theorem alone_returned {w : World} {session : SessionRef} {s : Session}
    (found : w.sessions[session]? = some s) {steps : Nat}
    (returned : (w.alone session steps).caller = .returned) :
    w.alone session steps =
      { caller := .returned
        world := (w.destroyed session).1
        frames := (w.destroyed session).2 } := by
  have six := alone_six found
  rcases Nat.le_total steps 6 with early | late
  · rw [← alone_add returned (6 - steps), Nat.add_sub_cancel' early, six]
  · have done : (w.alone session 6).caller = .returned := by rw [six]
    rw [← Nat.add_sub_cancel' late, alone_add done, six]

end World

def Caller.leads : Caller → Bool
  | .disconnect | .warn | .close _ | .conclude => true
  | _ => false

namespace Caller

variable {a b w : World} {session : SessionRef}

theorem rank_step (caller : Caller) (session : SessionRef) (w : World) :
    (caller.step session w).caller.rank ≤ caller.rank - 1 := by
  unfold step
  split
  · exact Nat.zero_le _
  · cases caller with
    | load | swap => grind [Caller.rank]
    | close told => cases told <;> simp [rank]
    | late | upgrade | disconnect | warn | conclude | returned => exact Nat.le_refl _

theorem step_agrees (agrees : a.Agrees b) (session : SessionRef) (caller : Caller) :
    (caller.step session a).caller = (caller.step session b).caller ∧
      (caller.step session a).world.Agrees (caller.step session b).world ∧
      (caller.step session a).frames = (caller.step session b).frames := by
  unfold step
  rw [agrees.sessions]
  split
  · exact ⟨rfl, agrees, rfl⟩
  · rename_i s _
    cases caller with
    | load =>
      simp only
      split
      · exact ⟨rfl, agrees.emit _, rfl⟩
      · exact ⟨rfl, agrees, rfl⟩
    | upgrade => exact ⟨congrArg Caller.swap agrees.alive, agrees, rfl⟩
    | swap alive =>
      simp only
      split
      · exact ⟨rfl, agrees.emit _, rfl⟩
      · split
        · exact ⟨rfl, (agrees.emit _).terminate session, rfl⟩
        · exact ⟨rfl, (agrees.emit _).terminate session, rfl⟩
    | disconnect =>
      obtain ⟨told, left⟩ := agrees.managerDisconnect (some session) s.client s.token
      exact ⟨rfl, told, left⟩
    | late | warn | conclude => exact ⟨rfl, agrees.emit _, rfl⟩
    | close => exact ⟨rfl, agrees.closeGuard session, rfl⟩
    | returned => exact ⟨rfl, agrees, rfl⟩

theorem isTerminated_iff : w.isTerminated session = true ↔
    ∃ s, w.sessions[session]? = some s ∧ s.terminated = true := by
  simp [World.isTerminated, Option.any_eq_true]

theorem step_behind (terminated : w.isTerminated session = true) {caller : Caller}
    (behind : caller.leads = false) :
    (caller.step session w).world.Agrees w ∧ (caller.step session w).frames = [] ∧
      (caller.step session w).caller.leads = false := by
  obtain ⟨s, found, set⟩ := isTerminated_iff.1 terminated
  unfold step
  rw [found]
  cases caller with
  | load | swap =>
    simp only [set, if_true]
    exact ⟨.skip (.refl w) rfl, trivial, rfl⟩
  | late => exact ⟨.skip (.refl w) rfl, rfl, rfl⟩
  | upgrade | returned => exact ⟨.refl w, rfl, rfl⟩
  | disconnect | warn | close | conclude => cases behind

/-- The call that has set the flag goes on until it returns, and the flag stays set. -/
theorem step_leads (terminated : w.isTerminated session = true) {caller : Caller}
    (leads : caller.leads = true) :
    (caller.step session w).world.isTerminated session = true ∧
      ((caller.step session w).caller.leads = true ∨
        (caller.step session w).caller = .returned) := by
  obtain ⟨s, found, set⟩ := isTerminated_iff.1 terminated
  unfold step
  rw [found]
  cases caller with
  | disconnect =>
    refine ⟨?_, .inl rfl⟩
    have sessions := congrArg Standing.sessions
      (World.managerDisconnect_standing w (some session) s.client s.token)
    change (World.managerDisconnect _ _ _ _).1.sessions = w.sessions at sessions
    rw [isTerminated_iff]
    exact ⟨s, sessions ▸ found, set⟩
  | warn => exact ⟨terminated, .inl rfl⟩
  | close told =>
    refine ⟨?_, by cases told <;> simp [Caller.leads]⟩
    rw [isTerminated_iff]
    exact ⟨{ s with guarded := false },
      by simp [World.closeGuard, World.getElem?_updateSession, found], set⟩
  | conclude => exact ⟨terminated, .inr rfl⟩
  | load | late | upgrade | swap | returned => cases leads

theorem step_swap {s : Session} (found : w.sessions[session]? = some s)
    (active : s.terminated = false) (alive : Bool) :
    (step session w (.swap alive)).caller.leads = true ∧
      (step session w (.swap alive)).world.isTerminated session = true ∧
      (step session w (.swap alive)).frames = [] := by
  have set (o : Occurrence) : ((w.emit o).terminate session).isTerminated session = true := by
    rw [isTerminated_iff]
    refine ⟨{ s with terminated := true }, ?_, rfl⟩
    rw [World.terminate, World.getElem?_updateSession, if_pos rfl, World.emit, found]
    rfl
  unfold step
  rw [found]
  cases alive with
  | true =>
    simp only [active]
    exact ⟨rfl, set _, rfl⟩
  | false =>
    simp only [active]
    exact ⟨rfl, set _, rfl⟩

end Caller

namespace Race

variable {w : World} {session : SessionRef} {r : Race}

/-- A race is at the point that a single call is at: until the flag is set nothing has happened, and
then one call at most is ahead of the others. -/
inductive Matches (w : World) (session : SessionRef) (r : Race) : Prop where
  | level (active : w.isTerminated session = false) (world : r.world = w) (frames : r.frames = [])
      (callers : ∀ c ∈ r.callers, c = .load ∨ c = .upgrade ∨ c = .swap w.alive)
  | led (steps : Nat) (agrees : r.world.Agrees (w.alone session steps).world)
      (frames : r.frames = (w.alone session steps).frames)
      (terminated : (w.alone session steps).world.isTerminated session = true)
      (leader : r.callers.filter Caller.leads =
        [(w.alone session steps).caller].filter Caller.leads)
      (ends : (w.alone session steps).caller.leads = true ∨
        (w.alone session steps).caller = .returned)

theorem go_eq {turn : Nat} {caller : Caller} (turns : r.callers[turn]? = some caller) :
    r.go session turn =
      { world := (caller.step session r.world).world
        callers := r.callers.set turn (caller.step session r.world).caller
        frames := r.frames ++ (caller.step session r.world).frames } := by
  simp only [go, turns]

theorem go_of_none {turn : Nat} (nobody : r.callers[turn]? = none) : r.go session turn = r := by
  simp only [go, nobody]

theorem exists_around {callers : List Caller} {turn : Nat} {caller : Caller}
    (turns : callers[turn]? = some caller) :
    ∃ before after, callers = before ++ caller :: after ∧
      ∀ other, callers.set turn other = before ++ other :: after := by
  obtain ⟨bound, rfl⟩ := List.getElem?_eq_some_iff.1 turns
  refine ⟨callers.take turn, callers.drop (turn + 1), ?_, fun other => ?_⟩
  · rw [List.getElem_cons_drop, List.take_append_drop]
  · rw [List.set_eq_take_append_cons_drop, if_pos bound]

theorem filter_around {before after : List Caller} (left : before.filter Caller.leads = [])
    (right : after.filter Caller.leads = []) (caller : Caller) :
    (before ++ caller :: after).filter Caller.leads = [caller].filter Caller.leads := by
  rw [List.filter_append, List.filter_cons, left, right, List.nil_append, List.filter_cons,
    List.filter_nil]

/-- Before the flag is set nothing tells the callers apart; the one that sets it leads. -/
theorem level_go (made : session < w.sessions.length) (active : w.isTerminated session = false)
    (world : r.world = w) (frames : r.frames = [])
    (callers : ∀ c ∈ r.callers, c = .load ∨ c = .upgrade ∨ c = .swap w.alive) {turn : Nat}
    {caller : Caller} (turns : r.callers[turn]? = some caller) :
    (r.go session turn).Matches w session := by
  obtain ⟨before, after, around, set⟩ := exists_around turns
  have found := List.getElem?_eq_getElem made
  have flag : w.sessions[session].terminated = false := by
    simpa [World.isTerminated, found] using active
  rw [go_eq turns, set, world, frames, List.nil_append]
  -- All callers but this one are where they were.
  have others (other : Caller) (member : other ∈ before ∨ other ∈ after) :
      other = .load ∨ other = .upgrade ∨ other = .swap w.alive := by
    apply callers
    rw [around]
    rcases member with member | member
    · exact List.mem_append_left _ member
    · exact List.mem_append_right _ (List.mem_cons_of_mem _ member)
  have stays {next : Caller} (early : next = .load ∨ next = .upgrade ∨ next = .swap w.alive) :
      Matches w session { world := w, callers := before ++ next :: after, frames := [] } := by
    refine .level active rfl rfl fun other member => ?_
    rcases List.mem_append.1 member with member | member
    · exact others other (.inl member)
    · rcases List.mem_cons.1 member with rfl | member
      · exact early
      · exact others other (.inr member)
  rcases callers caller (around ▸ List.mem_append_right _ (List.mem_cons_self ..)) with
    rfl | rfl | rfl
  · simp only [Caller.step, found, flag]
    exact stays (.inr (.inl rfl))
  · simp only [Caller.step, found]
    exact stays (.inr (.inr rfl))
  · -- After three steps a single call has set the flag as well.
    have alone : w.alone session 3 = Caller.step session w (.swap w.alive) := by
      simp [World.alone, Stride.next, Caller.step, found, flag]
    obtain ⟨leads, terminated, _⟩ := Caller.step_swap found flag w.alive
    refine .led 3 (alone ▸ .refl _) (by rw [alone]) (alone ▸ terminated) ?_
      (.inl (alone ▸ leads))
    have behind (other : Caller) (member : other ∈ before ∨ other ∈ after) :
        ¬other.leads = true := by
      rcases others other member with rfl | rfl | rfl <;> simp [Caller.leads]
    rw [alone]
    exact filter_around (List.filter_eq_nil_iff.2 fun other member => behind other (.inl member))
      (List.filter_eq_nil_iff.2 fun other member => behind other (.inr member)) _

/-- Once the flag is set, the call that set it goes on as if it was alone, and no other call does
anything that is seen. -/
theorem led_go {steps : Nat} (agrees : r.world.Agrees (w.alone session steps).world)
    (frames : r.frames = (w.alone session steps).frames)
    (terminated : (w.alone session steps).world.isTerminated session = true)
    (leader : r.callers.filter Caller.leads =
      [(w.alone session steps).caller].filter Caller.leads)
    (ends : (w.alone session steps).caller.leads = true ∨
      (w.alone session steps).caller = .returned) {turn : Nat} {caller : Caller}
    (turns : r.callers[turn]? = some caller) : (r.go session turn).Matches w session := by
  obtain ⟨before, after, around, set⟩ := exists_around turns
  rw [go_eq turns, set]
  rw [around, List.filter_append] at leader
  cases leads : caller.leads with
  | false =>
    have here : r.world.isTerminated session = true := by
      rw [World.isTerminated, agrees.sessions]
      exact terminated
    obtain ⟨still, quiet, behind⟩ := Caller.step_behind here leads
    refine .led steps (still.trans agrees) ?_ terminated ?_ ends
    · rw [quiet, List.append_nil, frames]
    · rw [← leader, List.filter_append, List.filter_cons_of_neg (by simp [behind]),
        List.filter_cons_of_neg (by simp [leads])]
  | true =>
    rw [List.filter_cons_of_pos leads] at leader
    -- There is one call that leads, so it is the one whose turn it is.
    have ahead : (w.alone session steps).caller.leads = true := by
      refine ends.resolve_right fun returned => ?_
      rw [returned] at leader
      exact absurd leader (by simp [Caller.leads])
    rw [List.filter_cons_of_pos ahead, List.filter_nil] at leader
    obtain ⟨none_left, same, none_right⟩ : before.filter Caller.leads = [] ∧
        caller = (w.alone session steps).caller ∧ after.filter Caller.leads = [] := by
      simpa [List.append_eq_singleton_iff] using leader
    have next := w.alone_succ session steps
    obtain ⟨sameCaller, alike, sameFrames⟩ := Caller.step_agrees agrees session caller
    obtain ⟨kept, ends⟩ := Caller.step_leads terminated ahead
    rw [same] at sameCaller alike sameFrames ⊢
    refine .led (steps + 1) (next ▸ alike) ?_ (next ▸ kept) ?_ (next ▸ ends)
    · rw [next, sameFrames, frames]
      rfl
    · rw [next, sameCaller]
      exact filter_around none_left none_right _

theorem Matches.go (together : r.Matches w session) (made : session < w.sessions.length)
    (turn : Nat) : (r.go session turn).Matches w session := by
  cases turns : r.callers[turn]? with
  | none =>
    rw [go_of_none turns]
    exact together
  | some caller =>
    cases together with
    | level active world frames callers => exact level_go made active world frames callers turns
    | led steps agrees frames terminated leader ends =>
      exact led_go agrees frames terminated leader ends turns

theorem Matches.play (together : r.Matches w session) (made : session < w.sessions.length)
    (schedule : List Nat) : (r.play session schedule).Matches w session := by
  induction schedule generalizing r with
  | nil => exact together
  | cons turn rest ih => exact ih (together.go made turn)

/-- A race begins at the point that a single call is at, which may have found the flag set. -/
theorem matches_begin (made : session < w.sessions.length) (calls : Nat) :
    (begin w calls).Matches w session := by
  have found := List.getElem?_eq_getElem made
  have start : ∀ c ∈ (begin w calls).callers, c = .load := fun c member =>
    List.eq_of_mem_replicate member
  cases flag : w.isTerminated session with
  | false => exact .level flag rfl rfl fun c member => .inl (start c member)
  | true =>
    obtain ⟨s, found, set⟩ := Caller.isTerminated_iff.1 flag
    have alone : w.alone session 2 =
        { caller := .returned
          world := (w.emit (.asked session .destroy (some .terminated))).log
            (.alreadyDestroyed session s.client) } := by
      have emitted (o : Occurrence) : (w.emit o).sessions = w.sessions := rfl
      simp [World.alone, Stride.next, Caller.step, found, set, emitted]
    refine .led 2 ?_ ?_ ?_ ?_ ?_
    all_goals rw [alone]
    · exact (World.Agrees.skip (.skip (.refl w) rfl) rfl).symm
    · rfl
    · exact flag
    · rw [List.filter_eq_nil_iff.2 fun c member => by simp [start c member, Caller.leads]]
      rfl
    · exact .inr rfl

/-- When no call is under way, none has begun, or the world is seen as after one call. -/
theorem Matches.rests (together : r.Matches w session) (made : session < w.sessions.length)
    (rests : ∀ c ∈ r.callers, c = .load ∨ c = .returned) :
    (r.world = w ∧ ∀ c ∈ r.callers, c = .load) ∨
      (r.world.Agrees (w.destroyed session).1 ∧ r.frames = (w.destroyed session).2) := by
  cases together with
  | level _ world _ callers =>
    refine .inl ⟨world, fun c member => (rests c member).resolve_right ?_⟩
    -- A caller that has returned has got beyond this.
    rintro rfl
    rcases callers _ member with early | early | early <;> cases early
  | led steps agrees frames _ leader ends =>
    have done : (w.alone session steps).caller = .returned := by
      refine ends.resolve_left fun leads => ?_
      rw [List.filter_cons_of_pos leads, List.filter_eq_nil_iff.2 fun c member => by
        rcases rests c member with rfl | rfl <;> simp [Caller.leads]] at leader
      cases leader
    have single := World.alone_returned (List.getElem?_eq_getElem made) done
    rw [single] at agrees frames
    exact .inr ⟨agrees, frames⟩

theorem Matches.terminated (together : r.Matches w session) (returned : .returned ∈ r.callers) :
    r.world.isTerminated session = true := by
  cases together with
  | level _ _ _ callers => rcases callers _ returned with early | early | early <;> cases early
  | led steps agrees _ terminated =>
    rw [World.isTerminated, agrees.sessions]
    exact terminated

theorem length_play (r : Race) (schedule : List Nat) :
    (r.play session schedule).callers.length = r.callers.length := by
  induction schedule generalizing r with
  | nil => rfl
  | cons turn rest ih =>
    refine (ih _).trans ?_
    unfold go
    split
    · rfl
    · exact List.length_set ..

end Race

namespace World

variable {w : World} {session : SessionRef}

/-- A single call reaches the manager or misses it once, if it finds the session active. -/
theorem fall_destroyed (made : session < w.sessions.length) :
    (w.destroyed session).1.disconnects session =
        w.disconnects session + (w.alive && w.isActive session).toNat ∧
      (w.destroyed session).1.losses session =
        w.losses session + (!w.alive && w.isActive session).toNat := by
  have concluded (w : World) : (w.conclude session).disconnects session = w.disconnects session ∧
      (w.conclude session).losses session = w.losses session := by
    unfold conclude
    split
    · exact ⟨rfl, rfl⟩
    · exact ⟨rfl, rfl⟩
  have torn : (w.destroyed session).1.disconnects session = (w.teardown session).1.disconnects
        session ∧
      (w.destroyed session).1.losses session = (w.teardown session).1.losses session := by
    unfold destroyed
    simp only
    split
    · exact concluded _
    · exact ⟨rfl, rfl⟩
  rw [torn.1, torn.2]
  have changes : w.SessionChange (w.teardown session).1 [] :=
    sessionChange_teardown w session
  cases changes.fall session with
  | falls active _ disconnects losses => simp [disconnects, losses, active]
  | stays terminated disconnects losses =>
    have inactive : w.isActive session = false :=
      inactive_of_isTerminated (terminated.symm.trans (isTerminated_teardown made))
    simp [disconnects, losses, inactive]

theorem Agrees.counts {a b : World} (agrees : a.Agrees b) (session : SessionRef) :
    a.disconnects session = b.disconnects session ∧ a.losses session = b.losses session := by
  constructor
  · rw [World.disconnects, World.disconnects, agrees.filterMap fun o unseen => ?_]
    cases o <;> first | rfl | cases unseen
  · rw [World.losses, World.losses, agrees.filterMap fun o unseen => ?_]
    cases o with
    | logged notice => cases notice <;> first | rfl | cases unseen
    | _ => rfl

end World

namespace Race

variable {w : World} {session : SessionRef}

/-- Nobody waits for anybody: a caller that has had its turns has returned. -/
theorem returns {r : Race} {turn : Nat} {caller : Caller} {schedule : List Nat}
    (turns : r.callers[turn]? = some caller) (enough : caller.rank ≤ schedule.count turn) :
    (r.play session schedule).callers[turn]? = some .returned := by
  induction schedule generalizing r caller with
  | nil =>
    cases caller with
    | returned => exact turns
    | load | late | upgrade | swap | disconnect | warn | close | conclude => cases enough
  | cons first rest ih =>
    cases goes : r.callers[first]? with
    | none =>
      have other : first ≠ turn := fun same => by simp [same, turns] at goes
      rw [play, List.foldl_cons, go_of_none goes]
      exact ih turns (by simpa [other] using enough)
    | some goer =>
      by_cases same : first = turn
      · subst same
        obtain rfl : goer = caller := Option.some.inj (goes.symm.trans turns)
        have bound := (List.getElem?_eq_some_iff.1 goes).1
        have stepped : (r.go session first).callers[first]? =
            some (goer.step session r.world).caller := by
          rw [go_eq goes, List.getElem?_set_self bound]
        have lowered := goer.rank_step session r.world
        rw [List.count_cons_self] at enough
        exact ih stepped (by omega)
      · have still : (r.go session first).callers[turn]? = some caller := by
          rw [go_eq goes, List.getElem?_set_ne same, turns]
        exact ih still (by simpa [same] using enough)

/-- When every caller has returned, however their steps alternated, the world is seen as after one
call, and one caller at most has told the manager or missed it: just one if the session was
active. -/
theorem settles (w : World) {session : SessionRef} (made : session < w.sessions.length)
    (calls : Nat) (called : 0 < calls) (schedule : List Nat)
    (returned : ∀ c ∈ ((begin w calls).play session schedule).callers, c = .returned) :
    let final := (begin w calls).play session schedule
    final.world.Agrees (w.destroyed session).1 ∧ final.frames = (w.destroyed session).2 ∧
      final.world.disconnects session =
        w.disconnects session + (w.alive && w.isActive session).toNat ∧
      final.world.losses session =
        w.losses session + (!w.alive && w.isActive session).toNat := by
  intro final
  obtain ⟨agrees, frames⟩ : final.world.Agrees (w.destroyed session).1 ∧
      final.frames = (w.destroyed session).2 := by
    refine (((matches_begin made calls).play made schedule).rests made fun c member =>
      .inr (returned c member)).resolve_left fun ⟨_, begun⟩ => ?_
    have length : final.callers.length = calls := by
      rw [length_play]
      exact List.length_replicate
    obtain ⟨c, member⟩ := List.exists_mem_of_length_pos (length ▸ called)
    cases (begun c member).symm.trans (returned c member)
  obtain ⟨disconnects, losses⟩ := agrees.counts session
  obtain ⟨told, missed⟩ := World.fall_destroyed made
  exact ⟨agrees, frames, disconnects.trans told, losses.trans missed⟩

def attachedOnce : World := (World.initial .registry {}).takeAll [.attach "only"]

def neckAndNeck : List Nat := [0, 1, 0, 1, 1, 0, 1, 1, 1]

theorem settles_neckAndNeck :
    let final := (begin attachedOnce 2).play 0 neckAndNeck
    final.callers = [.returned, .returned] ∧ attachedOnce.isActive 0 = true ∧
      final.world.Agrees (attachedOnce.destroyed 0).1 ∧ final.world.disconnects 0 = 1 ∧
      final.world.losses 0 = 0 := by
  intro final
  have made : 0 < attachedOnce.sessions.length := by decide +kernel
  have callers : final.callers = [.returned, .returned] := by decide +kernel
  have returned : ∀ c ∈ final.callers, c = .returned := by
    rw [callers]
    simp
  obtain ⟨agrees, _, disconnects, losses⟩ :=
    settles attachedOnce made 2 (by decide) neckAndNeck returned
  exact ⟨callers, by decide +kernel, agrees, disconnects.trans (by decide +kernel),
    losses.trans (by decide +kernel)⟩

end Race

end Proximity
