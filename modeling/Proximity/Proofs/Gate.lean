import Proximity.Proofs.Ownership
import Proximity.Proofs.Settling
import Proximity.Proofs.Source
import Proximity.Proofs.SessionChanges

/-! A session stands between its callers and its manager. What reaches the manager from it is what
was asked of it while it was active and the manager was there, with nothing changed and nothing left
out; whatever else is asked of it is refused and comes to nothing. -/

set_option autoImplicit false

namespace Proximity

/-- A call on a session that is meant for its manager. -/
def Occurrence.askedOf? (session : SessionRef) : Occurrence → Option SessionCall
  | .asked on call _ => if on = session ∧ call.operation?.isSome then some call else none
  | _ => none

def Occurrence.reachedFrom? (session : SessionRef) : Occurrence → Option Forwarded
  | .received origin _ call => if origin = some session then call.forwarded? else none
  | _ => none

theorem Occurrence.askedOf?_of_isInternal (session : SessionRef) {o : Occurrence}
    (internal : o.isInternal = true) : o.askedOf? session = none := by
  cases o <;> first | rfl | cases internal

theorem Occurrence.reachedFrom?_of_isInternal (session : SessionRef) {o : Occurrence}
    (internal : o.isInternal = true) : o.reachedFrom? session = none := by
  cases o <;> first | rfl | cases internal

namespace World

def reachedFrom (w : World) (session : SessionRef) : List Forwarded :=
  w.trace.filterMap (Occurrence.reachedFrom? session)

def askedSince (w next : World) (session : SessionRef) : List SessionCall :=
  (w.newly next).filterMap (Occurrence.askedOf? session)

def isLive (w : World) (session : SessionRef) : Bool := w.alive && w.isActive session

def forward? (w : World) (session : SessionRef) (call : SessionCall) : Option Forwarded :=
  (w.sessions[session]?).bind (·.forward? call)

variable {w next : World} {pushed : List Frame}

theorem isLive_eq {session : SessionRef} {s : Session} (found : w.sessions[session]? = some s) :
    w.isLive session = (w.refusal? s).isNone := by
  rw [isLive, isActive, found, refusal?, Option.any_some]
  cases w.alive <;> cases s.terminated <;> rfl

/-- What is asked of a live session reaches the manager, and nothing else does. -/
def Passes (w next : World) (session : SessionRef) : Prop :=
  ∃ forwarded, next.reachedFrom session = forwarded ++ w.reachedFrom session ∧
    forwarded.map some =
      if w.isLive session then (w.askedSince next session).map (w.forward? session) else []

theorem Tells.passes {facts : List Occurrence} (tells : w.Tells next facts) {session : SessionRef}
    (reaches : (facts.filterMap (Occurrence.reachedFrom? session)).map some =
      if w.isLive session then
        (facts.filterMap (Occurrence.askedOf? session)).map (w.forward? session)
      else []) : w.Passes next session := by
  refine ⟨_, tells.filterMap fun _ => Occurrence.reachedFrom?_of_isInternal session, ?_⟩
  rw [reaches, askedSince,
    tells.filterMap_newly fun _ => Occurrence.askedOf?_of_isInternal session]

theorem SessionChange.passes (changes : w.SessionChange next pushed) (session : SessionRef) :
    w.Passes next session := by
  cases changes with
  | still _ tells | made _ _ _ tells | attached _ _ _ tells | concluded _ _ _ _ tells =>
    exact tells.passes (by simp [List.filterMap_cons, Occurrence.reachedFrom?, Occurrence.askedOf?])
  | direct call _ tells =>
    exact tells.passes (by simp [List.filterMap_cons, Occurrence.reachedFrom?, Occurrence.askedOf?])
  | late _ _ _ _ _ tells =>
    exact tells.passes (by
      simp [List.filterMap_cons, Occurrence.reachedFrom?, Occurrence.askedOf?,
        SessionCall.operation?])
  | passed asked s call reached forwarded found live asks reaches _ tells =>
    apply tells.passes
    by_cases same : asked = session
    · subst same
      have active : w.isLive asked = true := by rw [isLive_eq found, live]; rfl
      -- A destroy is not passed on as a call, so it is no case here.
      have operation : call.operation?.isSome = true := by
        cases call with
        | destroy => cases asks
        | request | specifier => rfl
      simp [List.filterMap_cons, Occurrence.reachedFrom?, Occurrence.askedOf?, active, operation,
        reaches, forward?, found, asks]
    · simp [List.filterMap_cons, Occurrence.reachedFrom?, Occurrence.askedOf?, same]
  | refused asked s call operation reason found refusal asks world _ =>
    subst world
    apply (tells_refuse ..).passes
    by_cases same : asked = session
    · subst same
      have inert : w.isLive asked = false := by rw [isLive_eq found, refusal]; rfl
      simp [List.filterMap_cons, Occurrence.reachedFrom?, inert]
    · simp [List.filterMap_cons, Occurrence.reachedFrom?, Occurrence.askedOf?, same]
  | torn torn s warned last found _ _ _ warning fate tells =>
    apply tells.passes
    cases fate with
    | disconnected | abandoned =>
      rcases warning with rfl | rfl <;>
        simp [List.filterMap_cons, Occurrence.reachedFrom?, Occurrence.askedOf?,
          ManagerCall.forwarded?, SessionCall.operation?]

theorem SessionChange.forward? (changes : w.SessionChange next pushed) {session : SessionRef}
    {call : SessionCall}
    {forwarded : Forwarded} (before : w.forward? session call = some forwarded) :
    next.forward? session call = some forwarded := by
  obtain ⟨s, found, asks⟩ := Option.bind_eq_some_iff.1 before
  obtain ⟨now, foundNow, same⟩ := changes.identity found
  have client : now.client = s.client := congrArg Identity.client same
  have dispatch : now.dispatch = s.dispatch := congrArg Identity.dispatch same
  rw [World.forward?, foundNow, Option.bind_some, ← asks]
  cases call with
  | destroy => rfl
  | request => simp only [Session.forward?, client, dispatch]
  | specifier => simp only [Session.forward?, client]

theorem SessionChange.map_forward? (changes : w.SessionChange next pushed) {session : SessionRef}
    {calls : List SessionCall} {reached : List Forwarded}
    (before : reached.map some = calls.map (w.forward? session)) :
    reached.map some = calls.map (next.forward? session) := by
  rw [before]
  apply List.map_congr_left
  intro call member
  -- Only calls that came to something are in question, and those come to it for good.
  have passed : w.forward? session call ∈ reached.map some := by
    rw [before]
    exact List.mem_map_of_mem member
  obtain ⟨forwarded, _, same⟩ := List.mem_map.1 passed
  rw [← same]
  exact (changes.forward? same.symm).symm

/-- What a refused call comes to. Nothing changes but that it is noted and logged once, as a
warning, and that its callback is let go of. -/
structure Refuses (w next : World) (session : SessionRef) (call : SessionCall) : Prop where
  logged : ∃ client operation reason released,
    next.trace = released ++ .logged (.callRefused session client operation reason) ::
      .asked session call (some reason) :: w.trace ∧
    (Notice.callRefused session client operation reason).level = .warn ∧
    ∀ o ∈ released, ∃ channel, o = .abandoned channel
  same : next = { w with trace := next.trace, channels := next.channels }
  released : ∃ told, next = ({ w with trace := told } : World).releaseListener call.listener

theorem releaseListener_eq (w : World) (listener : Listener) : ∃ released,
    (w.releaseListener listener).trace = released ++ w.trace ∧
      (∀ o ∈ released, ∃ channel, o = .abandoned channel) ∧
      w.releaseListener listener = { w with
        trace := (w.releaseListener listener).trace
        channels := (w.releaseListener listener).channels } := by
  cases listener with
  | silent | record => exact ⟨[], rfl, by simp, rfl⟩
  | channel sender =>
    simp only [releaseListener, releaseChannel]
    split
    · exact ⟨[], rfl, by simp, rfl⟩
    · exact ⟨[_], rfl, by simp, rfl⟩

theorem refuses_refuse (w : World) (session : SessionRef) (client : ClientId) (call : SessionCall)
    (operation : Operation) (reason : Refusal) :
    w.Refuses (w.refuse session client call operation reason) session call := by
  obtain ⟨released, trace, abandoned, same⟩ := releaseListener_eq
    ((w.emit (.asked session call (some reason))).log
      (.callRefused session client operation reason)) call.listener
  exact ⟨⟨client, operation, reason, released, trace, rfl, abandoned⟩, same, _, rfl⟩

theorem Tells.askedSince {facts : List Occurrence} (tells : w.Tells next facts)
    (session : SessionRef) :
    w.askedSince next session = facts.filterMap (Occurrence.askedOf? session) :=
  tells.filterMap_newly fun _ => Occurrence.askedOf?_of_isInternal session

theorem mem_askedSince {facts : List Occurrence} (tells : w.Tells next facts)
    {session : SessionRef} {call : SessionCall} (asked : call ∈ w.askedSince next session) :
    ∃ refusal, .asked session call refusal ∈ facts ∧ call.operation?.isSome = true := by
  rw [tells.askedSince] at asked
  obtain ⟨o, member, read⟩ := List.mem_filterMap.1 asked
  cases o with
  | asked on other refusal =>
    simp only [Occurrence.askedOf?, Option.ite_none_right_eq_some, Option.some.injEq] at read
    obtain ⟨⟨rfl, operation⟩, rfl⟩ := read
    exact ⟨refusal, member, operation⟩
  | _ => cases read

/-- What is asked of a session that is not live is refused, and leaves no work. -/
theorem SessionChange.refuses (changes : w.SessionChange next pushed) {session : SessionRef}
    {call : SessionCall}
    (asked : call ∈ w.askedSince next session) (inert : w.isLive session = false) :
    w.Refuses next session call ∧ pushed = [] := by
  cases changes with
  | still _ tells | made _ _ _ tells | attached _ _ _ tells | concluded _ _ _ _ tells
  | direct _ _ tells => simpa using mem_askedSince tells asked
  | late _ _ _ _ _ tells =>
    obtain ⟨_, member, operation⟩ := mem_askedSince tells asked
    obtain ⟨_, rfl, _⟩ : session = _ ∧ call = .destroy ∧ _ := by simpa using member
    cases operation
  | passed other s _ _ _ found live _ _ _ tells =>
    obtain ⟨_, member, _⟩ := mem_askedSince tells asked
    obtain ⟨rfl, _⟩ : session = other ∧ _ := by simpa using member
    rw [isLive_eq found, live] at inert
    cases inert
  | refused other s asks operation reason found refusal _ world rests =>
    subst world
    obtain ⟨_, member, _⟩ := mem_askedSince (tells_refuse ..) asked
    obtain ⟨rfl, rfl, _⟩ : session = other ∧ call = asks ∧ _ := by simpa using member
    exact ⟨refuses_refuse .., rests⟩
  | torn torn s warned last _ _ _ _ warning fate tells =>
    obtain ⟨_, member, operation⟩ := mem_askedSince tells asked
    obtain ⟨_, rfl, _⟩ : session = torn ∧ call = .destroy ∧ _ := by
      cases fate with
      | disconnected | abandoned => rcases warning with rfl | rfl <;> simpa using member
    cases operation

/-! ### Calls that are made by steps -/

theorem askedSince_sessionRequest {session : SessionRef} {s : Session}
    (found : w.sessions[session]? = some s) (config : Config) (listener : Listener)
    (on : Option Target) : w.askedSince (w.sessionRequest session config listener on).1 session =
      [.request config listener on] := by
  cases refusal : w.refusal? s with
  | some reason =>
    have tells := tells_refuse w session s.client (.request config listener on)
      (.request config.kind) reason
    simp only [sessionRequest, found, refusal]
    exact (tells.askedSince session).trans
      (by simp [List.filterMap_cons, Occurrence.askedOf?, SessionCall.operation?])
  | none =>
    obtain ⟨rejection, receives⟩ := receives_managerRequest
      (w.emit (.asked session (.request config listener on) none)) (some session)
      ⟨s.client, config, listener⟩ (on.getD s.dispatch)
    have tells := ((Tells.refl w).emit rfl).trans receives.tells
    simp only [sessionRequest, found, refusal]
    exact (Tells.askedSince tells session).trans
      (by simp [List.filterMap_cons, Occurrence.askedOf?, SessionCall.operation?])

theorem askedSince_sessionSpecifier {session : SessionRef} {s : Session}
    (found : w.sessions[session]? = some s) (role : Role) (peer token : Option Bytes) :
    w.askedSince (w.sessionSpecifier session role peer token).2.1 session =
      [.specifier role peer token] := by
  cases refusal : w.refusal? s with
  | some reason =>
    have tells := tells_refuse w session s.client (.specifier role peer token) .specifier reason
    simp only [sessionSpecifier, found, refusal]
    exact (tells.askedSince session).trans
      (by simp [List.filterMap_cons, Occurrence.askedOf?, SessionCall.operation?])
  | none =>
    have receives := receives_managerSpecifier
      (w.emit (.asked session (.specifier role peer token) none)) (some session) s.client role peer
      token
    have tells := ((Tells.refl w).emit rfl).trans receives.tells
    simp only [sessionSpecifier, found, refusal]
    exact (Tells.askedSince tells session).trans
      (by simp [List.filterMap_cons, Occurrence.askedOf?, SessionCall.operation?])

/-- Every request and every specifier step on an owned session is a call on it, and a specifier is
answered as the manager would have it, or with nothing. -/
structure Calls (w : World) (owner : Name) (session : SessionRef) : Prop where
  request : ∀ nested config callback listener on, w.listener? callback = some listener →
    w.askedSince (w.perform nested (.request owner config callback on)).world session =
      [.request config listener on]
  specifier : ∀ nested role peer token,
    w.askedSince (w.perform nested (.specifier owner role peer token)).world session =
      [.specifier role peer token]
  answer : ∀ nested role peer token, ∃ s, w.sessions[session]? = some s ∧
    (w.perform nested (.specifier owner role peer token)).answer = .text
      (if w.isLive session then
        ((w.emit (.asked session (.specifier role peer token) none)).managerSpecifier (some session)
          s.client role peer token).1
      else "")

theorem Tended.calls (tended : w.Tended) {owner : Name} {session : SessionRef}
    (owned : w.owned? owner = some session) : w.Calls owner session := by
  have made := tended.lt_length owned
  have found := List.getElem?_eq_getElem made
  constructor
  · intro nested config callback listener on known
    have effect : (w.perform nested (.request owner config callback on)).world =
        (w.sessionRequest session config listener on).1 := by
      simp [perform, act?, owned, known]
    rw [effect]
    exact askedSince_sessionRequest found config listener on
  · intro nested role peer token
    have effect : (w.perform nested (.specifier owner role peer token)).world =
        (w.sessionSpecifier session role peer token).2.1 := by
      simp [perform, act?, owned]
    rw [effect]
    exact askedSince_sessionSpecifier found role peer token
  · intro nested role peer token
    refine ⟨_, found, ?_⟩
    have effect : (w.perform nested (.specifier owner role peer token)).answer =
        .text (w.sessionSpecifier session role peer token).1 := by
      simp [perform, act?, owned]
    rw [effect, isLive_eq found]
    cases refusal : w.refusal? w.sessions[session] with
    | some reason => simp [sessionSpecifier, found, refusal]
    | none => simp [sessionSpecifier, found, refusal]

end World

namespace Run

/-- All runs on the way from the start, the latest first. -/
inductive History (manager : ManagerKind) (service : Service) : List Run → Prop where
  | start : History manager service [⟨World.initial manager service, []⟩]
  | next {r next : Run} {earlier : List Run} (history : History manager service (r :: earlier))
      (moves : r.Next next) : History manager service (next :: r :: earlier)

def liveCalls (session : SessionRef) : List Run → List SessionCall
  | next :: r :: earlier =>
    (if r.world.isLive session then r.world.askedSince next.world session else []) ++
      liveCalls session (r :: earlier)
  | _ => []

theorem History.reachable {manager : ManagerKind} {service : Service} {r : Run} {earlier : List Run}
    (history : History manager service (r :: earlier)) : Reachable manager service r := by
  generalize runs : r :: earlier = whole at history
  induction history generalizing r earlier with
  | start =>
    cases runs
    exact .start
  | next _ moves ih =>
    cases runs
    exact .next (ih rfl) moves

theorem Reachable.history {manager : ManagerKind} {service : Service} {r : Run}
    (reachable : Reachable manager service r) :
    ∃ earlier, History manager service (r :: earlier) := by
  induction reachable with
  | start => exact ⟨[], .start⟩
  | next _ moves ih =>
    obtain ⟨earlier, history⟩ := ih
    exact ⟨_, .next history moves⟩

theorem History.reachedFrom {manager : ManagerKind} {service : Service} {r : Run}
    {earlier : List Run} (history : History manager service (r :: earlier))
    (session : SessionRef) : (r.world.reachedFrom session).map some =
      (liveCalls session (r :: earlier)).map (r.world.forward? session) := by
  generalize runs : r :: earlier = whole at history
  induction history generalizing r earlier with
  | start =>
    cases runs
    rfl
  | @next before next past history moves ih =>
    cases runs
    obtain ⟨_, _, transition, _⟩ := moves.transition
    have changes := transition.sessionChange
    obtain ⟨forwarded, reached, asked⟩ := changes.passes session
    have now : forwarded.map some = (if before.world.isLive session then
        before.world.askedSince next.world session else []).map
          (before.world.forward? session) := by
      rw [asked]
      split <;> rfl
    -- What this move passes on comes before what earlier ones did; both are read in the new world.
    rw [reached, liveCalls, List.map_append, List.map_append, changes.map_forward? now,
      changes.map_forward? (ih rfl)]

/-- Whatever the manager does, a session passes on what it is asked while it is live, in order and
unchanged, and refuses everything else. A callback is told only for a request that has reached the
manager, so never for one that was refused. -/
theorem History.gate {manager : ManagerKind} {service : Service} {r : Run} {earlier : List Run}
    (history : History manager service (r :: earlier)) (session : SessionRef) :
    (r.world.reachedFrom session).map some =
      (liveCalls session (r :: earlier)).map (r.world.forward? session) ∧
    (∀ owner, r.world.owned? owner = some session → r.world.Calls owner session) ∧
    (∀ next, r.Next next → ∀ call ∈ r.world.askedSince next.world session,
      r.world.isLive session = false →
        r.world.Refuses next.world session call ∧ r.Leaves next.frames) ∧
    (∀ task running listener event, .invoked (some task) running listener event ∈ r.world.trace →
      ∃ request, r.world.requestFor? task = some request ∧ request.listener = listener) := by
  have reachable := history.reachable
  refine ⟨history.reachedFrom session, fun owner owned => reachable.tended.calls owned, ?_, ?_⟩
  · intro next moves call asked inert
    obtain ⟨pushed, left, transition, frames, leaves⟩ := moves.transition
    obtain ⟨refuses, rests⟩ := transition.sessionChange.refuses asked inert
    refine ⟨refuses, ?_⟩
    rw [frames, rests]
    exact leaves
  · intro task running listener event member
    exact (reachable.sourced.told task running listener event member).2

def stepped (r : Run) (step : Step) : Run :=
  ⟨(r.world.perform false step).world, (r.world.perform false step).frames⟩

def unopened : Run := ⟨World.initial (.permissive true) {}, []⟩

def opened : Run := unopened.stepped (.session "only" ⟨5⟩ "key" (some .alt))

def published : Run := opened.stepped (.request "only" (.publish {}) .silent none)

def destroyed : Run := published.stepped (.destroy "only")

def reentered : Run := destroyed.advance 1

def refusedWithin : Run := reentered.advance 1

def refusedRuns : List Run := [refusedWithin, reentered, destroyed, published, opened, unopened]

theorem tick_of_isSome {r : Run} (ticks : r.tick.isSome = true) :
    r.tick = some (r.advance 1) := by
  obtain ⟨next, ticked⟩ := Option.isSome_iff_exists.1 ticks
  simp only [advance, ticked]

theorem history_refusedRuns : History (.permissive true) {} refusedRuns := by
  have first : unopened.Next opened := .step (tick_eq_none.2 ⟨rfl, rfl⟩) _
  have second : opened.Next published :=
    .step (tick_eq_none.2 ⟨by decide +kernel, by decide +kernel⟩) _
  have third : published.Next destroyed :=
    .step (tick_eq_none.2 ⟨by decide +kernel, by decide +kernel⟩) _
  have fourth : destroyed.Next reentered := .tick (tick_of_isSome (by decide +kernel))
  have fifth : reentered.Next refusedWithin := .tick (tick_of_isSome (by decide +kernel))
  exact (((((History.start).next first).next second).next third).next fourth).next fifth

theorem gate_refusedRuns :
    (refusedWithin.world.reachedFrom 0).map some =
        (liveCalls 0 refusedRuns).map (refusedWithin.world.forward? 0) ∧
      (liveCalls 0 refusedRuns).length = 1 ∧
      (reentered.world.askedSince refusedWithin.world 0).length = 1 ∧
      reentered.world.isLive 0 = false ∧ reentered.Next refusedWithin ∧
      ∀ call ∈ reentered.world.askedSince refusedWithin.world 0,
        reentered.world.Refuses refusedWithin.world 0 call ∧
          reentered.Leaves refusedWithin.frames := by
  have inert : reentered.world.isLive 0 = false := by decide +kernel
  have history := history_refusedRuns
  obtain ⟨passed, _⟩ := history.gate 0
  rcases history with _ | ⟨earlier, moves⟩
  obtain ⟨_, _, refused, _⟩ := earlier.gate 0
  exact ⟨passed, by decide +kernel, by decide +kernel, inert, moves,
    fun call asked => refused refusedWithin moves call asked inert⟩

end Run

end Proximity
