import Mathlib.Data.List.Perm.Subperm
import Proximity.Proofs.Ownership
import Proximity.Proofs.Settling
import Proximity.Proofs.SessionChanges

/-! A session is torn down exactly once, whoever destroys it, whatever its manager calls back and
whenever the manager goes. -/

set_option autoImplicit false

namespace Proximity

def Occurrence.disconnected? : Occurrence → Option SessionRef
  | .received origin _ (.disconnect ..) => origin
  | _ => none

def Occurrence.lost? : Occurrence → Option SessionRef
  | .logged (.managerDropped session _) => some session
  | _ => none

theorem Occurrence.disconnected?_of_isInternal {o : Occurrence} (internal : o.isInternal = true) :
    o.disconnected? = none := by
  cases o <;> first | rfl | cases internal

theorem Occurrence.lost?_of_isInternal {o : Occurrence} (internal : o.isInternal = true) :
    o.lost? = none := by
  cases o with
  | logged notice => cases notice <;> first | rfl | cases internal
  | _ => rfl

namespace World

def isTerminated (w : World) (session : SessionRef) : Bool :=
  (w.sessions[session]?).any (·.terminated)

def disconnects (w : World) (session : SessionRef) : Nat :=
  (w.trace.filterMap Occurrence.disconnected?).count session

def losses (w : World) (session : SessionRef) : Nat :=
  (w.trace.filterMap Occurrence.lost?).count session

variable {w next : World} {pushed : List Frame}

theorem isTerminated_eq (w : World) (session : SessionRef) :
    w.isTerminated session = (decide (session < w.sessions.length) && !w.isActive session) := by
  rw [isTerminated, isActive]
  cases found : w.sessions[session]? with
  | none => simp [List.getElem?_eq_none_iff.1 found]
  | some s => simp [(List.getElem?_eq_some_iff.1 found).1]

theorem inactive_of_isTerminated {session : SessionRef}
    (terminated : w.isTerminated session = true) : w.isActive session = false := by
  rw [isTerminated_eq, Bool.and_eq_true, Bool.not_eq_true'] at terminated
  exact terminated.2

theorem unterminated_of_isActive {session : SessionRef} (active : w.isActive session = true) :
    w.isTerminated session = false := by
  rw [isTerminated_eq, active, Bool.not_true, Bool.and_false]

theorem isTerminated_of_inactive {session : SessionRef}
    (identities : next.sessions.map Session.identity = w.sessions.map Session.identity)
    (made : session < w.sessions.length) (ended : next.isActive session = false) :
    next.isTerminated session = true := by
  rw [isTerminated_eq, ended, length_of_identities identities, decide_eq_true made]
  rfl

theorem Tells.disconnects {facts : List Occurrence} (tells : w.Tells next facts)
    (session : SessionRef) : next.disconnects session =
      (facts.filterMap Occurrence.disconnected?).count session + w.disconnects session := by
  rw [World.disconnects, tells.filterMap fun _ => Occurrence.disconnected?_of_isInternal,
    List.count_append]
  rfl

theorem Tells.losses {facts : List Occurrence} (tells : w.Tells next facts)
    (session : SessionRef) : next.losses session =
      (facts.filterMap Occurrence.lost?).count session + w.losses session := by
  rw [World.losses, tells.filterMap fun _ => Occurrence.lost?_of_isInternal, List.count_append]
  rfl

/-- What a transition can be to one session: nothing, or its teardown, of which the manager is told
if it is there. -/
inductive Fall (w next : World) (session : SessionRef) : Prop where
  | stays (terminated : next.isTerminated session = w.isTerminated session)
      (disconnects : next.disconnects session = w.disconnects session)
      (losses : next.losses session = w.losses session)
  | falls (active : w.isActive session = true) (terminated : next.isTerminated session = true)
      (disconnects : next.disconnects session = w.disconnects session + w.alive.toNat)
      (losses : next.losses session = w.losses session + (!w.alive).toNat)

theorem Tells.stays {facts : List Occurrence} (tells : w.Tells next facts)
    {session : SessionRef} (terminated : next.isTerminated session = w.isTerminated session)
    (disconnected : facts.filterMap Occurrence.disconnected? = [])
    (lost : facts.filterMap Occurrence.lost? = []) : w.Fall next session := by
  refine .stays terminated ?_ ?_
  · simp [tells.disconnects, disconnected]
  · simp [tells.losses, lost]

theorem disconnected?_of_forwarded? {origin : Option SessionRef} {running : Option Target}
    {call : ManagerCall} {forwarded : Forwarded} (reaches : call.forwarded? = some forwarded) :
    (Occurrence.received origin running call).disconnected? = none := by
  cases call with
  | disconnect => cases reaches
  | request | specifier => rfl

/-- One of the two is told at a teardown, depending on whether the manager is there. -/
theorem Fate.filterMap {alive : Bool} {running : Option Target} {session : SessionRef} {s : Session}
    {last : Occurrence} {warned : List Occurrence} (fate : Fate alive running session s last)
    (warning : warned = [] ∨ warned = [.logged (.sessionLeaked session)])
    (refusal : Option Refusal) :
    (last :: .asked session .destroy refusal :: warned).filterMap Occurrence.disconnected? =
        (if alive then [session] else []) ∧
      (last :: .asked session .destroy refusal :: warned).filterMap Occurrence.lost? =
        if alive then [] else [session] := by
  cases fate with
  | disconnected reached task =>
    subst reached
    rcases warning with rfl | rfl
    · exact ⟨rfl, rfl⟩
    · exact ⟨rfl, rfl⟩
  | abandoned gone =>
    subst gone
    rcases warning with rfl | rfl
    · exact ⟨rfl, rfl⟩
    · exact ⟨rfl, rfl⟩

theorem isTerminated_append {s : Session} (active : s.terminated = false)
    (sessions : next.sessions = w.sessions ++ [s]) (session : SessionRef) :
    next.isTerminated session = w.isTerminated session := by
  rw [isTerminated, isTerminated, sessions, List.getElem?_append]
  split
  · rfl
  · rename_i new
    rw [List.getElem?_eq_none (Nat.not_lt.1 new), List.getElem?_singleton]
    split
    · simp [active]
    · rfl

theorem Fate.fall {torn : SessionRef} {s : Session} {warned : List Occurrence} {last : Occurrence}
    (fate : Fate w.alive w.running torn s last) (found : w.sessions[torn]? = some s)
    (active : s.terminated = false)
    (identities : next.sessions.map Session.identity = w.sessions.map Session.identity)
    (activity : ∀ other, next.isActive other = (w.isActive other && decide (other ≠ torn)))
    (warning : warned = [] ∨ warned = [.logged (.sessionLeaked torn)])
    (tells : w.Tells next (last :: .asked torn .destroy w.loss? :: warned))
    (session : SessionRef) : w.Fall next session := by
  have length := length_of_identities identities
  obtain ⟨disconnected, lost⟩ := fate.filterMap warning w.loss?
  by_cases own : session = torn
  · subst own
    have made := (List.getElem?_eq_some_iff.1 found).1
    refine .falls (isActive_eq_true.2 ⟨s, found, active⟩)
      (isTerminated_of_inactive identities made (by simp [activity])) ?_ ?_
    · rw [tells.disconnects, disconnected, Nat.add_comm]
      cases w.alive <;> simp
    · rw [tells.losses, lost, Nat.add_comm]
      cases w.alive <;> simp
  · -- What is told names the session that is torn down, so the others' counts stay.
    refine .stays ?_ ?_ ?_
    · rw [isTerminated_eq, isTerminated_eq, length, activity]
      simp [own]
    · rw [tells.disconnects, disconnected]
      cases w.alive <;> simp [Ne.symm own]
    · rw [tells.losses, lost]
      cases w.alive <;> simp [Ne.symm own]

theorem SessionChange.fall (changes : w.SessionChange next pushed) (session : SessionRef) :
    w.Fall next session := by
  have same (sessions : next.sessions = w.sessions) :
      next.isTerminated session = w.isTerminated session := by
    rw [isTerminated, isTerminated, sessions]
  cases changes with
  | still sessions tells => exact tells.stays (same sessions) rfl rfl
  | made s active sessions tells | attached s active sessions tells =>
    exact tells.stays (isTerminated_append active sessions session) rfl rfl
  | direct call sessions tells =>
    -- A disconnect past any session counts for none.
    refine tells.stays (same sessions) ?_ rfl
    cases call <;> rfl
  | passed _ _ _ _ _ _ _ _ reaches sessions tells =>
    refine tells.stays (same sessions) ?_ rfl
    rw [List.filterMap_cons, disconnected?_of_forwarded? reaches]
    rfl
  | late _ _ _ _ sessions tells => exact tells.stays (same sessions) rfl rfl
  | refused session s call operation reason _ _ _ world _ =>
    subst world
    exact (tells_refuse ..).stays (same (sessions_refuse ..)) rfl rfl
  | concluded torn s identities activity tells =>
    refine tells.stays ?_ rfl rfl
    rw [isTerminated_eq, isTerminated_eq, activity, length_of_identities identities]
  | torn torn s warned last found active identities activity warning fate tells =>
    exact fate.fall found active identities activity warning tells session

/-- A disconnect is told by the session that is torn down, with its own client and token. -/
theorem SessionChange.disconnected (changes : w.SessionChange next pushed) {session : SessionRef}
    {running : Option Target} {client : ClientId} {token : Token} {task : Option TaskRef}
    (member : .received (some session) running (.disconnect client token task) ∈ next.trace) :
    .received (some session) running (.disconnect client token task) ∈ w.trace ∨
      ∃ s, w.sessions[session]? = some s ∧ s.client = client ∧ s.token = token := by
  have told {facts : List Occurrence} (tells : w.Tells next facts) :=
    (tells.mem_trace (o := .received (some session) running (.disconnect client token task))
      rfl).1 member
  cases changes with
  | still _ tells | made _ _ _ tells | attached _ _ _ tells | late _ _ _ _ _ tells
  | direct _ _ tells | concluded _ _ _ _ tells => exact .inl (by simpa using told tells)
  | passed _ _ _ _ _ _ _ _ reaches _ tells =>
    refine .inl ((told tells).resolve_left ?_)
    intro new
    obtain ⟨_, _, rfl⟩ : _ ∧ _ ∧ ManagerCall.disconnect client token task = _ := by simpa using new
    cases reaches
  | refused _ _ _ _ _ _ _ _ world _ =>
    subst world
    exact .inl (by simpa using told (tells_refuse ..))
  | torn torn s warned last found _ _ _ warning fate tells =>
    apply (told tells).symm.imp id
    intro new
    cases fate with
    | disconnected alive task =>
      obtain ⟨rfl, _, rfl, rfl, _⟩ : session = torn ∧ running = w.running ∧ client = s.client ∧
          token = s.token ∧ _ := by
        rcases warning with rfl | rfl <;> simpa using new
      exact ⟨s, found, rfl, rfl⟩
    | abandoned gone => rcases warning with rfl | rfl <;> simp at new

/-- Each session has told its manager, or found it gone, once if it is terminated and never if it is
not; and what it told the manager is its own. -/
structure TornOnce (w : World) : Prop where
  once : ∀ session,
    w.disconnects session + w.losses session = if w.isTerminated session then 1 else 0
  own : ∀ session running client token task,
    .received (some session) running (.disconnect client token task) ∈ w.trace →
      ∃ s, w.sessions[session]? = some s ∧ s.client = client ∧ s.token = token

theorem tornOnce_initial (manager : ManagerKind) (service : Service) :
    (World.initial manager service).TornOnce := by
  constructor <;> simp [World.initial, disconnects, losses, isTerminated]

theorem TornOnce.sessionChange (torn : w.TornOnce) (changes : w.SessionChange next pushed) :
    next.TornOnce := by
  constructor
  · intro session
    have before := torn.once session
    cases changes.fall session with
    | stays terminated disconnects losses => rw [disconnects, losses, terminated, before]
    | falls active terminated disconnects losses =>
      rw [unterminated_of_isActive active] at before
      rw [disconnects, losses, terminated]
      cases w.alive <;> simp at before ⊢ <;> omega
  · intro session running client token task member
    have earlier := (changes.disconnected member).elim (torn.own session running client token task)
      id
    obtain ⟨s, found, rfl, rfl⟩ := earlier
    obtain ⟨now, foundNow, same⟩ := changes.identity found
    exact ⟨now, foundNow, congrArg Identity.client same, congrArg Identity.token same⟩

/-! ### What ends a session -/

inductive Ends (w : World) (session : SessionRef) : World → Prop where
  | destroyed : w.Ends session (w.teardown session).1
  | dropped {owner : Name} (owned : w.owned? owner = some session)
      (last : (w.disown owner).isOwned session = false) :
      w.Ends session (w.perform true (.drop owner)).world

theorem perform_drop {owner : Name} {effect : Effect} (done : w.dropOwner owner = some effect)
    (nested : Bool) : w.perform nested (.drop owner) = effect := by
  simp only [perform, act?, done, Option.getD_some]

theorem Transition.ends (transition : w.Transition next pushed) {session : SessionRef}
    (active : w.isActive session = true) (ended : next.isActive session = false) :
    w.Ends session next := by
  have still (same : next.isActive session = w.isActive session) : w.Ends session next := by
    rw [same, active] at ended
    cases ended
  cases transition with
  | internal internal => exact still (isActive_of_standing internal.aside.standing session)
  | attach done =>
    obtain ⟨_, _, aside | ⟨client, attaches⟩⟩ := attach_cases done
    · exact still (isActive_of_standing aside.standing session)
    · have sessions := congrArg Standing.sessions attaches.standing
      rw [(isActive_append rfl sessions session).2 (.inl active)] at ended
      cases ended
  | @session as client token on effect done =>
    obtain ⟨_, _, made⟩ := makeSession_eq done
    have sessions := congrArg (· ++ [(⟨client, (w.tokenNamed token).1, on.getD defaultTarget, false,
      true⟩ : Session)]) (sessions_tokenNamed w token)
    rw [made, (isActive_append (w := w) rfl sessions session).2 (.inl active)] at ended
    cases ended
  | share => exact still rfl
  | @drop owner effect done =>
    obtain ⟨dropped, owned, ⟨_, rfl⟩ | ⟨last, rfl⟩⟩ := dropOwner_cases done
    · exact still rfl
    · rw [isActive_dropSession] at ended
      by_cases own : session = dropped
      · subst own
        -- A drop does the same wherever it is taken.
        rw [← perform_drop done true]
        exact .dropped owned last
      · rw [show (w.disown owner).isActive session =
          w.isActive session from rfl, active] at ended
        simp [own] at ended
  | teardown torn =>
    rw [isActive_teardown, active] at ended
    by_cases own : session = torn
    · subst own
      exact .destroyed
    · simp [own] at ended
  | conclude => exact still (isActive_conclude ..)
  | request => exact still (isActive_of_standing (sessionRequest_standing ..) session)
  | specifier => exact still (isActive_of_standing (sessionSpecifier_standing ..) session)
  | dropManager => exact still rfl
  | managerDisconnect client token =>
    refine still ((isActive_of_standing (managerDisconnect_standing ..) session).trans ?_)
    exact isActive_of_sessions (sessions_tokenNamed ..) session
  | managerRequest => exact still (isActive_of_standing (managerRequest_standing ..) session)
  | managerSpecifier => exact still (isActive_of_standing (managerSpecifier_standing ..) session)
  | returned => exact still rfl

theorem isTerminated_teardown {session : SessionRef} (made : session < w.sessions.length) :
    (w.teardown session).1.isTerminated session = true :=
  isTerminated_of_inactive (teardown_retains w session).identities made
    (by simp [isActive_teardown])

theorem perform_destroy {owner : Name} {session : SessionRef}
    (owned : w.owned? owner = some session) (nested : Bool) :
    w.perform nested (.destroy owner) =
      { world := (w.teardown session).1, frames := (w.teardown session).2 } := by
  simp [perform, act?, owned]

/-- Whoever owns a session can end it, and whoever gives it up ends it only when nobody else owns
it. -/
structure Endable (w : World) (owner : Name) (session : SessionRef) : Prop where
  destroy : ∀ nested, (w.perform nested (.destroy owner)).world.isTerminated session = true
  dropLast : (w.disown owner).isOwned session = false →
    ∀ nested, (w.perform nested (.drop owner)).world.isTerminated session = true
  dropShared : (w.disown owner).isOwned session = true →
    ∀ nested, w.perform nested (.drop owner) =
      { world := w.disown owner }

theorem Tended.endable (tended : w.Tended) {owner : Name} {session : SessionRef}
    (owned : w.owned? owner = some session) : w.Endable owner session := by
  have made := tended.lt_length owned
  constructor
  · intro nested
    rw [perform_destroy owned]
    exact isTerminated_teardown made
  · intro last nested
    have retains := dropSession_retains (w.disown owner) session
    rw [perform_drop (dropOwner_eq owned), if_neg (Bool.eq_false_iff.1 last)]
    exact isTerminated_of_inactive retains.identities made (by simp [isActive_dropSession])
  · intro shared nested
    rw [perform_drop (dropOwner_eq owned), if_pos shared]

end World

/-! ### Calls within calls -/

def Frame.conclude? : Frame → Option SessionRef
  | .conclude session => some session
  | _ => none

/-- No disconnect is left to return from. -/
def Frame.Inert (frames : List Frame) : Prop := frames.filterMap Frame.conclude? = []

namespace World

variable {w next : World} {pushed : List Frame}

theorem inert_steps (steps : List Step) : Frame.Inert (steps.map .step ++ [.returned]) := by
  rw [Frame.Inert, List.filterMap_append, List.filterMap_map]
  simp [Function.comp_def, Frame.conclude?]

theorem inert_managerRequest (w : World) (origin : Option SessionRef) (request : Request)
    (target : Target) : Frame.Inert (w.managerRequest origin request target).2 := by
  unfold managerRequest
  split
  · rfl
  · rfl
  · exact inert_steps _

theorem inert_managerSpecifier (w : World) (origin : Option SessionRef) (client : ClientId)
    (role : Role) (peer token : Option Bytes) :
    Frame.Inert (w.managerSpecifier origin client role peer token).2.2 := by
  unfold managerSpecifier
  split
  · rfl
  · rfl
  · exact inert_steps _

theorem inert_managerDisconnect (w : World) (origin : Option SessionRef) (client : ClientId)
    (token : Token) : Frame.Inert (w.managerDisconnect origin client token).2 := by
  unfold managerDisconnect
  split
  · rfl
  · unfold permissiveDisconnect
    simp only
    split
    · split <;> rfl
    · rfl
  · exact inert_steps _

theorem inert_sessionRequest (w : World) (session : SessionRef) (config : Config)
    (listener : Listener) (on : Option Target) :
    Frame.Inert (w.sessionRequest session config listener on).2 := by
  unfold sessionRequest
  split
  · rfl
  · simp only
    split
    · rfl
    · exact inert_managerRequest ..

theorem inert_sessionSpecifier (w : World) (session : SessionRef) (role : Role)
    (peer token : Option Bytes) :
    Frame.Inert (w.sessionSpecifier session role peer token).2.2 := by
  unfold sessionSpecifier
  split
  · rfl
  · simp only
    split
    · rfl
    · exact inert_managerSpecifier ..

theorem inert_invoke (w : World) (task : Option TaskRef) (listener : Listener) (event : Event) :
    Frame.Inert (w.invoke task listener event).2 := by
  cases listener <;> rfl

theorem inert_answerStart (w : World) (task : Task) (request : Request) (verdict : Verdict) :
    Frame.Inert (w.answerStart task request verdict).2 := by
  unfold answerStart
  simp only
  split
  · exact inert_invoke ..
  · exact inert_invoke ..

theorem inert_runTask (w : World) (target : Target) (task : Task) :
    Frame.Inert (w.runTask target task).2 := by
  unfold runTask
  split
  · unfold startCall
    simp only
    split
    · rfl
    · exact inert_answerStart ..
  · exact inert_answerStart ..
  · rfl
  · rfl
  · exact inert_invoke ..
  · exact inert_invoke ..
  · rfl

theorem InternalTransition.inert (internal : w.InternalTransition next pushed) :
    Frame.Inert pushed := by
  cases internal with
  | nothing | note | spawn | pump | openGate | shutdown | rest => rfl
  | race session threads => simp [Frame.Inert, Frame.conclude?]
  | makeChannel done =>
    unfold World.makeChannel at done
    split at done <;> cases done
    rfl
  | cloneSender done =>
    simp only [World.cloneSender, Option.bind_eq_bind, Option.bind_eq_some_iff] at done
    obtain ⟨copied, _, done⟩ := done
    split at done <;> cases done
    rfl
  | dropSender done =>
    simp only [World.dropSender, Option.bind_eq_bind, Option.bind_eq_some_iff] at done
    obtain ⟨sender, _, done⟩ := done
    cases done
    rfl
  | dropReceiver done =>
    simp only [World.dropReceiver, Option.bind_eq_bind, Option.bind_eq_some_iff] at done
    obtain ⟨found, _, done⟩ := done
    cases done
    rfl
  | poll done =>
    simp only [World.pollChannel, Option.bind_eq_bind, Option.bind_eq_some_iff] at done
    obtain ⟨found, _, done⟩ := done
    split at done <;> cases done <;> rfl
  | send => exact inert_invoke ..
  | run => exact inert_runTask ..

theorem conclude?_teardown (w : World) (session : SessionRef) :
    Frame.Inert (w.teardown session).2 ∨ (w.isActive session = true ∧
      (w.teardown session).2.filterMap Frame.conclude? = [session]) := by
  cases found : w.sessions[session]? with
  | none =>
    rw [teardown_missing found]
    exact .inl rfl
  | some s =>
    cases active : s.terminated with
    | true =>
      rw [teardown_terminated found active]
      exact .inl rfl
    | false =>
      cases alive : w.alive with
      | false =>
        rw [teardown_managerDropped found active alive]
        exact .inl rfl
      | true =>
        refine .inr ⟨isActive_eq_true.2 ⟨s, found, active⟩, ?_⟩
        rw [teardown_forwarded found active alive]
        simp only [List.filterMap_append]
        -- The manager's own frames return from none; the last frame is the session's.
        rw [show List.filterMap Frame.conclude? _ = [] from inert_managerDisconnect ..]
        rfl

theorem Transition.conclude? (transition : w.Transition next pushed) :
    Frame.Inert pushed ∨ ∃ session, w.isActive session = true ∧ next.isActive session = false ∧
      pushed.filterMap Frame.conclude? = [session] := by
  cases transition with
  | internal internal => exact .inl internal.inert
  | attach done => exact .inl (by rw [(attach_cases done).1]; rfl)
  | session done => exact .inl (by rw [(makeSession_eq done).1]; rfl)
  | share | conclude | dropManager | returned => exact .inl rfl
  | @drop owner effect done =>
    obtain ⟨session, _, ⟨_, rfl⟩ | ⟨_, rfl⟩⟩ := dropOwner_cases done
    · exact .inl rfl
    · have ended := isActive_dropSession (w.disown owner) session session
      rcases dropSession_cases (w.disown owner) session with ⟨_, same⟩ | ⟨active, same | same⟩
      · exact .inl (by rw [same]; rfl)
      · rw [same] at ended ⊢
        refine (conclude?_teardown (w.disown owner) session).imp id fun found => ?_
        exact ⟨session, found.1, by simpa using ended, found.2⟩
      · rw [same] at ended ⊢
        refine (conclude?_teardown ((w.disown owner).log (.sessionLeaked session)) session).imp id
          fun found => ?_
        exact ⟨session, found.1, by simpa using ended, found.2⟩
  | teardown session =>
    refine (conclude?_teardown w session).imp id fun found => ?_
    exact ⟨session, found.1, by simp [isActive_teardown], found.2⟩
  | request => exact .inl (inert_sessionRequest ..)
  | specifier => exact .inl (inert_sessionSpecifier ..)
  | managerDisconnect => exact .inl (inert_managerDisconnect ..)
  | managerRequest => exact .inl (inert_managerRequest ..)
  | managerSpecifier => exact .inl (inert_managerSpecifier ..)

theorem SessionChange.isTerminated (changes : w.SessionChange next pushed) {session : SessionRef}
    (active : w.isActive session = true) (ended : next.isActive session = false) :
    next.isTerminated session = true := by
  obtain ⟨s, found, _⟩ := isActive_eq_true.1 active
  obtain ⟨now, foundNow, _⟩ := changes.identity found
  rw [isTerminated_eq, ended]
  simp [(List.getElem?_eq_some_iff.1 foundNow).1]

theorem Fall.isTerminated {session : SessionRef} (fall : w.Fall next session)
    (before : w.isTerminated session = true) : next.isTerminated session = true := by
  cases fall with
  | stays terminated => rw [terminated, before]
  | falls _ terminated => exact terminated

end World

namespace Run

def concluding (r : Run) : List SessionRef := r.frames.filterMap Frame.conclude?

structure Nested (r : Run) : Prop where
  nodup : r.concluding.Nodup
  terminated : ∀ session ∈ r.concluding, r.world.isTerminated session = true

theorem Leaves.concluding {r : Run} {left : List Frame} (leaves : r.Leaves left) :
    (left.filterMap Frame.conclude?).Sublist r.concluding := by
  unfold Run.concluding
  cases leaves with
  | all => exact .refl _
  | outer frames =>
    rw [frames]
    exact (List.sublist_cons_self ..).filterMap _
  | advanced frames =>
    rw [frames]
    exact .refl _

theorem Nested.next {r next : Run} (nested : r.Nested) (moves : r.Next next) : next.Nested := by
  obtain ⟨pushed, left, transition, frames, leaves⟩ := moves.transition
  have changes := transition.sessionChange
  have concluding : next.concluding =
      pushed.filterMap Frame.conclude? ++ left.filterMap Frame.conclude? := by
    rw [Run.concluding, frames, List.filterMap_append]
  have earlier : ∀ session ∈ left.filterMap Frame.conclude?,
      r.world.isTerminated session = true :=
    fun session member => nested.terminated session (leaves.concluding.subset member)
  have still : ∀ session ∈ left.filterMap Frame.conclude?,
      next.world.isTerminated session = true :=
    fun session member => (changes.fall session).isTerminated (earlier session member)
  rcases transition.conclude? with inert | ⟨session, active, ended, own⟩
  · rw [show pushed.filterMap Frame.conclude? = [] from inert, List.nil_append] at concluding
    constructor
    · rw [concluding]
      exact nested.nodup.sublist leaves.concluding
    · rw [concluding]
      exact still
  · rw [own, List.singleton_append] at concluding
    constructor
    · rw [concluding, List.nodup_cons]
      refine ⟨?_, nested.nodup.sublist leaves.concluding⟩
      -- A session that is torn down now has not been torn down before.
      intro member
      cases active.symm.trans (World.inactive_of_isTerminated (earlier session member))
    · rw [concluding]
      intro other member
      rcases List.mem_cons.1 member with rfl | old
      · exact changes.isTerminated active ended
      · exact still other old

theorem Nested.length_le {r : Run} (nested : r.Nested) :
    r.concluding.length ≤ r.world.sessions.length := by
  -- Distinct sessions that have all been made are no more than there are sessions.
  have within : r.concluding ⊆ List.range r.world.sessions.length := by
    intro session member
    have terminated := nested.terminated session member
    rw [World.isTerminated_eq, Bool.and_eq_true, decide_eq_true_eq] at terminated
    exact List.mem_range.2 terminated.1
  have shorter := (nested.nodup.subperm within).length_le
  rwa [List.length_range] at shorter

theorem Reachable.nested {manager : ManagerKind} {service : Service} {r : Run}
    (reachable : Reachable manager service r) : r.Nested := by
  induction reachable with
  | start => exact ⟨List.nodup_nil, by simp [concluding]⟩
  | next _ moves ih => exact ih.next moves

theorem Reachable.tornOnce {manager : ManagerKind} {service : Service} {r : Run}
    (reachable : Reachable manager service r) : r.world.TornOnce :=
  reachable.keeps (World.tornOnce_initial manager service) fun torn transition =>
    torn.sessionChange transition.sessionChange

/-- Whatever the manager does, each session is torn down once, by its first destroy or with its last
owner, and its manager is told then or never. Disconnects within disconnects are of different
sessions, so they end; a run with a manager that calls back no more than it may comes to rest. -/
theorem Reachable.torn_once {manager : ManagerKind} {service : Service} {r : Run}
    (reachable : Reachable manager service r) :
    r.world.TornOnce ∧
    (∀ owner session, r.world.owned? owner = some session → r.world.Endable owner session) ∧
    (∀ next, r.Next next → ∀ session, r.world.Fall next.world session ∧
      (r.world.isActive session = true → next.world.isTerminated session = true →
        r.world.Ends session next.world)) ∧
    r.Nested ∧ r.concluding.length ≤ r.world.sessions.length ∧
    (manager.Restrained → r.settle.tick = none) := by
  refine ⟨reachable.tornOnce, fun owner session owned => reachable.tended.endable owned, ?_,
    reachable.nested, reachable.nested.length_le, ?_⟩
  · intro next moves session
    obtain ⟨_, _, transition, _⟩ := moves.transition
    refine ⟨transition.sessionChange.fall session, ?_⟩
    intro active terminated
    exact transition.ends active (World.inactive_of_isTerminated terminated)
  · intro restrained
    exact tick_settle (reachable.manager ▸ restrained)

/-- A manager that destroys a session and asks one for a publish before it returns from a disconnect
calls back no more than it may. -/
theorem restrained_of_reentrant {conduct : List ManagerCall → Reaction}
    (outcomes : ∀ calls, (conduct calls).outcomes.length ≤ 1)
    (reenters : ∀ client token task earlier, ∃ destroyed asked config on,
      (conduct (.disconnect client token task :: earlier)).steps =
        [.destroy destroyed, .request asked (.publish config) .silent on])
    (waits : ∀ task request target rejection earlier,
      (conduct (.request task request target rejection :: earlier)).steps = [])
    (answers : ∀ client role peer token earlier,
      (conduct (.specifier client role peer token :: earlier)).steps = []) :
    (ManagerKind.foreign conduct).Restrained := by
  intro call earlier
  refine ⟨?_, outcomes _⟩
  cases call with
  | disconnect client token task =>
    obtain ⟨destroyed, asked, config, on, steps⟩ := reenters client token task earlier
    rw [steps]
    simp [stepsWeight, Step.weight, callbackWeight, ManagerCall.allowance]
  | request task request target rejection =>
    rw [waits]
    simp [stepsWeight]
  | specifier client role peer token =>
    rw [answers]
    simp [stepsWeight]

def pair : World :=
  (World.initial (.permissive true) {}).takeAll
    [.session "first" ⟨5⟩ "key" none, .session "second" ⟨5⟩ "other" none]

def destroyedWithin : Run :=
  advance 1 ⟨(pair.perform false (.destroy "first")).world,
    (pair.perform false (.destroy "first")).frames⟩

theorem torn_once_destroyedWithin :
    destroyedWithin.concluding = [1, 0] ∧ destroyedWithin.world.TornOnce ∧
      destroyedWithin.Nested ∧
      destroyedWithin.concluding.length ≤ destroyedWithin.world.sessions.length ∧
      destroyedWithin.settle.tick = none := by
  have made : Reachable (.permissive true) {} ⟨pair, []⟩ := .scenario (.permissive true) _
  have idle : tick ⟨pair, []⟩ = none := tick_eq_none.2 ⟨rfl, by decide +kernel⟩
  have reached : Reachable (.permissive true) {} destroyedWithin :=
    (Reachable.next made (.step idle (.destroy "first"))).advance 1
  obtain ⟨torn, _, _, nested, depth, rests⟩ := reached.torn_once
  exact ⟨by decide +kernel, torn, nested, depth, rests (.permissive true)⟩

end Run

end Proximity
