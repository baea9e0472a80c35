import Proximity.Proofs.Tasks

/-! What calls on sessions and on managers are made of, whatever comes of them. None of it calls a
callback or polls a stream, and a callback goes to no task unless the channels that it sends to are
lent to the call. -/

set_option autoImplicit false

namespace Proximity

structure Pace where
  running : Option Target
  tasksRun : Nat
  budget : Nat

def Occurrence.isHeard : Occurrence → Bool
  | .invoked .. | .polled .. | .putOff _ => true
  | _ => false

namespace World

def pace (w : World) : Pace :=
  { running := w.running, tasksRun := w.tasksRun, budget := w.budget }

/-- One after another: something is noted that channels do not hear, fields change that they do not
look at, a task is made, and a callback is let go. -/
inductive Routine (lent : ChannelRef → Prop) (w : World) : World → Prop where
  | refl : Routine lent w w
  | noting {next : World} (routine : Routine lent w next) {o : Occurrence}
      (other : o.isHeard = false) : Routine lent w (next.emit o)
  | changing {next last : World} (routine : Routine lent w next)
      (channels : last.channels = next.channels) (senders : last.senders = next.senders)
      (dispatch : last.dispatch = next.dispatch) (trace : last.trace = next.trace)
      (pace : last.pace = next.pace) : Routine lent w last
  | spawning {next : World} (routine : Routine lent w next) (target : Target) {job : Job}
      (holds : ∀ listener channel, job.listener? = some listener →
        listener.holds channel = true → lent channel) : Routine lent w (next.spawn target job)
  | releasing {next : World} (routine : Routine lent w next) (listener : Listener) :
      Routine lent w (next.releaseListener listener)

variable {lent : ChannelRef → Prop} {w next last : World}

namespace Routine

theorem trans (first : Routine lent w next) (second : Routine lent next last) :
    Routine lent w last := by
  induction second with
  | refl => exact first
  | noting _ other ih => exact ih.noting other
  | changing _ channels senders dispatch trace pace ih =>
    exact ih.changing channels senders dispatch trace pace
  | spawning _ target holds ih => exact ih.spawning target holds
  | releasing _ listener ih => exact ih.releasing listener

theorem emit {o : Occurrence} (other : o.isHeard = false) : Routine lent w (w.emit o) :=
  refl.noting other

theorem silent (channels : next.channels = w.channels) (senders : next.senders = w.senders)
    (dispatch : next.dispatch = w.dispatch) (trace : next.trace = w.trace)
    (pace : next.pace = w.pace) : Routine lent w next :=
  refl.changing channels senders dispatch trace pace

end Routine

theorem routine_tokenNamed (w : World) (name : Name) : Routine lent w (w.tokenNamed name).2 := by
  rw [tokenNamed_eq]
  exact .silent rfl rfl rfl rfl rfl

theorem routine_tellOutcomes (w : World) {listener : Listener}
    (holds : ∀ channel, listener.holds channel = true → lent channel)
    (outcomes : List (Target × Option Started)) :
    Routine lent w (w.tellOutcomes listener outcomes) := by
  have spawned (w : World) : Routine lent w (outcomes.foldl (fun w outcome =>
      w.spawn outcome.1 (outcomeJob listener outcome.2)) w) := by
    induction outcomes generalizing w with
    | nil => exact .refl
    | cons outcome rest ih =>
      refine (Routine.refl.spawning outcome.1 fun other channel carries => ?_).trans (ih _)
      -- Whatever the outcome, its task gets the callback of the request.
      have same : other = listener := by
        unfold outcomeJob at carries
        split at carries <;> exact (Option.some.inj carries).symm
      rw [same]
      exact holds channel
  exact (spawned w).releasing listener

theorem routine_managerRequest (w : World) (origin : Option SessionRef) {request : Request}
    (target : Target) (holds : ∀ channel, request.listener.holds channel = true → lent channel) :
    Routine lent w (w.managerRequest origin request target).1 := by
  have received (rejection : Option Error) : Routine lent w (w.emit
      (.received origin w.running (.request w.nextTask request target rejection))) := .emit rfl
  unfold managerRequest
  split
  · unfold registryRequest
    simp only
    split
    · refine ((received _).noting rfl).spawning _ fun listener channel carries => ?_
      rw [← Option.some.inj carries]
      exact holds channel
    · refine (received _).spawning _ fun listener channel carries => ?_
      rw [← Option.some.inj carries]
      exact holds channel
  · have asked : Routine lent w { (w.emit (.received origin w.running (.request w.nextTask request
        target none))).call (.request request.client request.config) with
        nextStarted := w.nextStarted + 1 } :=
      ((received none).noting rfl).trans (.silent rfl rfl rfl rfl rfl)
    refine asked.spawning _ fun listener channel carries => ?_
    rw [← Option.some.inj carries]
    exact holds channel
  · rename_i conduct _
    have told := (received none).trans (routine_tellOutcomes _ holds (conduct (w.emit (.received
      origin w.running (.request w.nextTask request target none))).managerCalls).outcomes)
    exact told.trans (.silent rfl rfl rfl rfl rfl)

theorem routine_managerDisconnect (w : World) (origin : Option SessionRef) (client : ClientId)
    (token : Token) : Routine lent w (w.managerDisconnect origin client token).1 := by
  have received (task : Option TaskRef) : Routine lent w
      (w.emit (.received origin w.running (.disconnect client token task))) := .emit rfl
  unfold managerDisconnect
  split
  · unfold registryDisconnect
    simp only
    split
    · exact (received none).noting rfl
    · split
      · have erased : Routine lent w { w.emit (.received origin w.running (.disconnect client token
            (some w.nextTask))) with clients := w.clients.erase client } :=
          (received _).trans (.silent rfl rfl rfl rfl rfl)
        exact erased.spawning _ (by simp [Job.listener?])
      · exact (received none).noting rfl
  · unfold permissiveDisconnect
    simp only
    have called := (received none).noting (o := .called w.running (.disconnect client token)) rfl
    split
    · split
      · exact called.noting rfl
      · exact called.noting rfl
    · exact called
  · exact (received none).trans (.silent rfl rfl rfl rfl rfl)

theorem routine_managerSpecifier (w : World) (origin : Option SessionRef) (client : ClientId)
    (role : Role) (peer token : Option Bytes) :
    Routine lent w (w.managerSpecifier origin client role peer token).2.1 := by
  have received : Routine lent w (w.emit (.received origin w.running
      (.specifier client role peer token))) := .emit rfl
  unfold managerSpecifier
  split
  · unfold registrySpecifier
    simp only
    split
    · split
      · exact received
      · exact received.noting rfl
    · exact received.noting rfl
  · exact received.noting rfl
  · exact received.trans (.silent rfl rfl rfl rfl rfl)

theorem routine_sessionRequest (w : World) (session : SessionRef) (config : Config)
    {listener : Listener} (on : Option Target)
    (holds : ∀ channel, listener.holds channel = true → lent channel) :
    Routine lent w (w.sessionRequest session config listener on).1 := by
  unfold sessionRequest
  split
  · exact .refl
  · simp only
    split
    · exact ((Routine.emit rfl).noting rfl).releasing listener
    · exact (Routine.emit rfl).trans (routine_managerRequest _ _ _ holds)

theorem routine_sessionSpecifier (w : World) (session : SessionRef) (role : Role)
    (peer token : Option Bytes) :
    Routine lent w (w.sessionSpecifier session role peer token).2.1 := by
  unfold sessionSpecifier
  split
  · exact .refl
  · simp only
    split
    · exact (Routine.emit rfl).noting rfl
    · exact (Routine.emit rfl).trans (routine_managerSpecifier ..)

theorem routine_teardown (w : World) (session : SessionRef) :
    Routine lent w (w.teardown session).1 := by
  unfold teardown
  split
  · exact .refl
  · split
    · exact (Routine.emit rfl).noting rfl
    · have asked (refusal : Option Refusal) :
          Routine lent w ((w.emit (.asked session .destroy refusal)).terminate session) :=
        (Routine.emit rfl).trans (.silent rfl rfl rfl rfl rfl)
      simp only
      split
      · exact ((asked _).noting rfl).trans (.silent rfl rfl rfl rfl rfl)
      · exact (asked none).trans (routine_managerDisconnect ..)

theorem routine_dropOwner {owner : Name} {effect : Effect}
    (done : w.dropOwner owner = some effect) : Routine lent w effect.world := by
  have disowned : Routine lent w (w.disown owner) := .silent rfl rfl rfl rfl rfl
  obtain ⟨session, _, ⟨_, rfl⟩ | ⟨_, rfl⟩⟩ := dropOwner_cases done
  · exact disowned
  · rcases dropSession_cases (w.disown owner) session with ⟨_, same⟩ | ⟨_, same | same⟩
    · rw [same]
      exact disowned
    · rw [same]
      exact disowned.trans (routine_teardown ..)
    · rw [same]
      exact (disowned.noting rfl).trans (routine_teardown ..)

theorem routine_conclude (w : World) (session : SessionRef) :
    Routine lent w (w.conclude session) := by
  unfold conclude
  split
  · exact .refl
  · have closed : Routine lent w (w.closeGuard session) := .silent rfl rfl rfl rfl rfl
    exact closed.trans (.emit rfl)

theorem routine_addSession (w : World) (client : ClientId) (token : Token) (dispatch : Target) :
    Routine lent w (w.addSession client token dispatch) := by
  refine .noting ?_ rfl
  exact .silent rfl rfl rfl rfl rfl

theorem routine_own (w : World) (as : Name) (session : SessionRef) :
    Routine lent w (w.own as session) :=
  .silent rfl rfl rfl rfl rfl

theorem routine_makeSession {as : Name} {client : ClientId} {token : Name} {on : Option Target}
    {effect : Effect} (done : w.makeSession as client token on = some effect) :
    Routine lent w effect.world := by
  obtain ⟨_, _, made⟩ := makeSession_eq done
  rw [made]
  exact ((routine_tokenNamed w token).trans (routine_addSession ..)).trans (routine_own ..)

theorem routine_attach {as : Name} {effect : Effect} (done : w.attach as = some effect) :
    Routine lent w effect.world := by
  have called : Routine lent w (w.call .attach) := .emit rfl
  unfold attach at done
  simp only at done
  split at done
  · cases done
  · split at done
    · cases done
      exact called.trans (.silent rfl rfl rfl rfl rfl)
    · cases done
      refine Routine.trans (Routine.trans ?_ (routine_addSession ..)) (routine_own ..)
      refine Routine.noting (Routine.noting ?_ rfl) rfl
      exact called.trans (.silent rfl rfl rfl rfl rfl)

end World

end Proximity
