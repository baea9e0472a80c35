import Proximity.Proofs.Calm

/-! What moves do to event channels, and what they cost the task that is being run. A move is calm,
or it makes one channel, passes one event to one, takes one from it, or closes it. -/

set_option autoImplicit false

namespace Proximity

namespace Occurrence

def stream? : Occurrence → Option ChannelRef
  | .invoked _ _ (.channel sender) _ => some sender.channel
  | .polled channel _ => some channel
  | _ => none

def isStreamed (o : Occurrence) : Bool := o.stream?.isSome

def isOutcome : Occurrence → Bool
  | .invoked (some _) .. => true
  | _ => false

def isYield : Occurrence → Bool
  | .polled _ poll => poll ≠ .pending
  | _ => false

theorem isSignal_of_isStreamed {o : Occurrence} (streamed : o.isStreamed = true) :
    o.isSignal = true := by
  cases o with
  | invoked | polled => rfl
  | _ => cases streamed

end Occurrence

def Listener.pass (event : Event) (streams : List Stream) : Listener → List Stream
  | .channel sender => streams.modify sender.channel (Stream.send event)
  | _ => streams

inductive Polls (sendable : Prop) : List Event → Poll → List Event → Prop where
  | oldest (event : Event) (rest : List Event) : Polls sendable (event :: rest) (.event event) rest
  | pending (still : sendable) : Polls sendable [] .pending []
  | ended (gone : ¬ sendable) : Polls sendable [] .ended []

namespace World

variable {lent : ChannelRef → Prop} {task : Option TaskRef} {w mid next last : World}
  {facts : List Occurrence}

theorem Told.streamed (told : w.Told Occurrence.isSignal next facts) :
    w.Told Occurrence.isStreamed next (facts.filter Occurrence.isStreamed) := by
  obtain ⟨happened, trace, rfl⟩ := told
  refine ⟨happened, trace, ?_⟩
  rw [List.filter_filter]
  apply congrArg (List.filter · happened)
  funext o
  cases streamed : o.isStreamed with
  | false => rfl
  | true => simp [Occurrence.isSignal_of_isStreamed streamed]

/-! ### Moves that pass an event on -/

inductive Conveys (lent : ChannelRef → Prop) (task : Option TaskRef) (w next : World) : Prop where
  | calm (calm : Calm lent w next)
  | called (running : Option Target) (listener : Listener) (event : Event)
      (known : ∀ channel, listener.holds channel = true → lent channel)
      (streams : next.streams = listener.pass event w.streams)
      (told : w.Told Occurrence.isSignal next [.invoked task running listener event])
      (referenced : ∀ channel, next.Referenced channel → w.Referenced channel ∨ lent channel)
      (pace : next.pace = w.pace)

namespace Conveys

theorem after (calm : Calm lent w next) (conveys : Conveys lent task next last) :
    Conveys lent task w last := by
  cases conveys with
  | calm more => exact .calm (calm.trans more)
  | called running listener event known streams told referenced pace =>
    exact .called running listener event known (calm.streams ▸ streams) (calm.told.trans told)
      (fun channel held => (referenced channel held).elim (calm.referenced channel) .inr)
      (pace.trans calm.pace)

theorem before (conveys : Conveys lent task w next) (calm : Calm lent next last) :
    Conveys lent task w last := by
  cases conveys with
  | calm more => exact .calm (more.trans calm)
  | called running listener event known streams told referenced pace =>
    exact .called running listener event known (calm.streams.trans streams) (told.trans calm.told)
      (fun channel held => (calm.referenced channel held).elim (referenced channel) .inr)
      (calm.pace.trans pace)

end Conveys

theorem modify_send_gone {streams : List Stream} {channel : ChannelRef} (event : Event)
    (gone : ∀ s, streams[channel]? = some s → s.receiver = false) :
    streams.modify channel (Stream.send event) = streams := by
  apply List.ext_getElem?
  intro i
  rw [List.getElem?_modify]
  split
  · rename_i own
    subst own
    cases found : streams[channel]? with
    | none => rfl
    | some s => simp [Stream.send, gone s found]
  · simp

theorem streams_sendEvent (w : World) (channel : ChannelRef) (event : Event) :
    (w.sendEvent channel event).streams = w.streams.modify channel (Stream.send event) := by
  unfold sendEvent
  split
  · rename_i c found
    split
    · rename_i there
      refine streams_updateChannel fun other same => ?_
      obtain rfl : c = other := Option.some.inj (found.symm.trans same)
      rw [Channel.stream_send, Stream.send, if_pos (show c.stream.receiver = true from there)]
      rfl
    · rename_i gone
      refine (modify_send_gone event fun s same => ?_).symm
      change (w.channels.map Channel.stream)[channel]? = some s at same
      rw [List.getElem?_map, found] at same
      rw [← Option.some.inj same]
      exact Bool.eq_false_iff.2 gone
  · rename_i missing
    refine (modify_send_gone event fun s same => ?_).symm
    rw [streams, List.getElem?_map, missing] at same
    cases same

theorem conveys_invoke (w : World) (task : Option TaskRef) {listener : Listener} (event : Event)
    (holds : ∀ channel, listener.holds channel = true → lent channel) :
    Conveys lent task w (w.invoke task listener event).1 := by
  cases listener with
  | silent | record => exact .called w.running _ event holds rfl ⟨[_], rfl, rfl⟩ (fun _ => .inl) rfl
  | channel sender =>
    have told : w.Told Occurrence.isSignal (w.invoke task (.channel sender) event).1
        [.invoked task w.running (.channel sender) event] := by
      simp only [invoke, sendEvent]
      split
      · split
        · exact ⟨[_], rfl, rfl⟩
        · exact ⟨[_, _], rfl, rfl⟩
      · exact ⟨[_], rfl, rfl⟩
    refine .called w.running _ event holds (streams_sendEvent ..) told (fun channel held => .inl ?_)
      ?_
    · simp only [invoke, sendEvent] at held
      split at held
      · split at held <;> exact held
      · exact held
    · simp only [invoke, sendEvent]
      split
      · split <;> rfl
      · rfl

theorem conveys_conveyOutcome (w : World) (task : Task) {listener : Listener} (event : Event)
    (holds : ∀ channel, listener.holds channel = true → lent channel) :
    Conveys lent (some task.id) w (w.conveyOutcome task listener event).1 :=
  (conveys_invoke w (some task.id) event holds).before (calm_releaseListener ..)

theorem conveys_answerStart (w : World) (task : Task) {request : Request} (verdict : Verdict)
    (holds : ∀ channel, request.listener.holds channel = true → lent channel) :
    Conveys lent (some task.id) w (w.answerStart task request verdict).1 := by
  have answered (service : Service) (result : Except Error (Option SessionId)) :
      Calm lent w (({ w with service } : World).emit (.answered task.id result)) := by
    refine .noting ?_ rfl
    exact .silent rfl rfl rfl rfl rfl
  unfold answerStart
  simp only
  split
  · exact .after ((answered _ _).noting rfl) (conveys_conveyOutcome _ _ _ holds)
  · exact .after ((answered _ _).noting rfl) (conveys_conveyOutcome _ _ _ holds)

theorem conveys_runTask (w : World) (target : Target) {task : Task}
    (holds : ∀ channel, task.holds channel = true → lent channel) :
    Conveys lent (some task.id) w (w.runTask target task).1 := by
  have own {listener : Listener} (carries : task.job.listener? = some listener)
      (channel : ChannelRef) (held : listener.holds channel = true) : lent channel :=
    holds channel ((holds_of_listener carries).trans held)
  unfold runTask
  split
  · rename_i request job _
    have called (service : Service) : Calm lent w { w.call (.start task.id request.client
        request.config) with service } := (Calm.emit rfl).trans (.silent rfl rfl rfl rfl rfl)
    unfold startCall
    simp only
    split
    · exact .calm ((called _).trans (calm_suspend _ _ _ _ holds))
    · exact .after (called _) (conveys_answerStart _ _ _ (own (by rw [job]; rfl)))
  · rename_i request verdict job _
    exact conveys_answerStart _ _ _ (own (by rw [job]; rfl))
  · rename_i client job _
    have called (service : Service) :
        Calm lent w { w.call (.detach task.id client) with service } :=
      (Calm.emit rfl).trans (.silent rfl rfl rfl rfl rfl)
    unfold detachCall
    simp only
    split
    · exact .calm ((called _).trans (calm_suspend _ _ _ _ holds))
    · exact .calm ((called _).trans (calm_answerDetach ..))
  · exact .calm (calm_answerDetach ..)
  · rename_i listener job
    exact conveys_conveyOutcome _ _ _ (own (by rw [job]; rfl))
  · rename_i started listener job
    exact conveys_conveyOutcome _ _ _ (own (by rw [job]; rfl))
  · exact .calm (.emit rfl)

theorem quiet_begin {target : Target} {task : Task} {queue : Queue}
    (popped : (w.dispatch.queue target).pop? = some (task, queue)) : Quiet w.Referenced w
      (({ w with dispatch := w.dispatch.setQueue target queue } : World).beginTask task) := by
  have taken : Quiet w.Referenced w
      { w with dispatch := w.dispatch.setQueue target queue } := by
    refine ⟨rfl, (Told.refl w _).of_trace rfl, fun channel held => .inl ?_⟩
    exact (referenced_pop popped).2 (.inl held)
  exact taken.trans (quiet_beginTask ..)

theorem holds_of_pop {target : Target} {task : Task} {queue : Queue}
    (popped : (w.dispatch.queue target).pop? = some (task, queue)) (channel : ChannelRef)
    (held : task.holds channel = true) : w.Referenced channel :=
  (referenced_pop popped).2 (.inr held)

/-! ### What a transition does -/

inductive StreamChange (w next : World) : Prop where
  | calm (streams : next.streams = w.streams) (told : w.Told Occurrence.isStreamed next [])
      (referenced : ∀ channel, next.Referenced channel → w.Referenced channel)
  | made (streams : next.streams = w.streams ++ [({} : Stream)])
      (told : w.Told Occurrence.isStreamed next [])
      (referenced : ∀ channel, next.Referenced channel →
        w.Referenced channel ∨ channel = w.streams.length)
  | sent (task : Option TaskRef) (running : Option Target) (sender : Sender) (event : Event)
      (known : w.Referenced sender.channel)
      (streams : next.streams = w.streams.modify sender.channel (Stream.send event))
      (told : w.Told Occurrence.isStreamed next [.invoked task running (.channel sender) event])
      (referenced : ∀ channel, next.Referenced channel → w.Referenced channel)
  | polled (channel : ChannelRef) {s : Stream} {poll : Poll} {rest : List Event}
      (found : w.streams[channel]? = some s) (there : s.receiver = true)
      (answer : Polls (w.Referenced channel) s.buffer poll rest)
      (streams : next.streams = w.streams.modify channel fun s => { s with buffer := rest })
      (told : w.Told Occurrence.isStreamed next [.polled channel poll])
      (referenced : ∀ channel, next.Referenced channel → w.Referenced channel)
  | closed (channel : ChannelRef) (streams : next.streams = w.streams.modify channel Stream.close)
      (told : w.Told Occurrence.isStreamed next [])
      (referenced : ∀ channel, next.Referenced channel → w.Referenced channel)

theorem Quiet.streamChange (quiet : Quiet w.Referenced w next) : w.StreamChange next :=
  .calm quiet.streams quiet.told.streamed fun channel held =>
    (quiet.referenced channel held).elim id id

/-- Nothing but the call of a callback shows, whatever was prepared for it. -/
theorem Conveys.streamChange (quiet : Quiet w.Referenced w mid)
    (conveys : Conveys w.Referenced task mid next) : w.StreamChange next := by
  cases conveys with
  | calm calm => exact (quiet.trans calm.toQuiet).streamChange
  | called running listener event known streams told referenced =>
    have signalled := (quiet.told.trans told).streamed
    have held (channel : ChannelRef) (held : next.Referenced channel) : w.Referenced channel :=
      (referenced channel held).elim (fun old => (quiet.referenced channel old).elim id id) id
    rw [quiet.streams] at streams
    cases listener with
    | silent | record => exact .calm streams signalled held
    | channel sender =>
      exact .sent task running sender event (known _ (by simp [Callback.holds])) streams signalled
        held

inductive BudgetChange (w next : World) : Prop where
  | idle (idle : next.running = none ∨ next.tasksRun = 0)
  /-- A task has begun, and has called its callback if it has one. -/
  | began {facts : List Occurrence} (told : w.Told Occurrence.isSignal next facts)
      (one : facts.length ≤ 1) (free : facts.countP Occurrence.isYield = 0)
      (least : taskBudget - 1 ≤ next.budget) (most : next.budget ≤ taskBudget)
  | within {facts : List Occurrence} (told : w.Told Occurrence.isSignal next facts)
      (own : ∀ o ∈ facts, o.isOutcome = false) (running : next.running = w.running)
      (tasksRun : next.tasksRun = w.tasksRun)
      (budget : w.running.isSome = true →
        next.budget + facts.countP Occurrence.isYield = w.budget)

theorem BudgetChange.steady (told : w.Told Occurrence.isSignal next facts)
    (own : ∀ o ∈ facts, o.isOutcome = false) (free : facts.countP Occurrence.isYield = 0)
    (pace : next.pace = w.pace) : w.BudgetChange next := by
  simp only [World.pace, Pace.mk.injEq] at pace
  obtain ⟨running, tasksRun, budget⟩ := pace
  exact .within told own running tasksRun fun _ => by rw [free, Nat.add_zero, budget]

structure ChannelChange (w next : World) : Prop where
  streamChange : w.StreamChange next
  budgetChange : w.BudgetChange next

theorem Calm.channelChange (calm : Calm w.Referenced w next) : w.ChannelChange next :=
  ⟨calm.toQuiet.streamChange, .steady calm.told (by simp) rfl calm.pace⟩

theorem Conveys.channelChange (conveys : Conveys w.Referenced none w next) :
    w.ChannelChange next := by
  refine ⟨conveys.streamChange (Calm.refl w).toQuiet, ?_⟩
  cases conveys with
  | calm calm => exact calm.channelChange.budgetChange
  | called running listener event known streams told referenced pace =>
    exact .steady told (by simp [Occurrence.isOutcome]) rfl pace

theorem budget_beginTask (w : World) (task : Task) :
    taskBudget - 1 ≤ (w.beginTask task).pace.budget ∧
      (w.beginTask task).pace.budget ≤ taskBudget := by
  simp only [beginTask, pace]
  split <;> simp

theorem channelChange_run {target : Target} {task : Task} {queue : Queue}
    (popped : (w.dispatch.queue target).pop? = some (task, queue)) : w.ChannelChange
      ((({ w with dispatch := w.dispatch.setQueue target queue } : World).beginTask task).runTask
        target task).1 := by
  have quiet := quiet_begin popped
  have conveys := conveys_runTask (({ w with dispatch := w.dispatch.setQueue target queue } :
    World).beginTask task) target (holds_of_pop popped)
  obtain ⟨least, most⟩ := budget_beginTask
    { w with dispatch := w.dispatch.setQueue target queue } task
  refine ⟨conveys.streamChange quiet, ?_⟩
  cases conveys with
  | calm calm =>
    rw [← calm.pace] at least most
    exact .began (quiet.told.trans calm.told) (by simp) rfl least most
  | called running listener event known streams told referenced pace =>
    rw [← pace] at least most
    exact .began (quiet.told.trans told) (by simp) rfl least most

theorem referenced_makeChannel {as : Name} {effect : Effect}
    (done : w.makeChannel as = some effect) (channel : ChannelRef) :
    effect.world.Referenced channel ↔ w.Referenced channel ∨ w.channels.length = channel := by
  unfold makeChannel at done
  split at done <;> cases done
  exact referenced_concat (as, ⟨w.channels.length, w.sendersMade⟩) rfl rfl

theorem channelChange_makeChannel {as : Name} {effect : Effect}
    (done : w.makeChannel as = some effect) :
    w.ChannelChange effect.world := by
  have referenced := referenced_makeChannel done
  unfold makeChannel at done
  split at done <;> cases done
  refine ⟨.made (by simp [streams, Channel.stream]) ((Told.refl w _).of_trace rfl) ?_,
    .steady ((Told.refl w _).of_trace rfl) (by simp) rfl rfl⟩
  intro channel held
  refine ((referenced channel).1 held).imp_right fun own => ?_
  simpa [streams] using own.symm

theorem referenced_cloneSender {sender as : Name} {effect : Effect}
    (done : w.cloneSender sender as = some effect) (channel : ChannelRef) :
    effect.world.Referenced channel ↔ w.Referenced channel := by
  simp only [cloneSender, Option.bind_eq_bind, Option.bind_eq_some_iff] at done
  obtain ⟨copied, known, done⟩ := done
  split at done <;> cases done
  refine Iff.trans (referenced_concat (as, ⟨copied.channel, w.sendersMade⟩) rfl rfl) ?_
  refine or_iff_left_of_imp fun own => ?_
  exact .inl ⟨_, mem_of_lookup known, own⟩

theorem calm_cloneSender {sender as : Name} {effect : Effect}
    (done : w.cloneSender sender as = some effect) : Calm lent w effect.world := by
  have referenced := referenced_cloneSender done
  simp only [cloneSender, Option.bind_eq_bind, Option.bind_eq_some_iff] at done
  obtain ⟨copied, known, done⟩ := done
  split at done <;> cases done
  exact ⟨⟨rfl, (Told.refl w _).of_trace rfl, fun channel held => .inl
    ((referenced channel).1 held)⟩,
    rfl⟩

theorem calm_dropSender {sender : Name} {effect : Effect}
    (done : w.dropSender sender = some effect) : Calm lent w effect.world := by
  simp only [dropSender, Option.bind_eq_bind, Option.bind_eq_some_iff] at done
  obtain ⟨dropped, _, done⟩ := done
  cases done
  have renamed : Calm lent w { w with senders := withoutName sender w.senders } := by
    refine ⟨⟨rfl, (Told.refl w _).of_trace rfl, fun channel held => .inl ?_⟩, rfl⟩
    exact (referenced_withoutName w sender).2 (.inl held)
  exact renamed.trans (calm_releaseChannel ..)

theorem receiving?_eq {name : Name} {channel : ChannelRef} {c : Channel}
    (receiving : w.receiving? name = some (channel, c)) :
    w.receivers.lookup name = some channel ∧ w.channels[channel]? = some c ∧
      c.receiver = true := by
  simp only [receiving?, Option.bind_eq_bind, Option.bind_eq_some_iff] at receiving
  obtain ⟨_, known, _, found, receiving⟩ := receiving
  split at receiving <;> cases receiving
  exact ⟨known, found, ‹_›⟩

theorem channelChange_dropReceiver {receiver : Name} {effect : Effect}
    (done : w.dropReceiver receiver = some effect) : w.ChannelChange effect.world := by
  simp only [dropReceiver, Option.bind_eq_bind, Option.bind_eq_some_iff] at done
  obtain ⟨⟨channel, c⟩, _, done⟩ := done
  cases done
  exact ⟨.closed channel (streams_updateChannel fun c _ => c.stream_close)
    ((Told.refl w _).of_trace rfl) fun _ => id, .steady ((Told.refl w _).of_trace rfl) (by simp)
    rfl rfl⟩

theorem polls_poll (c : Channel) {sendable : Bool} {referenced : Prop}
    (same : sendable = true ↔ referenced) :
    Polls referenced c.buffer (c.poll sendable).1 (c.poll sendable).2.buffer ∧
      (c.poll sendable).2.receiver = c.receiver := by
  unfold Channel.poll
  split
  · rename_i event rest buffer
    rw [buffer]
    exact ⟨.oldest event rest, rfl⟩
  · rename_i buffer
    rw [buffer]
    split
    · rename_i yes
      exact ⟨by simpa [buffer] using Polls.pending (same.1 yes), rfl⟩
    · rename_i no
      exact ⟨by simpa [buffer] using Polls.ended fun still => no (same.2 still), rfl⟩

theorem spend_eq (w : World) (poll : Poll) :
    w.spend poll = { w with budget := (w.spend poll).budget } := by
  unfold spend
  split <;> rfl

theorem referenced_spend (w : World) (poll : Poll) (channel : ChannelRef) :
    (w.spend poll).Referenced channel ↔ w.Referenced channel := by
  rw [spend_eq]
  exact referenced_congr rfl rfl channel

theorem budget_spend (ready : w.isSpent = false) (busy : w.running.isSome = true)
    (channel : ChannelRef) (poll : Poll) : (w.spend poll).budget +
      [Occurrence.polled channel poll].countP Occurrence.isYield = w.budget := by
  have left : w.budget ≠ 0 := by simpa [isSpent, busy] using ready
  by_cases pending : poll = .pending
  · simp [spend, Occurrence.isYield, pending]
  · simp [spend, Occurrence.isYield, pending]
    omega

theorem channelChange_pollChannel {receiver : Name} {effect : Effect}
    (done : w.pollChannel receiver = some effect) : w.ChannelChange effect.world := by
  simp only [pollChannel, Option.bind_eq_bind, Option.bind_eq_some_iff] at done
  obtain ⟨⟨channel, c⟩, receiving, done⟩ := done
  obtain ⟨_, found, there⟩ := receiving?_eq receiving
  split at done
  · cases done
    have calm : Calm w.Referenced w (w.updateChannel channel Channel.putOff) :=
      calm_updateChannel Channel.stream_putOff
    exact (calm.noting (o := .putOff channel) rfl).channelChange
  · rename_i ready
    cases done
    obtain ⟨answer, stays⟩ := polls_poll c (isSendable_iff w channel)
    generalize c.poll (w.isSendable channel) = polled at answer stays
    have told (keep : Occurrence → Bool) (kept : keep (.polled channel polled.1) = true) :
        w.Told keep (((w.updateChannel channel fun _ => polled.2).spend polled.1).emit
          (.polled channel polled.1)) [.polled channel polled.1] :=
      ((Told.refl w keep).of_trace (by rw [spend_eq]; rfl)).emit kept
    constructor
    · refine .polled channel (s := c.stream) (by simp [streams, found]) there answer ?_
        (told _ rfl) ?_
      · rw [spend_eq]
        refine streams_updateChannel fun other same => ?_
        obtain rfl : c = other := Option.some.inj (found.symm.trans same)
        simp [Channel.stream, stays]
      · intro other held
        exact (referenced_spend (w.updateChannel channel _) _ other).1 held
    · have affordable : (w.updateChannel channel fun _ => polled.2).isSpent = false :=
        Bool.eq_false_iff.2 ready
      exact .within (told _ rfl) (by simp [Occurrence.isOutcome])
        (by rw [spend_eq]; rfl) (by rw [spend_eq]; rfl)
        fun busy => budget_spend affordable busy channel _

theorem InternalTransition.channelChange {pushed : List Frame}
    (internal : w.InternalTransition next pushed) : w.ChannelChange next := by
  cases internal with
  | nothing | race => exact (Calm.refl w).channelChange
  | makeChannel done => exact channelChange_makeChannel done
  | cloneSender done => exact (calm_cloneSender done).channelChange
  | dropSender done => exact (calm_dropSender done).channelChange
  | dropReceiver done => exact channelChange_dropReceiver done
  | poll done => exact channelChange_pollChannel done
  | send listener event known =>
    exact (conveys_invoke w none event fun _ holds => known.referenced holds).channelChange
  | note => exact (Calm.emit rfl).channelChange
  | spawn on tag => exact (calm_spawn w on (by simp [Job.listener?])).channelChange
  | pump => exact ⟨Quiet.streamChange (.silent rfl rfl rfl rfl), .idle (.inr rfl)⟩
  | openGate gate => exact (calm_openGate w gate).channelChange
  | shutdown on => exact (calm_shutdown w on).channelChange
  | run _ popped => exact channelChange_run popped
  | rest =>
    have resumed : Calm w.Referenced w w.resumePolls := calm_resumePolls w
    have rested : Quiet w.Referenced w w.rest := resumed.toQuiet.trans (.silent rfl rfl rfl rfl)
    exact ⟨rested.streamChange, .idle (.inl rfl)⟩

theorem Transition.channelChange {pushed : List Frame} (transition : w.Transition next pushed) :
    w.ChannelChange next := by
  cases transition with
  | internal internal => exact internal.channelChange
  | attach done => exact (routine_attach done).calm.channelChange
  | session done => exact (routine_makeSession done).calm.channelChange
  | share | dropManager | returned => exact Calm.channelChange (.silent rfl rfl rfl rfl rfl)
  | drop done => exact (routine_dropOwner done).calm.channelChange
  | teardown session => exact (routine_teardown w session).calm.channelChange
  | conclude session => exact (routine_conclude w session).calm.channelChange
  | request session config listener on known =>
    exact (routine_sessionRequest w session config on fun _ holds =>
      known.referenced holds).calm.channelChange
  | specifier => exact (routine_sessionSpecifier ..).calm.channelChange
  | managerDisconnect client token =>
    exact ((routine_tokenNamed w token).trans (routine_managerDisconnect ..)).calm.channelChange
  | managerRequest request target known =>
    exact (routine_managerRequest w none target fun _ holds =>
      known.referenced holds).calm.channelChange
  | managerSpecifier => exact (routine_managerSpecifier ..).calm.channelChange

end World

end Proximity
