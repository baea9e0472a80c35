import Proximity.Proofs.Ownership
import Proximity.Proofs.StreamChanges

/-! Nobody sleeps through an event, and nobody is woken for nothing. What has happened tells how it
stands with the latest poll of a channel that was left pending, and in fact it stands so, but for
what the last sender wakes when it goes. This is kept through every move, also in the middle of one,
when senders have been taken from where they were and have not been let go. -/

set_option autoImplicit false

namespace Proximity

namespace Occurrence

def awaits (channel : ChannelRef) : Occurrence → Bool
  | .polled other .pending => other = channel
  | .putOff other => other = channel
  | _ => false

def reaches (channel : ChannelRef) : Occurrence → Bool
  | .invoked _ _ listener _ => listener.holds channel
  | _ => false

/-- How it stands with the latest poll of a channel that was left pending, if nothing but what
happens could wake it. -/
def stirs (channel : ChannelRef) (o : Occurrence) (before : Option Pending) : Option Pending :=
  match o with
  | .polled other .pending => if other = channel then some .waiting else before
  | .putOff other => if other = channel then some .putOff else before
  | .invoked _ _ listener _ =>
    if listener.holds channel && before = some .waiting then some .woken else before
  | _ => before

variable {o : Occurrence} {channel : ChannelRef}

theorem stirs_of_quiet (quiet : o.isHeard = false) (before : Option Pending) :
    o.stirs channel before = before := by
  cases o with
  | invoked | polled | putOff => cases quiet
  | _ => rfl

/-- What happens after a poll that waits wakes it if it calls a sender of the channel. -/
theorem foldr_stirs {later : List Occurrence} (latest : ∀ o ∈ later, o.awaits channel = false) :
    later.foldr (stirs channel) (some .waiting) =
      some (if later.any (reaches channel) then .woken else .waiting) := by
  induction later with
  | nil => rfl
  | cons o rest ih =>
    rw [List.foldr_cons, List.any_cons,
      ih fun other member => latest other (List.mem_cons_of_mem _ member)]
    have other := latest o List.mem_cons_self
    cases o with
    | invoked task running listener event =>
      cases rest.any (reaches channel) <;> cases holds : listener.holds channel <;>
        simp [stirs, reaches, holds]
    | polled polled poll =>
      cases poll with
      | pending =>
        have unlike : polled ≠ channel := by simpa [awaits] using other
        simp [stirs, reaches, unlike]
      | event | ended => simp [stirs, reaches]
    | putOff polled =>
      have unlike : polled ≠ channel := by simpa [awaits] using other
      simp [stirs, reaches, unlike]
    | _ => simp [stirs, reaches]

end Occurrence

/-- How the latest poll of a channel stands that was left pending, by what has happened and in fact.
One that waits has found nothing, and somebody is `kept` who wakes it; one that nobody has called is
woken if nobody is `held` any more. -/
inductive Waits (held kept : Prop) (buffer : List Event) :
    Option Pending → Option Pending → Prop where
  | never : Waits held kept buffer none none
  | asleep (empty : buffer = []) (still : kept) :
      Waits held kept buffer (some .waiting) (some .waiting)
  | deserted (gone : ¬ held) : Waits held kept buffer (some .waiting) (some .woken)
  | called : Waits held kept buffer (some .woken) (some .woken)
  | putOff : Waits held kept buffer (some .putOff) (some .putOff)
  | resumed : Waits held kept buffer (some .putOff) (some .woken)

namespace Waits

variable {held kept : Prop} {buffer : List Event} {expected pending : Option Pending} {c : Channel}

theorem mono (waits : Waits held kept buffer expected pending) {before after : Prop}
    (fewer : before → held) (more : kept → after) : Waits before after buffer expected pending := by
  cases waits with
  | never => exact .never
  | asleep empty still => exact .asleep empty (more still)
  | deserted gone => exact .deserted fun now => gone (fewer now)
  | called => exact .called
  | putOff => exact .putOff
  | resumed => exact .resumed

theorem wake (waits : Waits held kept c.buffer expected c.pending) (gone : ¬ held) {after : Prop} :
    Waits held after c.wake.buffer expected c.wake.pending := by
  obtain ⟨buffer, receiver, pending⟩ := c
  cases waits with
  | never => exact .never
  | asleep => exact .deserted gone
  | deserted => exact .deserted gone
  | called => exact .called
  | putOff => exact .putOff
  | resumed => exact .resumed

theorem resume (waits : Waits held kept c.buffer expected c.pending) :
    Waits held kept c.resume.buffer expected c.resume.pending := by
  obtain ⟨buffer, receiver, pending⟩ := c
  cases waits with
  | never => exact .never
  | asleep empty still => exact .asleep empty still
  | deserted gone => exact .deserted gone
  | called => exact .called
  | putOff => exact .resumed
  | resumed => exact .resumed

/-- A call of a callback wakes the poll that waits, in fact as by what has happened. -/
theorem send (waits : Waits held kept c.buffer expected c.pending) {o : Occurrence}
    {channel : ChannelRef} (event : Event) (reaches : o.reaches channel = true) :
    Waits held kept (c.send event).buffer (o.stirs channel expected) (c.send event).pending := by
  obtain ⟨buffer, receiver, pending⟩ := c
  cases o with
  | invoked task running listener other =>
    have holds : listener.holds channel = true := reaches
    rw [Occurrence.stirs, holds]
    cases waits with
    | never => exact .never
    | asleep | deserted | called => exact .called
    | putOff => exact .putOff
    | resumed => exact .resumed
  | _ => cases reaches

theorem poll (waits : Waits held kept c.buffer expected c.pending) {sendable : Bool}
    (still : sendable = true → kept) (channel : ChannelRef) :
    Waits held kept (c.poll sendable).2.buffer
      ((Occurrence.polled channel (c.poll sendable).1).stirs channel expected)
      (c.poll sendable).2.pending := by
  obtain ⟨buffer, receiver, pending⟩ := c
  cases buffer with
  | nil =>
    cases sendable with
    | true => simpa [Channel.poll, Occurrence.stirs] using Waits.asleep rfl (still rfl)
    | false => exact waits
  | cons event rest =>
    cases waits with
    | never => exact .never
    | asleep empty => cases empty
    | deserted gone => exact .deserted gone
    | called => exact .called
    | putOff => exact .putOff
    | resumed => exact .resumed

end Waits

namespace World

/-- How it stands with the latest poll of a channel that was left pending, by what has happened. -/
def expected (w : World) (channel : ChannelRef) : Option Pending :=
  w.trace.foldr (Occurrence.stirs channel) none

variable {w next : World} {lent due : ChannelRef → Prop} {channel : ChannelRef}

theorem Told.expected {facts : List Occurrence} (told : w.Told Occurrence.isHeard next facts)
    (channel : ChannelRef) :
    next.expected channel = facts.foldr (Occurrence.stirs channel) (w.expected channel) := by
  obtain ⟨happened, trace, rfl⟩ := told
  rw [World.expected, World.expected, trace, List.foldr_append, List.foldr_filter]
  congr 1
  funext o before
  cases heard : o.isHeard with
  | true => simp
  | false => simp [Occurrence.stirs_of_quiet heard]

/-- Every receiver that is there is woken as it has to be. In the middle of a move senders may be
`lent` to it, and may be `due` to be let go. -/
structure Vigil (lent due : ChannelRef → Prop) (w : World) : Prop where
  names : (w.senders.map (·.1)).Nodup
  unmade : ∀ channel, w.channels.length ≤ channel → w.expected channel = none
  waits : ∀ channel c, w.channels[channel]? = some c → c.receiver = true →
    Waits (w.Referenced channel ∨ lent channel) (w.Referenced channel ∨ due channel) c.buffer
      (w.expected channel) c.pending

/-- Between moves nothing is lent and nothing is due. -/
def Vigilant (w : World) : Prop := w.Vigil (fun _ => False) (fun _ => False)

theorem vigilant_initial (manager : ManagerKind) (service : Service) :
    (World.initial manager service).Vigilant := by
  constructor <;> simp [World.initial, World.expected]

namespace Vigil

theorem transfer (vigil : w.Vigil lent due) {lent' due' : ChannelRef → Prop}
    (channels : next.channels = w.channels) (names : (next.senders.map (·.1)).Nodup)
    (expected : ∀ channel, next.expected channel = w.expected channel)
    (held : ∀ channel, next.Referenced channel ∨ lent' channel →
      w.Referenced channel ∨ lent channel)
    (kept : ∀ channel, w.Referenced channel ∨ due channel →
      next.Referenced channel ∨ due' channel) : next.Vigil lent' due' := by
  constructor
  · exact names
  · intro channel beyond
    rw [channels] at beyond
    rw [expected]
    exact vigil.unmade channel beyond
  · intro channel c found there
    rw [channels] at found
    rw [expected]
    exact (vigil.waits channel c found there).mono (held channel) (kept channel)

theorem silent (vigil : w.Vigil lent due) (channels : next.channels = w.channels)
    (senders : next.senders = w.senders) (dispatch : next.dispatch = w.dispatch)
    (told : w.Told Occurrence.isHeard next []) : next.Vigil lent due := by
  have referenced := referenced_congr senders dispatch
  exact vigil.transfer channels (senders ▸ vigil.names) told.expected
    (fun channel => Or.imp_left (referenced channel).1)
    fun channel => Or.imp_left (referenced channel).2

theorem changed (vigil : w.Vigil lent due) {due' : ChannelRef → Prop} {change : Channel → Channel}
    (channels : next.channels = w.channels.modify channel change)
    (senders : next.senders = w.senders) (dispatch : next.dispatch = w.dispatch)
    (rest : ∀ other, due other → other = channel ∨ due' other)
    (elsewhere : ∀ other, channel ≠ other → next.expected other = w.expected other)
    (unmade : w.channels.length ≤ channel → next.expected channel = none)
    (own : ∀ c, w.channels[channel]? = some c → (change c).receiver = true →
      Waits (w.Referenced channel ∨ lent channel) (w.Referenced channel ∨ due' channel)
        (change c).buffer (next.expected channel) (change c).pending) :
    next.Vigil lent due' := by
  constructor
  · exact senders ▸ vigil.names
  · intro other beyond
    rw [channels, List.length_modify] at beyond
    by_cases mine : channel = other
    · exact mine ▸ unmade (mine ▸ beyond)
    · rw [elsewhere other mine]
      exact vigil.unmade other beyond
  · intro other c found there
    rw [referenced_congr senders dispatch]
    by_cases mine : channel = other
    · subst mine
      rw [channels, List.getElem?_modify_eq] at found
      obtain ⟨before, old, rfl⟩ := Option.map_eq_some_iff.1 found
      exact own before old there
    · rw [channels, List.getElem?_modify_ne _ _ mine] at found
      rw [elsewhere other mine]
      refine (vigil.waits other c found there).mono id fun kept => ?_
      exact kept.imp_right fun due => (rest other due).resolve_left (Ne.symm mine)

/-- A sender is let go. Whoever waits is woken if it was the last one. -/
theorem releaseChannel (vigil : w.Vigil (fun _ => False) due) {due' : ChannelRef → Prop}
    (rest : ∀ other, due other → other = channel ∨ due' other) :
    (w.releaseChannel channel).Vigil (fun _ => False) due' := by
  unfold World.releaseChannel
  split
  · rename_i sendable
    refine vigil.transfer rfl vigil.names (fun _ => rfl) (fun _ => id) fun other kept => ?_
    rcases kept with referenced | kept
    · exact .inl referenced
    · rcases rest other kept with rfl | kept
      · exact .inl ((isSendable_iff w other).1 sendable)
      · exact .inr kept
  · rename_i gone
    have quiet (other : ChannelRef) : ((w.updateChannel channel Channel.wake).emit
        (.abandoned channel)).expected other = w.expected other := rfl
    refine vigil.changed rfl rfl rfl rest (fun other _ => quiet other)
      (fun beyond => (quiet channel).trans (vigil.unmade channel beyond)) fun c found there => ?_
    rw [quiet]
    have alive : c.receiver = true := by
      unfold Channel.wake at there
      split at there <;> exact there
    refine (vigil.waits channel c found alive).wake fun held => gone ?_
    exact (isSendable_iff w channel).2 (held.resolve_right id)

theorem releaseListener (vigil : w.Vigil (fun _ => False) due) {due' : ChannelRef → Prop}
    {listener : Listener} (rest : ∀ other, due other → listener.holds other = true ∨ due' other) :
    (w.releaseListener listener).Vigil (fun _ => False) due' := by
  cases listener with
  | silent | record =>
    refine vigil.transfer rfl vigil.names (fun _ => rfl) (fun _ => id) fun other => ?_
    exact Or.imp_right fun due => (rest other due).resolve_left (by simp [Callback.holds])
  | channel sender =>
    refine vigil.releaseChannel fun other due => (rest other due).imp_left fun holds => ?_
    simpa [Callback.holds, eq_comm] using holds

theorem discard (vigil : w.Vigil (fun _ => False) due) {due' : ChannelRef → Prop} {task : Task}
    (rest : ∀ other, due other → task.holds other = true ∨ due' other) :
    (w.discard task).Vigil (fun _ => False) due' := by
  have noted : (w.emit (.discarded task.id)).Vigil (fun _ => False) due :=
    vigil.silent rfl rfl rfl ((Told.refl w _).skip rfl)
  unfold World.discard
  simp only
  split
  · rename_i listener carries
    refine noted.releaseListener fun other due => (rest other due).imp_left fun holds => ?_
    rwa [holds_of_listener carries] at holds
  · rename_i carries
    refine noted.transfer rfl noted.names (fun _ => rfl) (fun _ => id) fun other => ?_
    exact Or.imp_right fun due => (rest other due).resolve_left (by simp [Task.holds, carries])

theorem discards (tasks : List Task)
    (vigil : w.Vigil (fun _ => False) fun other => ∃ task ∈ tasks, task.holds other = true) :
    (tasks.foldl World.discard w).Vigilant := by
  induction tasks generalizing w with
  | nil => exact vigil.transfer rfl vigil.names (fun _ => rfl) (fun _ => id) (by simp)
  | cons task rest ih =>
    refine ih (vigil.discard ?_)
    rintro other ⟨dropped, member, holds⟩
    rcases List.mem_cons.1 member with rfl | later
    · exact .inl holds
    · exact .inr ⟨dropped, later, holds⟩

theorem resumePolls (vigil : w.Vigil lent due) : w.resumePolls.Vigil lent due := by
  constructor
  · exact vigil.names
  · intro channel beyond
    exact vigil.unmade channel (by simpa [World.resumePolls] using beyond)
  · intro channel c found there
    simp only [World.resumePolls, List.getElem?_map, Option.map_eq_some_iff] at found
    obtain ⟨before, old, rfl⟩ := found
    have alive : before.receiver = true := by
      unfold Channel.resume at there
      split at there <;> exact there
    exact (vigil.waits channel before old alive).resume

theorem beginTask (vigil : w.Vigil lent due) (task : Task) : (w.beginTask task).Vigil lent due := by
  unfold World.beginTask
  simp only
  split
  · exact vigil.resumePolls.silent rfl rfl rfl ((Told.refl w _).of_trace rfl)
  · exact vigil.silent rfl rfl rfl ((Told.refl w _).of_trace rfl)

end Vigil

/-! ### Calls of callbacks -/

theorem channels_sendEvent (w : World) (channel : ChannelRef) (event : Event) :
    (w.sendEvent channel event).channels =
      w.channels.modify channel fun c => if c.receiver then c.send event else c := by
  apply List.ext_getElem?
  intro i
  rw [List.getElem?_modify]
  unfold sendEvent
  split
  · rename_i c found
    split
    · rename_i there
      simp only [updateChannel, List.getElem?_modify]
      split
      · rename_i own
        subst own
        simp [found, there]
      · rfl
    · rename_i gone
      split
      · rename_i own
        subst own
        simp [log, emit, found, gone]
      · simp [log, emit]
  · rename_i missing
    split
    · rename_i own
      subst own
      simp [missing]
    · simp

theorem invoke_channel (w : World) (task : Option TaskRef) (sender : Sender) (event : Event) :
    (w.invoke task (.channel sender) event).1.senders = w.senders ∧
      (w.invoke task (.channel sender) event).1.dispatch = w.dispatch ∧
      w.Told Occurrence.isHeard (w.invoke task (.channel sender) event).1
        [.invoked task w.running (.channel sender) event] := by
  simp only [invoke, sendEvent]
  split
  · split
    · exact ⟨rfl, rfl, [_], rfl, rfl⟩
    · exact ⟨rfl, rfl, [_, _], rfl, rfl⟩
  · exact ⟨rfl, rfl, [_], rfl, rfl⟩

namespace Vigil

theorem invoke (vigil : w.Vigil lent due) (task : Option TaskRef) (listener : Listener)
    (event : Event) : (w.invoke task listener event).1.Vigil lent due := by
  cases listener with
  | silent | record =>
    exact vigil.transfer rfl vigil.names (fun _ => rfl) (fun _ => id) fun _ => id
  | channel sender =>
    obtain ⟨senders, dispatch, told⟩ := invoke_channel w task sender event
    have stirred (other : ChannelRef) := told.expected other
    refine vigil.changed (channels_sendEvent (w.emit _) sender.channel event) senders dispatch
      (fun _ => .inr) (fun other unlike => ?_) (fun beyond => ?_) fun c found there => ?_
    · rw [stirred]
      simp [Occurrence.stirs, Callback.holds, unlike]
    · rw [stirred, vigil.unmade _ beyond]
      simp [Occurrence.stirs]
    · have alive : c.receiver = true := by
        cases gone : c.receiver with
        | true => rfl
        | false => simp [gone] at there
      rw [stirred, if_pos alive]
      exact (vigil.waits _ c found alive).send event (by simp [Occurrence.reaches, Callback.holds])

theorem conveyOutcome {listener : Listener}
    (vigil : w.Vigil (listener.holds · = true) (listener.holds · = true)) (task : Task)
    (event : Event) : (w.conveyOutcome task listener event).1.Vigilant := by
  have called := vigil.invoke (some task.id) listener event
  have unlent : (w.invoke (some task.id) listener event).1.Vigil (fun _ => False)
      (listener.holds · = true) :=
    called.transfer rfl called.names (fun _ => rfl) (fun _ => Or.imp_right False.elim) fun _ => id
  exact unlent.releaseListener fun _ => .inl

theorem answerStart {request : Request}
    (vigil : w.Vigil (request.listener.holds · = true) (request.listener.holds · = true))
    (task : Task) (verdict : Verdict) : (w.answerStart task request verdict).1.Vigilant := by
  have answered (service : Service) (result : Except Error (Option SessionId)) (notice : Notice) :
      ((({ w with service } : World).emit (.answered task.id result)).log notice).Vigil
        (request.listener.holds · = true) (request.listener.holds · = true) :=
    vigil.silent rfl rfl rfl (((Told.refl w _).skip rfl).skip rfl)
  unfold World.answerStart
  simp only
  split
  · exact (answered _ _ _).conveyOutcome ..
  · exact (answered _ _ _).conveyOutcome ..

theorem suspend {task : Task} (vigil : w.Vigil (task.holds · = true) (task.holds · = true))
    (gate : Name) (target : Target) (verdict : Verdict) :
    (w.suspend gate target task verdict).Vigilant := by
  exact vigil.transfer rfl vigil.names (fun _ => rfl)
    (fun channel held => (referenced_suspend ..).1 (held.resolve_right id))
    fun channel kept => .inl ((referenced_suspend ..).2 kept)

theorem carried {task : Task} (vigil : w.Vigil (task.holds · = true) (task.holds · = true))
    {listener : Listener} (carries : task.job.listener? = some listener) :
    w.Vigil (listener.holds · = true) (listener.holds · = true) := by
  refine vigil.transfer rfl vigil.names (fun _ => rfl) (fun channel => ?_) fun channel => ?_
  all_goals
    rw [holds_of_listener carries]
    exact id

theorem free {task : Task} (vigil : w.Vigil (task.holds · = true) (task.holds · = true))
    (carries : task.job.listener? = none) : w.Vigilant := by
  refine vigil.transfer rfl vigil.names (fun _ => rfl) (fun _ => Or.imp_right False.elim) ?_
  simp [Task.holds, carries]

theorem answerDetach (vigil : w.Vigil lent due) (task : Task) (client : ClientId)
    (verdict : Verdict) : (w.answerDetach task client verdict).Vigil lent due := by
  unfold World.answerDetach
  simp only
  split
  · exact vigil.silent rfl rfl rfl (((Told.refl w _).skip rfl).skip rfl)
  · exact vigil.silent rfl rfl rfl (((Told.refl w _).skip rfl).skip rfl)

theorem runTask {task : Task} (vigil : w.Vigil (task.holds · = true) (task.holds · = true))
    (target : Target) : (w.runTask target task).1.Vigilant := by
  have called (call : Call) (service : Service) : ({ w.call call with service } : World).Vigil
      (task.holds · = true) (task.holds · = true) :=
    vigil.silent rfl rfl rfl ((Told.refl w _).skip rfl)
  unfold World.runTask
  split
  · rename_i request job _
    unfold World.startCall
    simp only
    split
    · exact (called _ _).suspend ..
    · exact ((called _ _).carried (by rw [job]; rfl)).answerStart ..
  · rename_i request verdict job _
    exact (vigil.carried (by rw [job]; rfl)).answerStart ..
  · rename_i client job _
    unfold World.detachCall
    simp only
    split
    · exact (called _ _).suspend ..
    · exact ((called _ _).free (by rw [job]; rfl)).answerDetach ..
  · rename_i client verdict job _
    exact (vigil.free (by rw [job]; rfl)).answerDetach ..
  · rename_i listener job
    exact (vigil.carried (by rw [job]; rfl)).conveyOutcome ..
  · rename_i started listener job
    exact (vigil.carried (by rw [job]; rfl)).conveyOutcome ..
  · rename_i tag job
    exact (vigil.free (by rw [job]; rfl)).silent rfl rfl rfl ((Told.refl w _).skip rfl)

end Vigil

namespace Vigilant

theorem run {target : Target} {task : Task} {queue : Queue}
    (popped : (w.dispatch.queue target).pop? = some (task, queue)) (vigil : w.Vigilant) :
    ((({ w with dispatch := w.dispatch.setQueue target queue } : World).beginTask task).runTask
      target task).1.Vigilant := by
  have taken : ({ w with dispatch := w.dispatch.setQueue target queue } : World).Vigil
      (task.holds · = true) (task.holds · = true) := by
    exact vigil.transfer rfl vigil.names (fun _ => rfl)
      (fun channel held => .inl ((referenced_pop popped).2 held))
      fun channel kept => (referenced_pop popped).1 (kept.resolve_right id)
  exact (taken.beginTask task).runTask target

theorem spawn (vigil : w.Vigilant) (target : Target) {job : Job}
    (known : ∀ listener channel, job.listener? = some listener →
      listener.holds channel = true → w.Referenced channel) : (w.spawn target job).Vigilant := by
  have counted : ({ w with tasksMade := w.tasksMade + 1 } : World).Vigilant :=
    vigil.silent rfl rfl rfl ((Told.refl w _).of_trace rfl)
  unfold World.spawn
  simp only
  split
  · exact counted.discard fun _ => .inr
  · refine counted.transfer rfl counted.names (fun _ => rfl) (fun channel held => .inl ?_)
      fun channel kept => .inl ((referenced_push w ..).2 (.inl (kept.resolve_right id)))
    rcases (referenced_push w ..).1 (held.resolve_right id) with old | holds
    · exact old
    · obtain ⟨listener, carries, holds⟩ := exists_listener_of_holds holds
      exact known listener channel carries holds

end Vigilant

theorem senders_releaseListener (w : World) (listener : Listener) :
    (w.releaseListener listener).senders = w.senders := by
  cases listener with
  | silent | record => rfl
  | channel sender =>
    simp only [releaseListener, releaseChannel]
    split <;> rfl

theorem senders_spawn (w : World) (target : Target) (job : Job) :
    (w.spawn target job).senders = w.senders := by
  unfold spawn
  simp only
  split
  · unfold discard
    simp only
    split
    · exact senders_releaseListener ..
    · rfl
  · rfl

/-- In calls nobody lets go of what is lent, for it has a name. -/
theorem Routine.vigilant (routine : Routine lent w next)
    (named : ∀ channel, lent channel → ∃ entry ∈ w.senders, entry.2.channel = channel)
    (vigil : w.Vigilant) : next.Vigilant ∧ next.senders = w.senders := by
  induction routine with
  | refl => exact ⟨vigil, rfl⟩
  | noting _ other ih =>
    exact ⟨ih.1.silent rfl rfl rfl ((Told.refl _ _).skip other), ih.2⟩
  | changing _ channels senders dispatch trace pace ih =>
    exact ⟨ih.1.silent channels senders dispatch ((Told.refl _ _).of_trace trace),
      senders.trans ih.2⟩
  | spawning _ target holds ih =>
    refine ⟨ih.1.spawn target fun listener channel carries held => .inl ?_,
      (senders_spawn ..).trans ih.2⟩
    rw [ih.2]
    exact named channel (holds listener channel carries held)
  | releasing _ listener ih =>
    exact ⟨ih.1.releaseListener fun _ => .inr, (senders_releaseListener ..).trans ih.2⟩

namespace Vigilant

theorem makeChannel {as : Name} {effect : Effect} (done : w.makeChannel as = some effect)
    (vigil : w.Vigilant) : effect.world.Vigilant := by
  have referenced := referenced_makeChannel done
  unfold World.makeChannel at done
  split at done <;> cases done
  rename_i free
  have free : isTaken as w.senders = false := by
    cases taken : isTaken as w.senders <;> simp_all
  constructor
  · exact nodup_concat vigil.names free
  · intro channel beyond
    have length : w.channels.length ≤ channel := by
      rw [List.length_append] at beyond
      omega
    exact vigil.unmade channel length
  · intro channel c found there
    rw [List.getElem?_append] at found
    split at found
    · rename_i made
      have older : w.channels.length ≠ channel := fun same => absurd made (same ▸ Nat.lt_irrefl _)
      rw [referenced channel, or_iff_left older]
      exact vigil.waits channel c found there
    · rename_i new
      rw [List.getElem?_singleton] at found
      split at found <;> cases found
      change Waits _ _ _ (w.expected channel) none
      rw [vigil.unmade channel (Nat.not_lt.1 new)]
      exact .never

theorem cloneSender {sender as : Name} {effect : Effect}
    (done : w.cloneSender sender as = some effect) (vigil : w.Vigilant) :
    effect.world.Vigilant := by
  have referenced := referenced_cloneSender done
  simp only [World.cloneSender, Option.bind_eq_bind, Option.bind_eq_some_iff] at done
  obtain ⟨copied, known, done⟩ := done
  split at done <;> cases done
  rename_i free
  exact vigil.transfer rfl (nodup_concat vigil.names (Bool.eq_false_iff.2 free)) (fun _ => rfl)
    (fun channel => Or.imp_left (referenced channel).1)
    fun channel => Or.imp_left (referenced channel).2

theorem dropSender {sender : Name} {effect : Effect} (done : w.dropSender sender = some effect)
    (vigil : w.Vigilant) : effect.world.Vigilant := by
  simp only [World.dropSender, Option.bind_eq_bind, Option.bind_eq_some_iff] at done
  obtain ⟨dropped, found, done⟩ := done
  cases done
  have named : ((withoutName sender w.senders).map (·.1)).Nodup :=
    vigil.names.sublist (List.filter_sublist.map _)
  have unnamed : ({ w with senders := withoutName sender w.senders } : World).Vigil
      (fun _ => False) (· = dropped.channel) := by
    refine vigil.transfer rfl named (fun _ => rfl)
      (fun channel => Or.imp_left fun held => (referenced_withoutName w sender).2 (.inl held))
      fun channel kept => ?_
    refine ((referenced_withoutName w sender).1 (kept.resolve_right id)).imp_right ?_
    rintro ⟨other, member, own⟩
    -- No other sender goes by that name.
    have same : (sender, other) = (sender, dropped) :=
      List.inj_on_of_nodup_map vigil.names member (mem_of_lookup found) rfl
    rw [← own, (Prod.mk.inj same).2]
  exact unnamed.releaseChannel fun _ => .inl

theorem dropReceiver {receiver : Name} {effect : Effect}
    (done : w.dropReceiver receiver = some effect) (vigil : w.Vigilant) :
    effect.world.Vigilant := by
  simp only [World.dropReceiver, Option.bind_eq_bind, Option.bind_eq_some_iff] at done
  obtain ⟨⟨channel, c⟩, _, done⟩ := done
  cases done
  exact vigil.changed rfl rfl rfl (fun _ => False.elim) (fun _ _ => rfl) (vigil.unmade channel)
    fun _ _ there => by cases there

theorem pollChannel {receiver : Name} {effect : Effect}
    (done : w.pollChannel receiver = some effect) (vigil : w.Vigilant) :
    effect.world.Vigilant := by
  simp only [World.pollChannel, Option.bind_eq_bind, Option.bind_eq_some_iff] at done
  obtain ⟨⟨channel, c⟩, receiving, done⟩ := done
  obtain ⟨_, found, there⟩ := receiving?_eq receiving
  have made : ¬ w.channels.length ≤ channel := Nat.not_le.2 (List.getElem?_eq_some_iff.1 found).1
  split at done
  · cases done
    have stirred (other : ChannelRef) : ((w.updateChannel channel Channel.putOff).emit
        (.putOff channel)).expected other =
          if channel = other then some .putOff else w.expected other := rfl
    refine vigil.changed rfl rfl rfl (fun _ => False.elim) (fun other unlike => ?_)
      (fun beyond => absurd beyond made) fun _ _ _ => ?_
    · rw [stirred, if_neg unlike]
    · rw [stirred, if_pos rfl]
      exact .putOff
  · cases done
    rw [spend_eq]
    refine vigil.changed rfl rfl rfl (fun _ => False.elim) (fun other unlike => ?_)
      (fun beyond => absurd beyond made) fun other same _ => ?_
    · change (Occurrence.polled channel _).stirs other (w.expected other) = _
      cases (c.poll (w.isSendable channel)).1 <;> simp [Occurrence.stirs, unlike]
    · obtain rfl : c = other := Option.some.inj (found.symm.trans same)
      exact (vigil.waits channel c found there).poll
        (fun sendable => .inl ((isSendable_iff w channel).1 sendable)) channel

theorem openGate (vigil : w.Vigilant) (gate : Name) : (w.openGate gate).world.Vigilant := by
  exact vigil.transfer rfl vigil.names (fun _ => rfl)
    (fun channel => Or.imp_left (referenced_openGate w gate).1)
    fun channel => Or.imp_left (referenced_openGate w gate).2

theorem shutdown (vigil : w.Vigilant) (target : Target) : (w.shutdown target).Vigilant := by
  have emptied : ({ w with dispatch := (w.dispatch.shutdown target).2 } : World).Vigil
      (fun _ => False) fun channel =>
        ∃ task ∈ (w.dispatch.shutdown target).1, task.holds channel = true := by
    exact vigil.transfer rfl vigil.names (fun _ => rfl)
      (fun channel => Or.imp_left fun held => (referenced_shutdown w target).2 (.inl held))
      fun channel kept => (referenced_shutdown w target).1 (kept.resolve_right id)
  exact emptied.discards

theorem internal {pushed : List Frame} (internal : w.InternalTransition next pushed)
    (vigil : w.Vigilant) :
    next.Vigilant := by
  cases internal with
  | nothing | race => exact vigil
  | makeChannel done => exact vigil.makeChannel done
  | cloneSender done => exact vigil.cloneSender done
  | dropSender done => exact vigil.dropSender done
  | dropReceiver done => exact vigil.dropReceiver done
  | poll done => exact vigil.pollChannel done
  | send listener event => exact vigil.invoke none listener event
  | note => exact vigil.silent rfl rfl rfl ((Told.refl w _).skip rfl)
  | spawn on tag => exact vigil.spawn on (by simp [Job.listener?])
  | pump => exact vigil.silent rfl rfl rfl ((Told.refl w _).of_trace rfl)
  | openGate gate => exact vigil.openGate gate
  | shutdown on => exact vigil.shutdown on
  | run _ popped => exact vigil.run popped
  | rest => exact vigil.resumePolls.silent rfl rfl rfl ((Told.refl w _).of_trace rfl)

theorem transition {pushed : List Frame} (transition : w.Transition next pushed)
    (vigil : w.Vigilant) :
    next.Vigilant := by
  have unlent {last : World} (routine : Routine (fun _ => False) w last) : last.Vigilant :=
    (routine.vigilant (fun _ => False.elim) vigil).1
  cases transition with
  | internal internal => exact vigil.internal internal
  | attach done => exact unlent (routine_attach done)
  | session done => exact unlent (routine_makeSession done)
  | share | dropManager | returned => exact unlent (.silent rfl rfl rfl rfl rfl)
  | drop done => exact unlent (routine_dropOwner done)
  | teardown session => exact unlent (routine_teardown w session)
  | conclude session => exact unlent (routine_conclude w session)
  | request session config listener on known =>
    exact ((routine_sessionRequest w session config on fun _ => id).vigilant
      (fun _ => known.named) vigil).1
  | specifier => exact unlent (routine_sessionSpecifier ..)
  | managerDisconnect client token =>
    exact unlent ((routine_tokenNamed w token).trans (routine_managerDisconnect ..))
  | managerRequest request target known =>
    exact ((routine_managerRequest w none target fun _ => id).vigilant
      (fun _ => known.named) vigil).1
  | managerSpecifier => exact unlent (routine_managerSpecifier ..)

end Vigilant

end World

end Proximity
