import Proximity.Proofs.Routine

/-! What stays calm in the streams of events. Most moves change no stream, bring no sender to
anybody and cost the task that is being run no poll, whatever they do to polls that wait. A move
with a callback may leave it to a task, so the channels that the callback sends to are lent to the
move. -/

set_option autoImplicit false

namespace Proximity

/-- A channel without the poll that waits: what its receiver has not taken, and whether the receiver
is there. -/
structure Stream where
  buffer : List Event := []
  receiver : Bool := true

namespace Stream

def send (event : Event) (s : Stream) : Stream :=
  if s.receiver then { s with buffer := s.buffer ++ [event] } else s

def close (_ : Stream) : Stream := { receiver := false }

end Stream

namespace Channel

def stream (c : Channel) : Stream := { buffer := c.buffer, receiver := c.receiver }

@[simp] theorem stream_wake (c : Channel) : c.wake.stream = c.stream := by
  unfold wake
  split <;> rfl

@[simp] theorem stream_send (c : Channel) (event : Event) :
    (c.send event).stream = { c.stream with buffer := c.buffer ++ [event] } := by
  rw [send, stream_wake]
  rfl

@[simp] theorem stream_putOff (c : Channel) : c.putOff.stream = c.stream := rfl

@[simp] theorem stream_resume (c : Channel) : c.resume.stream = c.stream := by
  unfold resume
  split <;> rfl

@[simp] theorem stream_close (c : Channel) : c.close.stream = c.stream.close := rfl

end Channel

def Occurrence.isSignal : Occurrence → Bool
  | .invoked .. | .polled .. => true
  | _ => false

theorem Occurrence.isSignal_of_isHeard {o : Occurrence} (other : o.isHeard = false) :
    o.isSignal = false := by
  cases o with
  | invoked | polled => cases other
  | _ => rfl

namespace World

def streams (w : World) : List Stream := w.channels.map Channel.stream

/-- Whether anybody can send to a channel: under a name, or as a task that has not ended. -/
def Referenced (w : World) (channel : ChannelRef) : Prop :=
  (∃ entry ∈ w.senders, entry.2.channel = channel) ∨
    ∃ p ∈ w.dispatch.places, p.task.holds channel = true

section Referenced

variable {w next : World} {channel : ChannelRef}

theorem referenced_congr (senders : next.senders = w.senders)
    (dispatch : next.dispatch = w.dispatch)
    (channel : ChannelRef) : next.Referenced channel ↔ w.Referenced channel := by
  rw [Referenced, Referenced, senders, dispatch]

theorem referenced_concat (entry : Name × Sender)
    (senders : next.senders = w.senders ++ [entry]) (dispatch : next.dispatch = w.dispatch) :
    next.Referenced channel ↔ w.Referenced channel ∨ entry.2.channel = channel := by
  simp only [Referenced, senders, dispatch, List.mem_append, List.mem_singleton, or_and_right,
    exists_or, exists_eq_left]
  rw [or_right_comm]

theorem referenced_withoutName (w : World) (name : Name) :
    w.Referenced channel ↔
      ({ w with senders := withoutName name w.senders } : World).Referenced channel ∨
        ∃ sender, (name, sender) ∈ w.senders ∧ sender.channel = channel := by
  have names : (∃ entry ∈ w.senders, entry.2.channel = channel) ↔
      (∃ entry ∈ withoutName name w.senders, entry.2.channel = channel) ∨
        ∃ sender, (name, sender) ∈ w.senders ∧ sender.channel = channel := by
    constructor
    · rintro ⟨⟨other, sender⟩, member, own⟩
      by_cases same : other = name
      · exact .inr ⟨sender, same ▸ member, own⟩
      · exact .inl ⟨_, List.mem_filter.2 ⟨member, by simpa using same⟩, own⟩
    · rintro (⟨entry, member, own⟩ | ⟨sender, member, own⟩)
      · exact ⟨entry, List.mem_of_mem_filter member, own⟩
      · exact ⟨_, member, own⟩
  unfold Referenced
  rw [names, or_right_comm]

theorem referenced_cons (w next : World) {target : Target} {gate : Option Name} {task : Task}
    (senders : next.senders = w.senders)
    (places : next.dispatch.places.Perm (⟨target, gate, task⟩ :: w.dispatch.places)) :
    next.Referenced channel ↔ w.Referenced channel ∨ task.holds channel = true := by
  simp only [Referenced, senders, places.mem_iff, List.mem_cons, exists_eq_or_imp]
  rw [or_assoc, or_comm (a := task.holds channel = true)]

theorem referenced_push (w : World) (made : Nat) (target : Target) (task : Task) :
    ({ w with
        tasksMade := made
        dispatch := w.dispatch.push w.running target task } : World).Referenced channel ↔
      w.Referenced channel ∨ task.holds channel = true :=
  referenced_cons w _ rfl (w.dispatch.places_push ..)

theorem referenced_pop {target : Target} {task : Task} {queue : Queue}
    (popped : (w.dispatch.queue target).pop? = some (task, queue)) :
    w.Referenced channel ↔
      ({ w with dispatch := w.dispatch.setQueue target queue } : World).Referenced channel ∨
        task.holds channel = true :=
  referenced_cons _ w rfl (Dispatch.places_pop popped)

theorem referenced_suspend (w : World) (gate : Name) (target : Target) (task : Task)
    (verdict : Verdict) : (w.suspend gate target task verdict).Referenced channel ↔
      w.Referenced channel ∨ task.holds channel = true := by
  let waiting : Task := { task with verdict := some verdict }
  change _ ↔ _ ∨ waiting.holds channel = true
  exact referenced_cons w _ rfl (w.dispatch.places_suspend ⟨gate, target, waiting⟩)

theorem referenced_openGate (w : World) (gate : Name) :
    (w.openGate gate).world.Referenced channel ↔ w.Referenced channel := by
  have woken (p : Place) : (p.wake gate).task.holds channel = p.task.holds channel := by
    unfold Place.wake
    split <;> rfl
  have places := w.dispatch.places_release w.running gate
  refine or_congr_right ⟨?_, ?_⟩
  · rintro ⟨_, member, held⟩
    obtain ⟨p, old, rfl⟩ := List.mem_map.1 (places.mem_iff.1 member)
    exact ⟨p, old, (woken p).symm.trans held⟩
  · rintro ⟨p, old, held⟩
    exact ⟨p.wake gate, places.mem_iff.2 (List.mem_map_of_mem old), (woken p).trans held⟩

theorem referenced_shutdown (w : World) (target : Target) :
    w.Referenced channel ↔
      ({ w with dispatch := (w.dispatch.shutdown target).2 } : World).Referenced channel ∨
        ∃ task ∈ (w.dispatch.shutdown target).1, task.holds channel = true := by
  obtain ⟨left, dropped⟩ := w.dispatch.places_shutdown target
  unfold Referenced
  rw [left, dropped, or_assoc]
  refine or_congr_right ⟨?_, ?_⟩
  · rintro ⟨p, member, held⟩
    by_cases own : p.target = target
    · exact .inr ⟨_, List.mem_map_of_mem (List.mem_filter.2 ⟨member, by simpa using own⟩), held⟩
    · exact .inl ⟨p, List.mem_filter.2 ⟨member, by simpa using own⟩, held⟩
  · rintro (⟨p, member, held⟩ | ⟨_, member, held⟩)
    · exact ⟨p, List.mem_of_mem_filter member, held⟩
    · obtain ⟨p, old, rfl⟩ := List.mem_map.1 member
      exact ⟨p, List.mem_of_mem_filter old, held⟩

end Referenced

theorem tasks_eq_places (d : Dispatch) : d.tasks = d.places.map (·.task) := by
  simp [Dispatch.tasks, Dispatch.places, Queue.map_places, Waiting.place, Function.comp_def]

theorem isSendable_iff (w : World) (channel : ChannelRef) :
    w.isSendable channel = true ↔ w.Referenced channel := by
  simp [isSendable, Referenced, tasks_eq_places]

theorem mem_of_lookup {α : Type} {name : Name} {value : α} {entries : List (Name × α)}
    (found : entries.lookup name = some value) : (name, value) ∈ entries := by
  obtain ⟨before, after, split, _⟩ := List.lookup_eq_some_iff.1 found
  simp [split]

theorem Knows.named {w : World} {listener : Listener} (known : w.Knows listener)
    {channel : ChannelRef} (holds : listener.holds channel = true) :
    ∃ entry ∈ w.senders, entry.2.channel = channel := by
  obtain ⟨callback, found⟩ := known
  cases callback with
  | silent | record =>
    cases found
    cases holds
  | channel name =>
    simp only [listener?, Option.map_eq_some_iff] at found
    obtain ⟨sender, looked, rfl⟩ := found
    exact ⟨_, mem_of_lookup looked, by simpa [Callback.holds] using holds⟩

theorem Knows.referenced {w : World} {listener : Listener} (known : w.Knows listener)
    {channel : ChannelRef} (holds : listener.holds channel = true) : w.Referenced channel :=
  .inl (known.named holds)

theorem streams_updateChannel {w : World} {channel : ChannelRef} {change : Channel → Channel}
    {same : Stream → Stream}
    (agrees : ∀ c, w.channels[channel]? = some c → (change c).stream = same c.stream) :
    (w.updateChannel channel change).streams = w.streams.modify channel same := by
  apply List.ext_getElem?
  intro i
  simp only [streams, updateChannel, List.getElem?_map, List.getElem?_modify]
  by_cases own : channel = i
  · subst own
    cases found : w.channels[channel]? with
    | none => simp
    | some c => simp [agrees c found]
  · simp [own]

theorem streams_updateChannel_id {w : World} {channel : ChannelRef} {change : Channel → Channel}
    (agrees : ∀ c, (change c).stream = c.stream) :
    (w.updateChannel channel change).streams = w.streams := by
  have same : (w.updateChannel channel change).streams = w.streams.modify channel id :=
    streams_updateChannel fun c _ => agrees c
  rw [same, List.modify_id]

/-! ### Calm changes -/

/-- No stream changes, and senders are held only for channels that they were held for, or that are
`lent`. -/
structure Quiet (lent : ChannelRef → Prop) (w next : World) : Prop where
  streams : next.streams = w.streams
  told : w.Told Occurrence.isSignal next []
  referenced : ∀ channel, next.Referenced channel → w.Referenced channel ∨ lent channel

structure Calm (lent : ChannelRef → Prop) (w next : World) : Prop extends Quiet lent w next where
  pace : next.pace = w.pace

variable {lent : ChannelRef → Prop} {w next last : World}

namespace Quiet

theorem trans (first : Quiet lent w next) (second : Quiet lent next last) : Quiet lent w last :=
  ⟨second.streams.trans first.streams, first.told.trans second.told, fun channel held =>
    (second.referenced channel held).elim (first.referenced channel) .inr⟩

theorem silent (channels : next.channels = w.channels) (senders : next.senders = w.senders)
    (dispatch : next.dispatch = w.dispatch) (trace : next.trace = w.trace) : Quiet lent w next := by
  refine ⟨by rw [World.streams, channels]; rfl, (Told.refl w _).of_trace trace, ?_⟩
  exact fun channel held => .inl ((referenced_congr senders dispatch channel).1 held)

end Quiet

namespace Calm

theorem refl (w : World) : Calm lent w w := ⟨⟨rfl, .refl w _, fun _ => .inl⟩, rfl⟩

theorem trans (first : Calm lent w next) (second : Calm lent next last) : Calm lent w last :=
  ⟨first.toQuiet.trans second.toQuiet, second.pace.trans first.pace⟩

theorem silent (channels : next.channels = w.channels) (senders : next.senders = w.senders)
    (dispatch : next.dispatch = w.dispatch) (trace : next.trace = w.trace)
    (pace : next.pace = w.pace) : Calm lent w next :=
  ⟨.silent channels senders dispatch trace, pace⟩

theorem emit {o : Occurrence} (other : o.isSignal = false) : Calm lent w (w.emit o) :=
  ⟨⟨rfl, (Told.refl w _).skip other, fun _ => .inl⟩, rfl⟩

theorem noting (calm : Calm lent w next) {o : Occurrence} (other : o.isSignal = false) :
    Calm lent w (next.emit o) :=
  calm.trans (.emit other)

end Calm

theorem calm_updateChannel {channel : ChannelRef} {change : Channel → Channel}
    (agrees : ∀ c, (change c).stream = c.stream) : Calm lent w (w.updateChannel channel change) :=
  ⟨⟨streams_updateChannel_id agrees, (Told.refl w _).of_trace rfl, fun _ => .inl⟩, rfl⟩

theorem calm_releaseChannel (w : World) (channel : ChannelRef) :
    Calm lent w (w.releaseChannel channel) := by
  unfold releaseChannel
  split
  · exact .refl w
  · exact (calm_updateChannel Channel.stream_wake).noting rfl

theorem calm_releaseListener (w : World) (listener : Listener) :
    Calm lent w (w.releaseListener listener) := by
  cases listener with
  | silent | record => exact .refl w
  | channel sender => exact calm_releaseChannel w sender.channel

theorem calm_discard (w : World) (task : Task) : Calm lent w (w.discard task) := by
  have noted : Calm lent w (w.emit (.discarded task.id)) := .emit rfl
  unfold discard
  simp only
  split
  · exact noted.trans (calm_releaseListener ..)
  · exact noted

theorem calm_discards (tasks : List Task) (w : World) : Calm lent w (tasks.foldl discard w) := by
  induction tasks generalizing w with
  | nil => exact .refl w
  | cons task rest ih => exact (calm_discard w task).trans (ih (w.discard task))

theorem holds_of_listener {task : Task} {listener : Listener}
    (carries : task.job.listener? = some listener) {channel : ChannelRef} :
    task.holds channel = listener.holds channel := by
  rw [Task.holds, carries]

theorem exists_listener_of_holds {task : Task} {channel : ChannelRef}
    (held : task.holds channel = true) :
    ∃ listener, task.job.listener? = some listener ∧ listener.holds channel = true := by
  cases carries : task.job.listener? with
  | none => simp [Task.holds, carries] at held
  | some listener => exact ⟨listener, rfl, holds_of_listener carries ▸ held⟩

theorem calm_spawn (w : World) (target : Target) {job : Job}
    (holds : ∀ listener channel, job.listener? = some listener → listener.holds channel = true →
      lent channel) : Calm lent w (w.spawn target job) := by
  have counted : Calm lent w { w with tasksMade := w.tasksMade + 1 } := .silent rfl rfl rfl rfl rfl
  unfold spawn
  simp only
  split
  · exact counted.trans (calm_discard ..)
  · refine ⟨⟨rfl, (Told.refl w _).of_trace rfl, fun channel held => ?_⟩, rfl⟩
    refine ((referenced_push ..).1 held).imp_right fun held => ?_
    obtain ⟨listener, carries, held⟩ := exists_listener_of_holds held
    exact holds listener channel carries held

theorem calm_resumePolls (w : World) : Calm lent w w.resumePolls := by
  refine ⟨⟨?_, (Told.refl w _).of_trace rfl, fun _ => .inl⟩, rfl⟩
  simp [World.streams, resumePolls, Function.comp_def]

theorem quiet_beginTask (w : World) (task : Task) : Quiet lent w (w.beginTask task) := by
  unfold beginTask
  simp only
  split
  · exact (calm_resumePolls w).toQuiet.trans (.silent rfl rfl rfl rfl)
  · exact .silent rfl rfl rfl rfl

theorem Routine.calm (routine : Routine lent w next) : Calm lent w next := by
  induction routine with
  | refl => exact .refl w
  | noting _ other ih => exact ih.noting (Occurrence.isSignal_of_isHeard other)
  | changing _ channels senders dispatch trace pace ih =>
    exact ih.trans (.silent channels senders dispatch trace pace)
  | spawning _ target holds ih => exact ih.trans (calm_spawn _ target holds)
  | releasing _ listener ih => exact ih.trans (calm_releaseListener _ listener)

/-! ### Tasks -/

theorem calm_openGate (w : World) (gate : Name) : Calm lent w (w.openGate gate).world := by
  refine ⟨⟨rfl, (Told.refl w _).of_trace rfl, fun channel held => .inl ?_⟩, rfl⟩
  exact (referenced_openGate w gate).1 held

theorem calm_shutdown (w : World) (target : Target) : Calm lent w (w.shutdown target) := by
  have emptied : Calm lent w { w with dispatch := (w.dispatch.shutdown target).2 } := by
    refine ⟨⟨rfl, (Told.refl w _).of_trace rfl, fun channel held => .inl ?_⟩, rfl⟩
    exact (referenced_shutdown w target).2 (.inl held)
  exact emptied.trans (calm_discards ..)

theorem calm_answerDetach (w : World) (task : Task) (client : ClientId) (verdict : Verdict) :
    Calm lent w (w.answerDetach task client verdict) := by
  unfold answerDetach
  simp only
  split
  · exact (Calm.emit rfl).noting rfl
  · exact (Calm.emit rfl).noting rfl

theorem calm_suspend (w : World) (gate : Name) (target : Target) {task : Task} (verdict : Verdict)
    (holds : ∀ channel, task.holds channel = true → lent channel) :
    Calm lent w (w.suspend gate target task verdict) := by
  refine ⟨⟨rfl, (Told.refl w _).skip (o := .suspended task.id gate) rfl, fun channel held => ?_⟩,
    rfl⟩
  exact ((referenced_suspend ..).1 held).imp_right (holds channel)

end World

end Proximity
