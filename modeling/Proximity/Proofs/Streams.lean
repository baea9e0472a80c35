import Proximity.Proofs.StreamChanges

/-! Event channels lose nothing: what polls have yielded and what is still kept is what was sent, in
order, as long as the receiver is there. A stream that has ended stays empty, and nobody is left who
could send to it. Polls are put off for no other reason than that one task has made too many. -/

set_option autoImplicit false

namespace Proximity

namespace Occurrence

def sentOn? (channel : ChannelRef) : Occurrence → Option Event
  | .invoked _ _ (.channel sender) event =>
    if sender.channel = channel then some event else none
  | _ => none

def takenFrom? (channel : ChannelRef) : Occurrence → Option Event
  | .polled other (.event event) => if other = channel then some event else none
  | _ => none

variable {o : Occurrence} {channel : ChannelRef}

theorem sentOn?_of_other (other : o.stream? ≠ some channel) : o.sentOn? channel = none := by
  cases o with
  | invoked task running listener event =>
    cases listener with
    | silent | record => rfl
    | channel sender => exact if_neg fun same => other (congrArg some same)
  | _ => rfl

theorem takenFrom?_of_other (other : o.stream? ≠ some channel) : o.takenFrom? channel = none := by
  cases o with
  | polled polled poll =>
    cases poll with
    | event event => exact if_neg fun same => other (congrArg some same)
    | pending | ended => rfl
  | _ => rfl

theorem stream?_of_quiet (channel : ChannelRef) (quiet : o.isStreamed = false) :
    o.stream? ≠ some channel := by
  intro own
  simp [isStreamed, own] at quiet

end Occurrence

namespace World

def sentOn (w : World) (channel : ChannelRef) : List Event :=
  (w.trace.filterMap (Occurrence.sentOn? channel)).reverse

def takenFrom (w : World) (channel : ChannelRef) : List Event :=
  (w.trace.filterMap (Occurrence.takenFrom? channel)).reverse

variable {w next : World} {facts : List Occurrence} {channel : ChannelRef}

theorem Told.sentOn (told : w.Told Occurrence.isStreamed next facts) (channel : ChannelRef) :
    next.sentOn channel =
      w.sentOn channel ++ (facts.filterMap (Occurrence.sentOn? channel)).reverse := by
  have seen := told.filterMap fun o quiet =>
    Occurrence.sentOn?_of_other (Occurrence.stream?_of_quiet channel quiet)
  rw [World.sentOn, seen, List.reverse_append]
  rfl

theorem Told.takenFrom (told : w.Told Occurrence.isStreamed next facts) (channel : ChannelRef) :
    next.takenFrom channel =
      w.takenFrom channel ++ (facts.filterMap (Occurrence.takenFrom? channel)).reverse := by
  have seen := told.filterMap fun o quiet =>
    Occurrence.takenFrom?_of_other (Occurrence.stream?_of_quiet channel quiet)
  rw [World.takenFrom, seen, List.reverse_append]
  rfl

theorem Told.elsewhere (told : w.Told Occurrence.isStreamed next facts)
    (own : ∀ o ∈ facts, o.stream? = some channel) {other : ChannelRef} (unlike : channel ≠ other) :
    next.sentOn other = w.sentOn other ∧ next.takenFrom other = w.takenFrom other ∧
      (.polled other .ended ∈ next.trace → .polled other .ended ∈ w.trace) := by
  have none_other (o : Occurrence) (fact : o ∈ facts) : o.stream? ≠ some other := by
    rw [own o fact]
    exact fun same => unlike (Option.some.inj same)
  refine ⟨?_, ?_, fun past => ?_⟩
  · rw [told.sentOn, List.filterMap_eq_nil_iff.2 fun o fact =>
      Occurrence.sentOn?_of_other (none_other o fact)]
    exact List.append_nil _
  · rw [told.takenFrom, List.filterMap_eq_nil_iff.2 fun o fact =>
      Occurrence.takenFrom?_of_other (none_other o fact)]
    exact List.append_nil _
  · exact ((told.mem_trace rfl).1 past).resolve_left fun fact => none_other _ fact rfl

/-- What holds of every channel: a receiver that is there has got, or will get, what was sent, and
nothing comes after the end. -/
structure Flows (w : World) : Prop where
  made : ∀ channel, w.Referenced channel → channel < w.streams.length
  unmade : ∀ channel, w.streams.length ≤ channel →
    w.sentOn channel = [] ∧ w.takenFrom channel = []
  kept : ∀ channel s, w.streams[channel]? = some s → s.receiver = true →
    w.takenFrom channel ++ s.buffer = w.sentOn channel
  ended : ∀ channel, .polled channel .ended ∈ w.trace → channel < w.streams.length ∧
    ¬ w.Referenced channel ∧ ∀ s, w.streams[channel]? = some s → s.buffer = []

theorem flows_initial (manager : ManagerKind) (service : Service) :
    (World.initial manager service).Flows where
  made := by simp [World.initial, Referenced, Dispatch.places, Queue.places, Queue.tasks]
  unmade := by simp [World.initial, sentOn, takenFrom]
  kept := by simp [World.initial, streams]
  ended := by simp [World.initial]

namespace Flows

/-- Nothing is told of streams, and the new ones stand behind the others with nothing in them. -/
theorem grown (flows : w.Flows) {fresh : List Stream} (streams : next.streams = w.streams ++ fresh)
    (empty : ∀ s ∈ fresh, s.buffer = []) (told : w.Told Occurrence.isStreamed next [])
    (referenced : ∀ channel, next.Referenced channel → w.Referenced channel ∨
      w.streams.length ≤ channel ∧ channel < next.streams.length) : next.Flows := by
  have sent (channel : ChannelRef) : next.sentOn channel = w.sentOn channel := by
    simp [told.sentOn]
  have taken (channel : ChannelRef) : next.takenFrom channel = w.takenFrom channel := by
    simp [told.takenFrom]
  have length : w.streams.length ≤ next.streams.length := by simp [streams]
  have old {channel : ChannelRef} (made : channel < w.streams.length) :
      next.streams[channel]? = w.streams[channel]? := by
    rw [streams, List.getElem?_append_left made]
  constructor
  · intro channel held
    exact (referenced channel held).elim
      (fun before => Nat.lt_of_lt_of_le (flows.made channel before) length) And.right
  · intro channel beyond
    rw [sent, taken]
    exact flows.unmade channel (Nat.le_trans length beyond)
  · intro channel s found there
    rw [sent, taken]
    rcases Nat.lt_or_ge channel w.streams.length with made | new
    · exact flows.kept channel s (old made ▸ found) there
    · obtain ⟨noneSent, noneTaken⟩ := flows.unmade channel new
      rw [streams, List.getElem?_append_right new] at found
      rw [noneSent, noneTaken, empty s (List.mem_of_getElem? found)]
      rfl
  · intro channel past
    have before := ((told.mem_trace rfl).1 past).resolve_left (by simp)
    obtain ⟨made, gone, drained⟩ := flows.ended channel before
    refine ⟨Nat.lt_of_lt_of_le made length, fun held => ?_, fun s found => ?_⟩
    · rcases referenced channel held with still | ⟨new, _⟩
      · exact gone still
      · exact absurd made (Nat.not_lt.2 new)
    · exact drained s (old made ▸ found)

/-- One stream changes, and whatever is told is told of it. -/
theorem changed (flows : w.Flows) {change : Stream → Stream}
    (streams : next.streams = w.streams.modify channel change)
    (told : w.Told Occurrence.isStreamed next facts)
    (own : ∀ o ∈ facts, o.stream? = some channel)
    (referenced : ∀ channel, next.Referenced channel → w.Referenced channel)
    (unmade : w.streams.length ≤ channel →
      next.sentOn channel = [] ∧ next.takenFrom channel = [])
    (kept : ∀ s, w.streams[channel]? = some s → (change s).receiver = true →
      next.takenFrom channel ++ (change s).buffer = next.sentOn channel)
    (ended : .polled channel .ended ∈ next.trace → channel < w.streams.length ∧
      ¬ w.Referenced channel ∧ ∀ s, w.streams[channel]? = some s → (change s).buffer = []) :
    next.Flows := by
  have length : next.streams.length = w.streams.length := by rw [streams, List.length_modify]
  have mine : next.streams[channel]? = (w.streams[channel]?).map change := by
    rw [streams, List.getElem?_modify_eq]
    rfl
  have others {other : ChannelRef} (unlike : channel ≠ other) :
      next.streams[other]? = w.streams[other]? := by
    rw [streams, List.getElem?_modify_ne _ _ unlike]
  constructor
  · intro other held
    rw [length]
    exact flows.made other (referenced other held)
  · intro other beyond
    rw [length] at beyond
    by_cases same : channel = other
    · subst same
      exact unmade beyond
    · obtain ⟨sent, taken, _⟩ := told.elsewhere own same
      rw [sent, taken]
      exact flows.unmade other beyond
  · intro other s found there
    by_cases same : channel = other
    · subst same
      rw [mine] at found
      obtain ⟨before, old, rfl⟩ := Option.map_eq_some_iff.1 found
      exact kept before old there
    · obtain ⟨sent, taken, _⟩ := told.elsewhere own same
      rw [sent, taken]
      exact flows.kept other s (others same ▸ found) there
  · intro other past
    rw [length]
    by_cases same : channel = other
    · subst same
      obtain ⟨made, gone, drained⟩ := ended past
      refine ⟨made, fun held => gone (referenced channel held), fun s found => ?_⟩
      rw [mine] at found
      obtain ⟨before, old, rfl⟩ := Option.map_eq_some_iff.1 found
      exact drained before old
    · obtain ⟨_, _, before⟩ := told.elsewhere own same
      obtain ⟨made, gone, drained⟩ := flows.ended other (before past)
      exact ⟨made, fun held => gone (referenced other held), others same ▸ drained⟩

theorem sent (flows : w.Flows) {task : Option TaskRef} {running : Option Target} {sender : Sender}
    {event : Event} (known : w.Referenced sender.channel)
    (streams : next.streams = w.streams.modify sender.channel (Stream.send event))
    (told : w.Told Occurrence.isStreamed next [.invoked task running (.channel sender) event])
    (referenced : ∀ channel, next.Referenced channel → w.Referenced channel) : next.Flows := by
  have made := flows.made _ known
  have taken : next.takenFrom sender.channel = w.takenFrom sender.channel := by
    simp [told.takenFrom, Occurrence.takenFrom?]
  have more : next.sentOn sender.channel = w.sentOn sender.channel ++ [event] := by
    simp [told.sentOn, Occurrence.sentOn?]
  refine flows.changed streams told (by simp [Occurrence.stream?]) referenced
    (fun beyond => absurd made (Nat.not_lt.2 beyond)) (fun s found there => ?_) fun past => ?_
  · have receiver : s.receiver = true := by
      unfold Stream.send at there
      split at there <;> assumption
    rw [taken, more, ← flows.kept _ s found receiver, Stream.send, if_pos receiver,
      List.append_assoc]
  · -- Nobody is left to send to a channel that has ended.
    have before := ((told.mem_trace rfl).1 past).resolve_left (by simp)
    exact absurd known (flows.ended _ before).2.1

theorem polled (flows : w.Flows) {s : Stream} {poll : Poll} {rest : List Event}
    (found : w.streams[channel]? = some s) (there : s.receiver = true)
    (answer : Polls (w.Referenced channel) s.buffer poll rest)
    (streams : next.streams = w.streams.modify channel fun s => { s with buffer := rest })
    (told : w.Told Occurrence.isStreamed next [.polled channel poll])
    (referenced : ∀ channel, next.Referenced channel → w.Referenced channel) : next.Flows := by
  have made : channel < w.streams.length := (List.getElem?_eq_some_iff.1 found).1
  have sent : next.sentOn channel = w.sentOn channel := by
    simp [told.sentOn, Occurrence.sentOn?]
  refine flows.changed streams told (by simp [Occurrence.stream?]) referenced
    (fun beyond => absurd made (Nat.not_lt.2 beyond)) (fun old now _ => ?_) fun past => ?_
  · rw [sent, ← flows.kept channel s found there, told.takenFrom]
    -- What the poll yields goes from the front of the buffer to the end of what was taken.
    generalize s.buffer = buffer at answer
    cases answer <;> simp [Occurrence.takenFrom?]
  · rcases (told.mem_trace rfl).1 past with new | before
    · obtain ⟨_, rfl⟩ := Occurrence.polled.inj (List.mem_singleton.1 new)
      generalize s.buffer = buffer at answer
      cases answer with
      | ended gone => exact ⟨made, gone, fun _ _ => rfl⟩
    · obtain ⟨_, gone, drained⟩ := flows.ended channel before
      rw [drained s found] at answer
      refine ⟨made, gone, fun _ _ => ?_⟩
      cases answer <;> rfl

theorem closed (flows : w.Flows) (streams : next.streams = w.streams.modify channel Stream.close)
    (told : w.Told Occurrence.isStreamed next [])
    (referenced : ∀ channel, next.Referenced channel → w.Referenced channel) : next.Flows := by
  refine flows.changed streams told (by simp) referenced (fun beyond => ?_)
    (fun _ _ there => by cases there) fun past => ?_
  · rw [told.sentOn, told.takenFrom]
    simpa using flows.unmade channel beyond
  · have before := ((told.mem_trace rfl).1 past).resolve_left (by simp)
    obtain ⟨made, gone, _⟩ := flows.ended channel before
    exact ⟨made, gone, fun _ _ => rfl⟩

theorem streamChange (flows : w.Flows) (changes : w.StreamChange next) : next.Flows := by
  cases changes with
  | calm streams told referenced =>
    rw [← List.append_nil w.streams] at streams
    exact flows.grown streams (by simp) told fun channel held => .inl (referenced channel held)
  | made streams told referenced =>
    have length : next.streams.length = w.streams.length + 1 := by simp [streams]
    refine flows.grown streams (by simp) told fun channel held => ?_
    refine (referenced channel held).imp_right fun new => ?_
    rw [new, length]
    exact ⟨Nat.le_refl _, Nat.lt_succ_self _⟩
  | sent task running sender event known streams told referenced =>
    exact flows.sent known streams told referenced
  | polled channel found there answer streams told referenced =>
    exact flows.polled found there answer streams told referenced
  | closed channel streams told referenced => exact flows.closed streams told referenced

end Flows

/-! ### What polls cost a task -/

def signals (w : World) : List Occurrence := w.trace.filter Occurrence.isSignal

theorem Told.signals (told : w.Told Occurrence.isSignal next facts) :
    next.signals = facts ++ w.signals := by
  obtain ⟨happened, trace, rfl⟩ := told
  rw [World.signals, World.signals, trace, List.filter_append]

/-- What a task has left of its budget, with the polls that have yielded something since it began,
is what it was given. No other task has called a callback since then. -/
def Allotted (w : World) : Prop :=
  w.running.isSome = true → 0 < w.tasksRun → ∃ since before, w.signals = since ++ before ∧
    (∀ o ∈ since.dropLast, o.isOutcome = false) ∧
    taskBudget - 1 ≤ w.budget + since.countP Occurrence.isYield ∧
    w.budget + since.countP Occurrence.isYield ≤ taskBudget

theorem Allotted.budgetChange (allotted : w.Allotted) (changes : w.BudgetChange next) :
    next.Allotted := by
  intro busy begun
  cases changes with
  | idle idle =>
    rcases idle with idle | none_begun
    · simp [idle] at busy
    · omega
  | @began facts told one free least most =>
    refine ⟨facts, w.signals, told.signals, ?_, by omega, by omega⟩
    have nothing : facts.dropLast = [] := by
      rw [← List.length_eq_zero_iff, List.length_dropLast]
      omega
    simp [nothing]
  | @within facts told own running tasksRun budget =>
    rw [running] at busy
    rw [tasksRun] at begun
    obtain ⟨since, before, signals, others, least, most⟩ := allotted busy begun
    have spent := budget busy
    refine ⟨facts ++ since, before, ?_, fun o member => ?_, ?_, ?_⟩
    · rw [told.signals, signals, List.append_assoc]
    · rw [List.dropLast_append] at member
      split at member
      · exact own o (List.dropLast_subset facts member)
      · exact (List.mem_append.1 member).elim (own o) (others o)
    · rw [List.countP_append]
      omega
    · rw [List.countP_append]
      omega

end World

namespace Run

variable {manager : ManagerKind} {service : Service} {r : Run}

theorem Reachable.flows (reachable : Reachable manager service r) : r.world.Flows :=
  reachable.keeps (World.flows_initial manager service) fun flows transition =>
    flows.streamChange transition.channelChange.streamChange

theorem Reachable.allotted (reachable : Reachable manager service r) : r.world.Allotted :=
  reachable.keeps (fun busy => by simp [World.initial] at busy) fun allotted transition =>
    allotted.budgetChange transition.channelChange.budgetChange

end Run

end Proximity
