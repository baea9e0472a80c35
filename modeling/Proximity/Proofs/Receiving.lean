import Proximity.Proofs.Gate
import Proximity.Proofs.Ledger
import Proximity.Proofs.Source
import Proximity.Proofs.Streams

/-! What the receiver of an event channel sees. Each poll yields the oldest event that is kept,
unless its task has polled too often, and a stream whose senders are all gone yields the rest and
ends. -/

set_option autoImplicit false

namespace Proximity

namespace World

variable {w : World} {name : Name} {channel : ChannelRef} {c : Channel}

theorem receiving?_spend (w : World) (poll : Poll) (name : Name) :
    (w.spend poll).receiving? name = w.receiving? name := by
  rw [spend_eq]
  rfl

theorem receiving?_updateChannel (receiving : w.receiving? name = some (channel, c))
    {change : Channel → Channel} (there : (change c).receiver = true) :
    (w.updateChannel channel change).receiving? name = some (channel, change c) := by
  obtain ⟨known, found, _⟩ := receiving?_eq receiving
  simp [receiving?, updateChannel, known, found, there]

theorem perform_poll_spent (nested : Bool) (receiving : w.receiving? name = some (channel, c))
    (spent : w.isSpent = true) : w.perform nested (.poll name) =
      { world := (w.updateChannel channel Channel.putOff).emit (.putOff channel)
        answer := .polled .pending } := by
  simp [perform, act?, pollChannel, receiving, spent]

theorem perform_poll (nested : Bool) (receiving : w.receiving? name = some (channel, c))
    (ready : w.isSpent = false) {poll : Poll} {left : Channel}
    (polled : c.poll (w.isSendable channel) = (poll, left)) : w.perform nested (.poll name) =
      { world := ((w.updateChannel channel fun _ => left).spend poll).emit (.polled channel poll)
        answer := .polled poll } := by
  simp [perform, act?, pollChannel, receiving, ready, polled]

/-- What a poll is answered, unless it is put off, and what is left for the next one. -/
theorem answers_poll (nested : Bool) (receiving : w.receiving? name = some (channel, c))
    (ready : w.isSpent = false) : ∃ poll left,
      Polls (w.Referenced channel) c.buffer poll left.buffer ∧
      (w.perform nested (.poll name)).answer = .polled poll ∧
      (w.perform nested (.poll name)).world.receiving? name = some (channel, left) := by
  obtain ⟨answer, stays⟩ := polls_poll c (isSendable_iff w channel)
  obtain ⟨_, _, there⟩ := receiving?_eq receiving
  rw [perform_poll nested receiving ready rfl]
  refine ⟨_, _, answer, rfl, (receiving?_spend ..).trans ?_⟩
  exact receiving?_updateChannel receiving (stays.trans there)

structure Serves (w : World) (name : Name) (channel : ChannelRef) (c : Channel) : Prop where
  kept : w.takenFrom channel ++ c.buffer = w.sentOn channel
  answered : ∀ nested, w.isSpent = false → ∃ poll left,
    Polls (w.Referenced channel) c.buffer poll left.buffer ∧
    (w.perform nested (.poll name)).answer = .polled poll ∧
    (w.perform nested (.poll name)).world.receiving? name = some (channel, left)
  ended : .polled channel .ended ∈ w.trace → ∀ nested, w.isSpent = false →
    (w.perform nested (.poll name)).answer = .polled .ended
  /-- A poll that its task makes too late is pending whatever there is, and takes nothing. -/
  putOff : ∀ nested, w.isSpent = true → ∃ left, left.buffer = c.buffer ∧
    (w.perform nested (.poll name)).answer = .polled .pending ∧
    (w.perform nested (.poll name)).world.receiving? name = some (channel, left)

theorem Flows.serves (flows : w.Flows) (receiving : w.receiving? name = some (channel, c)) :
    w.Serves name channel c := by
  obtain ⟨_, known, there⟩ := receiving?_eq receiving
  have found : w.streams[channel]? = some c.stream := by simp [streams, known]
  constructor
  · exact flows.kept channel c.stream found there
  · exact fun nested ready => answers_poll nested receiving ready
  · intro past nested ready
    obtain ⟨_, gone, empty⟩ := flows.ended channel past
    obtain ⟨poll, left, answer, told, _⟩ := answers_poll nested receiving ready
    have none_left : c.buffer = [] := empty _ found
    rw [none_left] at answer
    generalize left.buffer = rest at answer
    cases answer with
    | pending still => exact absurd still gone
    | ended => exact told
  · intro nested spent
    rw [perform_poll_spent nested receiving spent]
    exact ⟨c.putOff, rfl, rfl, receiving?_updateChannel receiving there⟩

/-! ### The end of a stream -/

/-- No task is left with a callback that was made for a request with a sender of the channel. -/
def Settled (w : World) (channel : ChannelRef) : Prop :=
  ∀ p ∈ w.dispatch.places, ∀ request, w.requestFor? p.task.id = some request →
    p.task.job.listener?.isSome = true → request.listener.holds channel = false

theorem Sourced.not_referenced (sourced : w.Sourced)
    (given : ∀ entry ∈ w.senders, entry.2.channel ≠ channel) (settled : w.Settled channel) :
    ¬ w.Referenced channel := by
  rintro (⟨entry, member, named⟩ | ⟨p, member, held⟩)
  · exact given entry member named
  · cases carries : p.task.job.listener? with
    | none => simp [Task.holds, carries] at held
    | some listener =>
      obtain ⟨request, source, same⟩ := sourced.held p member listener carries
      have other := settled p member request source (by simp [carries])
      rw [holds_of_listener carries, ← same, other] at held
      cases held

theorem Stands.placesOf_eq {f : Filing} {stage : Stage} (stands : w.Stands f stage)
    (past : stage = .finished ∨ stage = .dropped) : w.placesOf f.task = [] := by
  unfold Stands at stands
  generalize w.placesOf f.task = places, w.record f.task = record at stands
  cases stands with
  | queued | suspended | woken => simp at past
  | refused | answered | discarded | abandoned => rfl

theorem Ledger.settled (ledger : w.Ledger) (sourced : w.Sourced)
    (past : ∀ f ∈ w.filings, f.request.listener.holds channel = true →
      w.Stands f .finished ∨ w.Stands f .dropped) : w.Settled channel := by
  intro p member request source carries
  obtain ⟨listener, carries⟩ := Option.isSome_iff_exists.1 carries
  have here : p ∈ w.placesOf p.task.id := List.mem_filter.2 ⟨member, by simp⟩
  rcases ledger.mute p.task.id with ⟨f, filed, own⟩ | mute
  · obtain ⟨known, found, same⟩ := sourced.held p member listener carries
    obtain rfl : request = known := Option.some.inj (source.symm.trans found)
    rw [← own] at here
    have lives := ledger.lives (.request f) (mem_filings.1 filed)
    have job := (lives.place_task p here).2
    obtain rfl : listener = f.request.listener := by
      rw [job] at carries
      exact (Option.some.inj (carries.symm.trans f.made_listener))
    rw [same]
    refine Bool.eq_false_iff.2 fun holds => ?_
    have gone : w.placesOf f.task = [] :=
      (past f filed holds).elim (·.placesOf_eq (.inl rfl)) (·.placesOf_eq (.inr rfl))
    rw [gone] at here
    cases here
  · rw [mute.places p here] at carries
    cases carries

theorem settle_of_idle {r : Run} (idle : r.tick = none) : r.settle = r := by
  unfold Run.settle
  cases r.weight with
  | zero => rfl
  | succ ticks => simp only [Run.advance, idle]

theorem take_poll (idle : w.running = none) (receiving : w.receiving? name = some (channel, c)) :
    ∃ poll left, Polls (w.Referenced channel) c.buffer poll left.buffer ∧
      (w.takeStep (.poll name)).1.answer = .polled poll ∧
      (w.takeStep (.poll name)).2.running = none ∧
      (w.takeStep (.poll name)).2.receiving? name = some (channel, left) ∧
      ((w.takeStep (.poll name)).2.Referenced channel → w.Referenced channel) := by
  have ready : w.isSpent = false := by simp [isSpent, idle]
  obtain ⟨poll, left, answer, told, next⟩ := answers_poll false receiving ready
  have effect := perform_poll false receiving ready rfl
  have rests : (w.perform false (.poll name)).world.running = none := by
    rw [effect, spend_eq]
    exact idle
  have settled : (w.takeStep (.poll name)).2 = (w.perform false (.poll name)).world := by
    have none_left : (w.perform false (.poll name)).frames = [] := by rw [effect]
    simp only [takeStep, take, none_left]
    rw [settle_of_idle (Run.tick_eq_none.2 ⟨rfl, rests⟩)]
  rw [settled]
  refine ⟨poll, left, answer, told, rests, next, fun held => ?_⟩
  rw [effect] at held
  exact (referenced_spend (w.updateChannel channel _) _ channel).1 held

theorem stays_ended (idle : w.running = none) (receiving : w.receiving? name = some (channel, c))
    (gone : ¬ w.Referenced channel) (empty : c.buffer = []) (more : Nat) :
    (w.takeSteps (List.replicate more (.poll name))).map (·.1.answer) =
      List.replicate more (.polled .ended) := by
  induction more generalizing w c with
  | zero => rfl
  | succ more ih =>
    obtain ⟨poll, left, answer, told, rests, next, referenced⟩ := take_poll idle receiving
    rw [empty] at answer
    generalize rest : left.buffer = buffer at answer
    cases answer with
    | pending still => exact absurd still gone
    | ended =>
      simp only [List.replicate_succ, takeSteps, List.map_cons, told]
      rw [ih rests next (fun held => gone (referenced held)) rest]

/-- A stream that nobody can send to yields what is kept, in order, and then ends. -/
theorem drains (idle : w.running = none) (receiving : w.receiving? name = some (channel, c))
    (gone : ¬ w.Referenced channel) (more : Nat) :
    (w.takeSteps (List.replicate (c.buffer.length + more) (.poll name))).map (·.1.answer) =
      c.buffer.map (fun event => .polled (.event event)) ++
        List.replicate more (.polled .ended) := by
  induction kept : c.buffer generalizing w c with
  | nil =>
    rw [List.length_nil, Nat.zero_add, List.map_nil, List.nil_append]
    exact stays_ended idle receiving gone kept more
  | cons event rest ih =>
    obtain ⟨poll, left, answer, told, rests, next, referenced⟩ := take_poll idle receiving
    rw [kept] at answer
    generalize now : left.buffer = buffer at answer
    cases answer with
    | oldest =>
      have length : (event :: rest).length + more = rest.length + more + 1 := by
        rw [List.length_cons]
        omega
      rw [length]
      simp only [List.replicate_succ, takeSteps, List.map_cons, List.cons_append, told]
      rw [ih rests next (fun held => gone (referenced held)) now]

theorem invoke_gone (task : Option TaskRef) {sender : Sender} (event : Event)
    (found : w.channels[sender.channel]? = some c) (gone : c.receiver = false) :
    w.invoke task (.channel sender) event =
      ((w.emit (.invoked task w.running (.channel sender) event)).log .receiverDropped, []) := by
  have there : (w.emit
      (.invoked task w.running (.channel sender) event)).channels[sender.channel]? = some c := found
  simp [invoke, sendEvent, there, gone]

end World

namespace Run

/-- Event channels lose nothing, double nothing and keep order, and a stream ends when it has
yielded everything and nobody is left who could send: nobody has a sender under a name, and every
request that came with one is settled. Only a task that has used up its budget is put off. -/
theorem Reachable.streams_served {manager : ManagerKind} {service : Service} {r : Run}
    (reachable : Reachable manager service r) :
    (∀ {name channel c}, r.world.receiving? name = some (channel, c) →
      r.world.Serves name channel c) ∧
    (∀ {name channel c}, r.world.receiving? name = some (channel, c) → r.tick = none →
      (∀ entry ∈ r.world.senders, entry.2.channel ≠ channel) → r.world.Settled channel →
      ∀ more, (r.world.takeSteps (List.replicate (c.buffer.length + more) (.poll name))).map
          (·.1.answer) =
        c.buffer.map (fun event => .polled (.event event)) ++
          List.replicate more (.polled .ended)) ∧
    (manager = .registry → ∀ channel, (∀ f ∈ r.world.filings,
      f.request.listener.holds channel = true →
        r.world.Stands f .finished ∨ r.world.Stands f .dropped) → r.world.Settled channel) ∧
    r.world.Allotted ∧
    ∀ task sender event c, r.world.channels[sender.channel]? = some c → c.receiver = false →
      r.world.invoke task (.channel sender) event =
        ((r.world.emit (.invoked task r.world.running (.channel sender) event)).log
          .receiverDropped, []) := by
  refine ⟨fun receiving => reachable.flows.serves receiving, ?_, ?_, reachable.allotted, ?_⟩
  · intro name channel c receiving idle given settled more
    exact World.drains (tick_eq_none.1 idle).2 receiving
      (reachable.sourced.not_referenced given settled) more
  · rintro rfl channel past
    exact reachable.ledger.settled reachable.sourced past
  · exact fun task sender event c found gone => World.invoke_gone task event found gone

/-- A callback that has polled an ended stream as often as its task may, and still has to poll the
stream that an event is kept for. -/
def pollsTooOften : Run :=
  (stepped ⟨(World.initial .registry {}).takeAll [.channel "ended", .dropSender "ended",
    .channel "kept", .send (.channel "kept") .configFailed,
    .managerRequest ⟨9⟩ (.publish { serviceName := "beacon" })
      (.record "late" (List.replicate 128 (.poll "ended") ++ [.poll "kept"])) none], []⟩
    (.pump .main)).advance 129

theorem pending_before_event : Reachable .registry {} pollsTooOften ∧ ∃ channel c,
    pollsTooOften.world.receiving? "kept" = some (channel, c) ∧ c.buffer = [.configFailed] ∧
      (pollsTooOften.world.perform true (.poll "kept")).answer = .polled .pending := by
  have reached : Reachable .registry {} pollsTooOften := by
    refine Reachable.advance (.next (.scenario .registry _) (.step ?_ _)) _
    exact tick_eq_none.2 ⟨rfl, by decide +kernel⟩
  have kept : (pollsTooOften.world.receiving? "kept").map (·.2.buffer) = some [.configFailed] := by
    decide +kernel
  obtain ⟨⟨channel, c⟩, receiving, buffer⟩ := Option.map_eq_some_iff.1 kept
  have spent : pollsTooOften.world.isSpent = true := by decide +kernel
  refine ⟨reached, channel, c, receiving, buffer, ?_⟩
  rw [World.perform_poll_spent true receiving spent]

def rejectedOnce : World :=
  (World.initial .registry {}).takeAll [.channel "events",
    .managerRequest ⟨9⟩ (.publish {}) (.channel "events") none, .dropSender "events", .pump .main]

theorem streams_served_rejectedOnce : ∃ channel c,
    rejectedOnce.receiving? "events" = some (channel, c) ∧
    rejectedOnce.Serves "events" channel c ∧
    (rejectedOnce.takeSteps (List.replicate 2 (.poll "events"))).map (·.1.answer) =
      [.polled (.event .configFailed), .polled .ended] := by
  have reached : Reachable .registry {} ⟨rejectedOnce, []⟩ := .scenario .registry _
  obtain ⟨serves, drains, settles, _⟩ := reached.streams_served
  have kept : (rejectedOnce.receiving? "events").map (·.2.buffer) = some [.configFailed] := by
    decide +kernel
  obtain ⟨⟨channel, c⟩, receiving, buffer⟩ := Option.map_eq_some_iff.1 kept
  have idle : tick ⟨rejectedOnce, []⟩ = none := tick_eq_none.2 ⟨rfl, by decide +kernel⟩
  have none_given : rejectedOnce.senders = [] := by decide +kernel
  have drained := drains receiving idle (by simp [none_given]) (settles rfl channel ?_) 1
  · rw [buffer] at drained
    exact ⟨channel, c, receiving, serves receiving, drained⟩
  · intro f filed _
    have stage : ∀ f ∈ rejectedOnce.filings,
        Stage.read (rejectedOnce.placesOf f.task) (rejectedOnce.record f.task) = .finished := by
      decide +kernel
    obtain ⟨at_, stands⟩ := reached.ledger.stands f filed
    have read := Filing.At.read stands
    rw [stage f filed] at read
    exact .inl (read ▸ stands)

end Run

end Proximity
