import Proximity.Proofs.Origins
import Proximity.Proofs.Receiving
import Proximity.Proofs.Vigil

/-! Who waits for a stream is woken when a callback is called on a sender of the channel, or when
the last sender goes, and for nothing else. As long as neither has happened, the next poll is left
pending again. -/

set_option autoImplicit false

namespace Proximity

namespace World

variable {w next : World} {channel : ChannelRef} {c : Channel}

theorem StreamChange.length_le (changes : w.StreamChange next) :
    w.streams.length ≤ next.streams.length := by
  cases changes with
  | calm streams => exact Nat.le_of_eq (congrArg List.length streams.symm)
  | made streams => simp [streams]
  | sent _ _ _ _ _ streams | polled _ _ _ _ streams | closed _ streams => simp [streams]

theorem StreamChange.gone (changes : w.StreamChange next) (made : channel < w.streams.length)
    (gone : ¬ w.Referenced channel) :
    channel < next.streams.length ∧ ¬ next.Referenced channel := by
  refine ⟨Nat.lt_of_lt_of_le made changes.length_le, fun held => ?_⟩
  cases changes with
  | calm _ _ referenced | sent _ _ _ _ _ _ _ referenced | polled _ _ _ _ _ _ referenced
  | closed _ _ _ referenced => exact gone (referenced channel held)
  | made streams told referenced =>
    rcases referenced channel held with old | new
    · exact gone old
    · exact absurd made (Nat.not_lt.2 (Nat.le_of_eq new.symm))

theorem StreamChange.referenced_of_polled (changes : w.StreamChange next)
    (polled : .polled channel .pending ∈ w.newly next) : w.Referenced channel := by
  cases changes with
  | calm streams told | made streams told | closed _ streams told =>
    cases (told.mem_newly rfl).1 polled
  | sent task running sender event known streams told =>
    simpa using (told.mem_newly rfl).1 polled
  | polled other found there answer streams told =>
    have same := List.mem_singleton.1 ((told.mem_newly rfl).1 polled)
    obtain ⟨rfl, rfl⟩ := Occurrence.polled.inj same
    generalize Stream.buffer _ = buffer at answer
    cases answer with
    | pending still => exact still

/-- How the latest poll stands that was left pending, when it was not put off. -/
theorem Vigilant.woken_iff (vigil : w.Vigilant) (found : w.channels[channel]? = some c)
    (there : c.receiver = true) {later earlier : List Occurrence}
    (polled : w.trace = later ++ .polled channel .pending :: earlier)
    (latest : ∀ o ∈ later, o.awaits channel = false) :
    (c.pending = some .woken ↔
      (∃ o ∈ later, o.reaches channel = true) ∨ ¬ w.Referenced channel) ∧
    (c.pending ≠ some .woken → c.buffer = [] ∧ w.Referenced channel) := by
  have waits := vigil.waits channel c found there
  have expected : w.expected channel =
      some (if later.any (Occurrence.reaches channel) then .woken else .waiting) := by
    rw [World.expected, polled, List.foldr_append, List.foldr_cons]
    simpa [Occurrence.stirs] using Occurrence.foldr_stirs latest
  rw [expected, or_iff_left (a := w.Referenced channel) id] at waits
  cases called : later.any (Occurrence.reaches channel) with
  | true =>
    rw [called, if_pos rfl] at waits
    generalize c.pending = pending at waits ⊢
    cases waits with
    | called =>
      exact ⟨iff_of_true rfl (.inl (List.any_eq_true.1 called)), fun other => absurd rfl other⟩
  | false =>
    have silent : ¬ ∃ o ∈ later, o.reaches channel = true := by simpa using called
    rw [called] at waits
    generalize c.pending = pending at waits ⊢
    cases waits with
    | asleep empty still => simp [silent, still, empty]
    | deserted gone => simp [silent, gone]

theorem perform_dropSender {name : Name} {sender : Sender}
    (named : w.senders.lookup name = some sender) (nested : Bool)
    (held : (w.perform nested (.dropSender name)).world.Referenced sender.channel) :
    (w.perform nested (.dropSender name)).world.channels = w.channels := by
  have dropped : (w.perform nested (.dropSender name)).world =
      ({ w with senders := withoutName name w.senders } : World).releaseChannel sender.channel := by
    simp [perform, act?, dropSender, named]
  rw [dropped] at held ⊢
  unfold releaseChannel at held ⊢
  split
  · rfl
  · rename_i gone
    rw [if_neg gone] at held
    exact absurd ((isSendable_iff _ _).2 held) gone

end World

namespace Run

variable {r : Run} {runs : List Run} {manager : ManagerKind} {service : Service}
  {channel : ChannelRef}

theorem Reachable.vigilant (reachable : Reachable manager service r) : r.world.Vigilant :=
  reachable.keeps (World.vigilant_initial manager service) fun vigil transition =>
    vigil.transition transition

def Loses (runs : List Run) (past : List Occurrence) (channel : ChannelRef) : Prop :=
  ∃ before next, Moment runs before next ∧ past <:+ next.world.trace ∧
    before.world.Referenced channel ∧ ¬ next.world.Referenced channel

theorem History.gone (history : History manager service (r :: runs)) {before next : Run}
    (moment : Moment (r :: runs) before next) (held : before.world.Referenced channel)
    (gone : ¬ next.world.Referenced channel) :
    channel < r.world.streams.length ∧ ¬ r.world.Referenced channel := by
  generalize whole : r :: runs = all at history moment
  induction history generalizing r runs with
  | start => exact absurd moment.length_le (by simp)
  | @next prior last earlier history moves ih =>
    cases whole
    obtain ⟨_, _, transition, _⟩ := moves.transition
    rcases List.infix_cons_iff.1 moment with first | later
    · obtain ⟨rfl, rest⟩ := List.cons_prefix_cons.1 first
      obtain ⟨rfl, _⟩ := List.cons_prefix_cons.1 rest
      have made := history.reachable.flows.made channel held
      exact ⟨Nat.lt_of_lt_of_le made transition.channelChange.streamChange.length_le, gone⟩
    · obtain ⟨made, left⟩ := ih rfl later
      exact transition.channelChange.streamChange.gone made left

/-- A channel that a poll was left pending on has lost its last sender since if nobody is left who
could send. -/
theorem History.loses_iff (history : History manager service (r :: runs))
    {earlier : List Occurrence} (polled : .polled channel .pending :: earlier <:+ r.world.trace) :
    Loses (r :: runs) (.polled channel .pending :: earlier) channel ↔
      ¬ r.world.Referenced channel := by
  constructor
  · rintro ⟨before, next, moment, _, held, gone⟩
    exact (history.gone moment held gone).2
  · intro gone
    generalize whole : r :: runs = all at history
    induction history generalizing r runs with
    | start =>
      cases whole
      exact absurd polled.length_le (by simp [World.initial])
    | @next prior last rest history moves ih =>
      cases whole
      by_cases held : prior.world.Referenced channel
      · exact ⟨prior, last, (List.prefix_append [last, prior] rest).isInfix, polled, held, gone⟩
      -- Nobody was left before the move, so the poll was made before.
      obtain ⟨_, _, transition, _⟩ := moves.transition
      have old : .polled channel .pending :: earlier <:+ prior.world.trace := by
        obtain ⟨since, split⟩ := polled
        rw [transition.sessionChange.trace] at split
        rcases List.append_eq_append_iff.1 split with ⟨new, newly, same⟩ | ⟨between, _, same⟩
        · cases new with
          | nil => exact same ▸ List.suffix_refl _
          | cons o new =>
            obtain ⟨rfl, _⟩ := List.cons.inj same
            have told : .polled channel .pending ∈ prior.world.newly last.world := by
              rw [newly]
              simp
            exact absurd (transition.channelChange.streamChange.referenced_of_polled told) held
        · exact ⟨between, same.symm⟩
      obtain ⟨before, next, moment, past, there, left⟩ := ih old held rfl
      exact ⟨before, next, moment.later last, past, there, left⟩

/-- A receiver that is there is woken exactly. The waker of the latest poll that was left pending
has been woken if and only if since then a callback was called on a sender of the channel, or the
channel lost its last sender, however that was let go. As long as it has not been woken, the next
poll is left pending too. To drop a sender that is not the last one wakes nobody. -/
theorem History.wakes_exactly (history : History manager service (r :: runs)) {c : Channel}
    (found : r.world.channels[channel]? = some c) (there : c.receiver = true)
    {later earlier : List Occurrence}
    (polled : r.world.trace = later ++ .polled channel .pending :: earlier)
    (latest : ∀ o ∈ later, o.awaits channel = false) :
    (c.pending = some .woken ↔ (∃ o ∈ later, o.reaches channel = true) ∨
      Loses (r :: runs) (.polled channel .pending :: earlier) channel) ∧
    (∀ name nested, r.world.receiving? name = some (channel, c) →
      (r.world.perform nested (.woken name)).answer = .truth (c.pending = some .woken) ∧
      (c.pending ≠ some .woken →
        (r.world.perform nested (.poll name)).answer = .polled .pending)) ∧
    ∀ name nested sender, r.world.senders.lookup name = some sender →
      (r.world.perform nested (.dropSender name)).world.Referenced sender.channel →
        (r.world.perform nested (.dropSender name)).world.channels = r.world.channels := by
  obtain ⟨woken, asleep⟩ := history.reachable.vigilant.woken_iff found there polled latest
  have loses : Loses _ (.polled channel .pending :: earlier) channel ↔ _ :=
    history.loses_iff ⟨later, polled.symm⟩
  refine ⟨woken.trans (or_congr_right loses.symm), fun name nested receiving => ⟨?_, ?_⟩, ?_⟩
  · obtain ⟨known, _, _⟩ := World.receiving?_eq receiving
    simp [World.perform, World.act?, World.wokenChannel, known, found]
  · intro waits
    obtain ⟨empty, still⟩ := asleep waits
    cases spent : r.world.isSpent with
    | true => rw [World.perform_poll_spent nested receiving spent]
    | false =>
      obtain ⟨poll, left, answer, told, _⟩ := World.answers_poll nested receiving spent
      rw [empty] at answer
      generalize left.buffer = rest at answer
      cases answer with
      | pending => exact told
      | ended gone => exact absurd still gone
  · exact fun name nested sender named held => World.perform_dropSender named nested held

/-- Three streams have been polled. Since then the first one was sent an event, and the second one
has lost its only sender. The third one has two. -/
def threePolled : Run :=
  ⟨(World.initial .registry {}).takeAll [.channel "sent", .channel "left", .channel "kept",
    .cloneSender "kept" "copy", .poll "sent", .poll "left", .poll "kept",
    .send (.channel "sent") .configFailed, .dropSender "left"], []⟩

set_option maxRecDepth 2000 in
theorem wakes_exactly_threePolled : ∃ runs, History .registry {} (threePolled :: runs) ∧
    (threePolled.world.perform false (.woken "sent")).answer = .truth true ∧
    Loses (threePolled :: runs) [.polled 1 .pending, .polled 0 .pending] 1 ∧
    (threePolled.world.perform false (.poll "kept")).answer = .polled .pending ∧
    (threePolled.world.perform false (.dropSender "copy")).world.channels =
      threePolled.world.channels := by
  have reached : Reachable .registry {} threePolled := .scenario .registry _
  obtain ⟨runs, history⟩ := reached.history
  have trace : threePolled.world.trace = [.abandoned 1, .invoked none none (.channel ⟨0, 0⟩)
      .configFailed, .polled 2 .pending, .polled 1 .pending, .polled 0 .pending] := by rfl
  have channels : threePolled.world.channels = [⟨[.configFailed], true, some .woken⟩,
      ⟨[], true, some .woken⟩, ⟨[], true, some .waiting⟩] := by rfl
  have receivers : threePolled.world.receivers = [("sent", 0), ("left", 1), ("kept", 2)] := by rfl
  have copy : threePolled.world.senders.lookup "copy" = some ⟨2, 3⟩ := by rfl
  have other : (threePolled.world.perform false (.dropSender "copy")).world.senders =
      [("sent", ⟨0, 0⟩), ("kept", ⟨2, 2⟩)] := by rfl
  have sent : threePolled.world.channels[0]? = some _ := congrArg (·[0]?) channels
  have left : threePolled.world.channels[1]? = some _ := congrArg (·[1]?) channels
  have kept : threePolled.world.channels[2]? = some _ := congrArg (·[2]?) channels
  have first : threePolled.world.trace = [_, _, _, _] ++ .polled 0 .pending :: [] := trace
  have second : threePolled.world.trace = [_, _, _] ++ .polled 1 .pending :: [_] := trace
  have third : threePolled.world.trace = [_, _] ++ .polled 2 .pending :: [_, _] := trace
  obtain ⟨_, told, _⟩ := history.wakes_exactly sent rfl first (by simp [Occurrence.awaits])
  obtain ⟨gone, _⟩ := history.wakes_exactly left rfl second (by simp [Occurrence.awaits])
  obtain ⟨_, asleep, quiet⟩ := history.wakes_exactly kept rfl third (by simp [Occurrence.awaits])
  refine ⟨runs, history, ?_, ?_, ?_, ?_⟩
  · exact (told "sent" false (by rw [World.receiving?, receivers, channels]; rfl)).1
  · exact (gone.1 rfl).resolve_left (by simp [Occurrence.reaches, Callback.holds])
  · exact (asleep "kept" false (by rw [World.receiving?, receivers, channels]; rfl)).2
      (by simp)
  · exact quiet "copy" false _ copy (.inl ⟨("kept", ⟨2, 2⟩), by simp [other], rfl⟩)

end Run

end Proximity
