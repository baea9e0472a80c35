import Proximity.Proofs.Attachment
import Proximity.Proofs.Ownership
import Proximity.Proofs.Settling

/-! The client table of a manager holds the live attachments and nothing else: a client is attached
as long as the session that the latest attach made for it is owned and has not been torn down. The
table changes at an attach that is answered and at the teardown of an entry's own session, whatever
clients the service answers and whatever tokens are shown. -/

set_option autoImplicit false

namespace Proximity

namespace World

/-- The entries of the table are the latest attachments of their clients, as far as their sessions
are active. -/
structure Kept (w : World) : Prop where
  registry : w.manager = .registry
  idle : w.engaged = 0
  provenance : w.Provenance
  table : w.alive = true → ∀ client token, w.clients.token? client = some token ↔
    ∃ session, w.attachment? client = some ⟨client, session, token⟩ ∧ w.isActive session = true

theorem kept_initial (service : Service) : (World.initial .registry service).Kept := by
  refine ⟨rfl, rfl, .initial _ service, ?_⟩
  intro _ client token
  simp [World.initial, ClientTable.token?, ClientTable.empty, World.attachment?, World.attachments]

namespace Kept

variable {w next : World}

theorem transfer (kept : w.Kept) (retains : w.Retains next) (engaged : next.engaged = w.engaged)
    (active : ∀ session, next.isActive session = w.isActive session)
    (clients : next.clients = w.clients) (attachments : next.attachments = w.attachments) :
    next.Kept := by
  refine ⟨retains.manager.trans kept.registry, engaged.trans kept.idle,
    kept.provenance.transfer retains.identities retains.tokens retains.minted attachments, ?_⟩
  intro alive client token
  rw [clients, World.attachment?, attachments]
  simp only [active]
  rw [World.alive, retains.held, engaged] at alive
  exact kept.table alive client token

theorem aside (kept : w.Kept) (aside : w.Aside next) : next.Kept :=
  kept.transfer (.of_standing aside.standing) aside.engaged (isActive_of_standing aside.standing)
    aside.clients aside.attachments

theorem emit (kept : w.Kept) {o : Occurrence} (other : o.attachment? = none) : (w.emit o).Kept := by
  apply kept.transfer (.emit w o) rfl (fun _ => rfl) rfl
  simp [World.attachments, World.emit, other]

theorem reown (kept : w.Kept) (owners : List (Name × SessionRef)) :
    ({ w with owners } : World).Kept :=
  ⟨kept.registry, kept.idle, kept.provenance.transfer rfl rfl rfl rfl, kept.table⟩

theorem managerRequest (kept : w.Kept) (origin : Option SessionRef) (request : Request)
    (target : Target) : (w.managerRequest origin request target).1.Kept := by
  rw [managerRequest_registry kept.registry]
  exact (kept.emit rfl).aside (aside_registryRequest w origin request target)

theorem managerSpecifier (kept : w.Kept) (origin : Option SessionRef) (client : ClientId)
    (role : Role) (peer token : Option Bytes) :
    (w.managerSpecifier origin client role peer token).2.1.Kept := by
  rw [managerSpecifier_registry kept.registry]
  exact (kept.emit rfl).aside (aside_registrySpecifier w origin client role peer token)

theorem sessionRequest (kept : w.Kept) (session : SessionRef) (config : Config)
    (listener : Listener) (on : Option Target) :
    (w.sessionRequest session config listener on).1.Kept := by
  unfold World.sessionRequest
  split
  · exact kept
  · simp only
    split
    · exact ((kept.emit rfl).emit rfl).aside (aside_releaseListener ..)
    · exact (kept.emit rfl).managerRequest ..

theorem sessionSpecifier (kept : w.Kept) (session : SessionRef) (role : Role)
    (peer token : Option Bytes) : (w.sessionSpecifier session role peer token).2.1.Kept := by
  unfold World.sessionSpecifier
  split
  · exact kept
  · simp only
    split
    · exact (kept.emit rfl).emit rfl
    · exact (kept.emit rfl).managerSpecifier ..

theorem add (kept : w.Kept) (provenance : next.Provenance) {s : Session}
    (active : s.terminated = false) (sessions : next.sessions = w.sessions ++ [s])
    (manager : next.manager = w.manager) (held : next.held = w.held)
    (engaged : next.engaged = w.engaged) (clients : next.clients = w.clients)
    (attachments : next.attachments = w.attachments) : next.Kept := by
  refine ⟨manager.trans kept.registry, engaged.trans kept.idle, provenance, ?_⟩
  intro alive client token
  rw [World.alive, held, engaged] at alive
  rw [clients, World.attachment?, attachments, kept.table alive]
  constructor
  · rintro ⟨session, latest, still⟩
    exact ⟨session, latest, (isActive_append active sessions session).2 (.inl still)⟩
  · rintro ⟨session, latest, still⟩
    have earlier := kept.provenance.lt_length (mem_of_attachment? latest).1
    exact ⟨session, latest, ((isActive_append active sessions session).1 still).resolve_right
      (Nat.ne_of_lt earlier)⟩

theorem makeSession (kept : w.Kept) {as : Name} {client : ClientId} {token : Name}
    {on : Option Target} {effect : Effect} (done : w.makeSession as client token on = some effect) :
    effect.world.Kept := by
  obtain ⟨_, _, made⟩ := makeSession_eq done
  obtain ⟨provenance, named⟩ := kept.provenance.tokenNamed token
  rw [made]
  have added : (w.tokenNamed token).2.addSession client (w.tokenNamed token).1
      (on.getD defaultTarget) |>.Kept := by
    refine kept.add (s := ⟨client, (w.tokenNamed token).1, on.getD defaultTarget, false, true⟩)
      (provenance.addSession named) rfl ?_ ?_ ?_ ?_ ?_ ?_
    all_goals
      rw [World.addSession, tokenNamed_eq]
      rfl
  exact added.reown _

/-- An attach overwrites the entry of its client, whatever session that belonged to. -/
theorem attaches (kept : w.Kept) {as : Name} {client : ClientId}
    (attaches : w.Attaches next as client) : next.Kept := by
  have active := isActive_append (w := w) rfl (congrArg Standing.sessions attaches.standing)
  have held : next.held = w.held := congrArg Standing.held attaches.standing
  refine ⟨(congrArg Standing.manager attaches.standing).trans kept.registry,
    attaches.engaged.trans kept.idle, kept.provenance.attaches attaches, ?_⟩
  intro alive other token
  rw [World.alive, held, attaches.engaged] at alive
  have before := kept.table alive other token
  have latest : next.attachment? other =
      if other = client then some ⟨client, w.sessions.length, ⟨w.minted⟩⟩
      else w.attachment? other := by
    rw [World.attachment?, attaches.attachments, List.find?_cons]
    by_cases same : other = client
    · simp [same]
    · simp [same, Ne.symm same, World.attachment?]
  rw [attaches.clients, ClientTable.token?_insert, latest]
  by_cases same : other = client
  · subst same
    rw [if_pos rfl, if_pos rfl]
    constructor
    · intro minted
      rw [← Option.some.inj minted]
      exact ⟨w.sessions.length, rfl, (active _).2 (.inr rfl)⟩
    · rintro ⟨session, made, _⟩
      exact congrArg some (congrArg Attachment.token (Option.some.inj made))
  · rw [if_neg same, if_neg same, before]
    constructor
    · rintro ⟨session, found, still⟩
      exact ⟨session, found, (active session).2 (.inl still)⟩
    · rintro ⟨session, found, still⟩
      have earlier := kept.provenance.lt_length (mem_of_attachment? found).1
      exact ⟨session, found, ((active session).1 still).resolve_right (Nat.ne_of_lt earlier)⟩

/-- The token of an active session is recorded just when the latest attach of its client made the
session. -/
theorem recorded_iff (kept : w.Kept) (alive : w.alive = true) {session : SessionRef} {s : Session}
    (found : w.sessions[session]? = some s) (active : s.terminated = false) :
    w.clients.token? s.client = some s.token ↔
      w.attachment? s.client = some ⟨s.client, session, s.token⟩ := by
  rw [kept.table alive]
  constructor
  · rintro ⟨holder, latest, _⟩
    have same := kept.provenance.eq_holder found (mem_of_attachment? latest).1 rfl
    rw [same]
    exact latest
  · intro latest
    exact ⟨session, latest, isActive_eq_true.2 ⟨s, found, active⟩⟩

/-- What is left of the table when the session of an entry is no longer active, and what is left
when a session without an entry is not. -/
theorem table_terminate (kept : w.Kept) (alive : w.alive = true) {session : SessionRef}
    {s : Session} (found : w.sessions[session]? = some s) (active : s.terminated = false)
    (client : ClientId) (token : Token) :
    (if w.clients.token? s.client = some s.token then w.clients.erase s.client
      else w.clients).token? client = some token ↔
    ∃ holder, w.attachment? client = some ⟨client, holder, token⟩ ∧
      (w.isActive holder && decide (holder ≠ session)) = true := by
  -- An attachment whose session is the one torn down has the session's client and token.
  have own {holder : SessionRef} {client : ClientId} {token : Token}
      (latest : w.attachment? client = some ⟨client, holder, token⟩) (same : holder = session) :
      s.client = client ∧ s.token = token := by
    obtain ⟨here, foundHere, sameClient, sameToken⟩ :=
      kept.provenance.holder _ (mem_of_attachment? latest).1
    rw [same] at foundHere
    have equal := Option.some.inj (found.symm.trans foundHere)
    exact ⟨equal ▸ sameClient, equal ▸ sameToken⟩
  simp only [Bool.and_eq_true, decide_eq_true_eq]
  by_cases recorded : w.clients.token? s.client = some s.token
  · have latest := (kept.recorded_iff alive found active).1 recorded
    rw [if_pos recorded, ClientTable.token?_erase]
    by_cases same : client = s.client
    · rw [if_pos same, same, latest]
      constructor
      · intro none
        cases none
      · rintro ⟨holder, made, _, other⟩
        exact absurd (congrArg Attachment.session (Option.some.inj made)).symm other
    · rw [if_neg same, kept.table alive]
      constructor
      · rintro ⟨holder, made, still⟩
        exact ⟨holder, made, still, fun one => same (own made one).1.symm⟩
      · rintro ⟨holder, made, still, _⟩
        exact ⟨holder, made, still⟩
  · rw [if_neg recorded, kept.table alive]
    constructor
    · rintro ⟨holder, made, still⟩
      refine ⟨holder, made, still, ?_⟩
      rintro rfl
      obtain ⟨rfl, rfl⟩ := own made rfl
      exact recorded ((kept.recorded_iff alive found active).2 made)
    · rintro ⟨holder, made, still, _⟩
      exact ⟨holder, made, still⟩

/-- The teardown of a session takes the entry with it that is the session's own, and no other. -/
theorem teardown (kept : w.Kept) (session : SessionRef) : (w.teardown session).1.Kept := by
  cases found : w.sessions[session]? with
  | none =>
    rw [teardown_missing found]
    exact kept
  | some s =>
    cases active : s.terminated with
    | true =>
      rw [teardown_terminated found active]
      exact (kept.emit rfl).emit rfl
    | false =>
      have retains := teardown_retains w session
      have activity := isActive_teardown w session
      have registry : ((w.emit (.asked session .destroy none)).terminate session).manager =
        .registry := kept.registry
      have attachments : (w.teardown session).1.attachments = w.attachments := by
        obtain ⟨last, fate, tells⟩ := tells_teardown found active
        rw [tells.attachments]
        cases fate with
        | disconnected => rfl
        | abandoned => rfl
      have engaged : (w.teardown session).1.engaged = w.engaged := by
        cases alive : w.alive with
        | false =>
          rw [teardown_managerDropped found active alive]
          rfl
        | true =>
          simp only [teardown_forwarded found active alive, managerDisconnect_registry registry]
          exact engaged_registryDisconnect ..
      -- The table is looked at only while the manager is there.
      have clients (alive : w.alive = true) : (w.teardown session).1.clients =
          if w.clients.token? s.client = some s.token then w.clients.erase s.client
          else w.clients := by
        simp only [teardown_forwarded found active alive, managerDisconnect_registry registry]
        exact clients_registryDisconnect ..
      refine ⟨retains.manager.trans kept.registry, engaged.trans kept.idle,
        kept.provenance.transfer retains.identities retains.tokens retains.minted attachments, ?_⟩
      intro alive client token
      rw [World.alive, retains.held, engaged] at alive
      rw [clients alive, World.attachment?, attachments]
      simp only [activity]
      exact kept.table_terminate alive found active client token

theorem dropOwner (kept : w.Kept) {owner : Name} {effect : Effect}
    (done : w.dropOwner owner = some effect) : effect.world.Kept := by
  have left : (w.disown owner).Kept := kept.reown _
  obtain ⟨session, _, ⟨_, rfl⟩ | ⟨_, rfl⟩⟩ := dropOwner_cases done
  · exact left
  · rcases dropSession_cases (w.disown owner) session with
      ⟨_, same⟩ | ⟨_, same | same⟩
    · rw [same]
      exact left
    · rw [same]
      exact left.teardown session
    · rw [same]
      exact (left.emit rfl).teardown session

theorem conclude (kept : w.Kept) (session : SessionRef) : (w.conclude session).Kept := by
  refine kept.transfer (conclude_retains w session) ?_ (isActive_conclude w session) ?_ ?_
  all_goals
    unfold World.conclude
    split <;> rfl

theorem tokenNamed (kept : w.Kept) (name : Name) : (w.tokenNamed name).2.Kept := by
  refine ⟨?_, ?_, (kept.provenance.tokenNamed name).1, ?_⟩
  · rw [tokenNamed_eq]
    exact kept.registry
  · rw [tokenNamed_eq]
    exact kept.idle
  · rw [tokenNamed_eq]
    exact kept.table

/-- A token that was named is never the recorded one, so a disconnect that shows it is ignored. -/
theorem managerDisconnect (kept : w.Kept) {token : Token}
    (named : ∃ entry ∈ w.tokens, entry.2 = token) (client : ClientId) :
    (w.managerDisconnect none client token).1.Kept := by
  obtain ⟨task, receives⟩ := receives_managerDisconnect w none client token
  have clients := clients_registryDisconnect w none client token
  have engaged := engaged_registryDisconnect w none client token
  rw [managerDisconnect_registry kept.registry] at receives ⊢
  have retains := Retains.of_standing receives.standing
  refine ⟨retains.manager.trans kept.registry, engaged.trans kept.idle,
    kept.provenance.transfer retains.identities retains.tokens retains.minted
      receives.attachments, ?_⟩
  intro alive other recorded
  rw [World.alive, retains.held, engaged] at alive
  -- No name stands for the token of an attachment.
  have foreign : w.clients.token? client ≠ some token := by
    rw [Ne, kept.table alive]
    rintro ⟨session, latest, _⟩
    obtain ⟨entry, member, same⟩ := named
    exact kept.provenance.apart _ (mem_of_attachment? latest).1 entry member same
  rw [clients, if_neg foreign, World.attachment?, receives.attachments]
  simp only [isActive_of_standing receives.standing]
  exact kept.table alive other recorded

theorem transition (kept : w.Kept) {pushed : List Frame} (transition : w.Transition next pushed) :
    next.Kept := by
  cases transition with
  | internal internal => exact kept.aside internal.aside
  | attach done =>
    obtain ⟨_, _, aside | ⟨client, attaches⟩⟩ := attach_cases done
    · exact kept.aside aside
    · exact kept.attaches attaches
  | session done => exact kept.makeSession done
  | share owned free => exact kept.reown _
  | drop done => exact kept.dropOwner done
  | teardown session => exact kept.teardown session
  | conclude session => exact kept.conclude session
  | request => exact kept.sessionRequest ..
  | specifier => exact kept.sessionSpecifier ..
  | dropManager =>
    refine ⟨kept.registry, kept.idle, kept.provenance.transfer rfl rfl rfl rfl, ?_⟩
    -- Nothing is claimed of the table once the manager is gone.
    simp [World.alive, kept.idle]
  | managerDisconnect client token =>
    exact (kept.tokenNamed token).managerDisconnect (kept.provenance.tokenNamed token).2 client
  | managerRequest => exact kept.managerRequest ..
  | managerSpecifier => exact kept.managerSpecifier ..
  | returned =>
    -- No call on this manager is ever left to return from.
    have engaged : w.disengage.engaged = w.engaged := by simp [disengage, kept.idle]
    exact kept.transfer ⟨rfl, rfl, rfl, rfl, rfl, rfl⟩ engaged (fun _ => rfl) rfl rfl

end Kept

structure TableLive (w : World) : Prop where
  attached : ∀ client, w.clients.isAttached client = true ↔ ∃ session token,
    w.attachment? client = some ⟨client, session, token⟩ ∧
      w.isOwned session = true ∧ w.isActive session = true
  recorded : ∀ client token, w.clients.token? client = some token → ∃ session s,
    w.attachment? client = some ⟨client, session, token⟩ ∧ w.sessions[session]? = some s ∧
      s.client = client ∧ s.token = token
  distinct : ∀ client other token, w.clients.token? client = some token →
    w.clients.token? other = some token → client = other
  listed : ∃ clients, w.attachedClients = some clients ∧
    (clients.Pairwise fun a b => a.value < b.value) ∧
    ∀ client, client ∈ clients ↔ w.clients.isAttached client = true

theorem Kept.live {w : World} (kept : w.Kept) (tended : w.Tended) (alive : w.alive = true) :
    w.TableLive := by
  constructor
  · intro client
    rw [ClientTable.isAttached, Option.isSome_iff_exists]
    constructor
    · rintro ⟨token, recorded⟩
      obtain ⟨session, latest, active⟩ := (kept.table alive client token).1 recorded
      exact ⟨session, token, latest, tended.owned session active, active⟩
    · rintro ⟨session, token, latest, _, active⟩
      exact ⟨token, (kept.table alive client token).2 ⟨session, latest, active⟩⟩
  · intro client token recorded
    obtain ⟨session, latest, _⟩ := (kept.table alive client token).1 recorded
    obtain ⟨s, found, same⟩ := kept.provenance.holder _ (mem_of_attachment? latest).1
    exact ⟨session, s, latest, found, same⟩
  · intro client other token recorded same
    obtain ⟨_, latest, _⟩ := (kept.table alive client token).1 recorded
    obtain ⟨_, others, _⟩ := (kept.table alive other token).1 same
    have one := kept.provenance.eq_of_token (mem_of_attachment? latest).1
      (mem_of_attachment? others).1 rfl
    exact congrArg Attachment.client one
  · refine ⟨w.clients.clients, ?_, w.clients.clients_ascending, fun _ => ClientTable.mem_clients⟩
    have held : w.held = true := by simpa [World.alive, kept.idle] using alive
    simp [attachedClients, held, kept.registry, ManagerKind.isRegistry]

theorem SessionChange.attachments {w next : World} {pushed : List Frame}
    (changes : w.SessionChange next pushed) :
    next.attachments = w.attachments ∨ ∃ s, s.terminated = false ∧
      next.sessions = w.sessions ++ [s] ∧
      next.attachments = ⟨s.client, w.sessions.length, s.token⟩ :: w.attachments := by
  cases changes with
  | still _ tells | made _ _ _ tells | direct _ _ tells | passed _ _ _ _ _ _ _ _ _ _ tells
  | late _ _ _ _ _ tells | concluded _ _ _ _ tells => exact .inl tells.attachments
  | attached s active sessions tells => exact .inr ⟨s, active, sessions, tells.attachments⟩
  | refused _ _ _ _ _ _ _ _ world _ =>
    rw [world]
    exact .inl (tells_refuse ..).attachments
  | torn _ _ _ _ _ _ _ _ warning fate tells =>
    refine .inl (tells.attachments.trans ?_)
    cases fate with
    | disconnected | abandoned => rcases warning with rfl | rfl <;> rfl

end World

namespace Run

theorem Reachable.kept {service : Service} {r : Run}
    (reachable : Reachable .registry service r) : r.world.Kept :=
  reachable.keeps (World.kept_initial service) fun kept transition => kept.transition transition

def twice : Service := { attach := [{ verdict := .number 7 }, { verdict := .number 7 }] }

/-- When the first session of the client is destroyed, the entry of the second one stays. -/
def attachedTwice : World :=
  (World.initial .registry twice).takeAll [.attach "first", .attach "second", .destroy "first"]

end Run

end Proximity
