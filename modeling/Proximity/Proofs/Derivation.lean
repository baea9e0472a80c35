import Proximity.Proofs.LiveTable
import Proximity.Proofs.SpecifierText

/-! What comes of asking a session for a network specifier. There are four faults, looked at in one
order, and each is logged once; without a fault the text says what was asked for, and no other call
has the same answer. -/

set_option autoImplicit false

namespace Proximity

namespace Specifier

theorem checked_eq_ok {client : ClientId} {role : Role} {peer token : Option Bytes} {s : Specifier}
    (checked : checked client role peer token = .ok s) :
    (∀ address ∈ peer, address.length = 6) ∧ s = { role, clientId := client, peer, token } := by
  cases peer with
  | none =>
    cases checked
    exact ⟨by simp, rfl⟩
  | some address =>
    simp only [Specifier.checked] at checked
    split at checked
    · rename_i fits
      cases checked
      exact ⟨by simpa [addressLength] using fits, rfl⟩
    · cases checked

theorem checked_eq_error {client : ClientId} {role : Role} {peer token : Option Bytes}
    {length : Nat} (checked : checked client role peer token = .error length) :
    ∃ address, peer = some address ∧ address.length ≠ 6 ∧ length = address.length := by
  cases peer with
  | none => cases checked
  | some address =>
    simp only [Specifier.checked] at checked
    split at checked
    · cases checked
    · rename_i wrong
      cases checked
      exact ⟨address, rfl, wrong, rfl⟩

theorem encode_ne_empty (s : Specifier) : String.ofList s.encode ≠ "" := by
  intro empty
  have none : s.encode = [] := by simpa using congrArg String.toList empty
  cases none

end Specifier

namespace World

structure Derivable (w : World) (s : Session) (peer : Option Bytes) : Prop where
  held : w.held = true
  active : s.terminated = false
  attached : w.clients.isAttached s.client = true
  length : ∀ address ∈ peer, address.length = 6

inductive Derives (w : World) (session : SessionRef) (s : Session) (role : Role)
    (peer token : Option Bytes) : String → List Notice → Prop where
  | dropped (gone : w.held = false) : w.Derives session s role peer token ""
      [.callRefused session s.client .specifier .managerDropped]
  | terminated (held : w.held = true) (terminated : s.terminated = true) :
      w.Derives session s role peer token ""
        [.callRefused session s.client .specifier .terminated]
  | unknown (held : w.held = true) (active : s.terminated = false)
      (unknown : w.clients.isAttached s.client = false) :
      w.Derives session s role peer token "" [.specifierUnknown s.client]
  | wrongLength (held : w.held = true) (active : s.terminated = false)
      (attached : w.clients.isAttached s.client = true) {address : Bytes}
      (given : peer = some address) (wrong : address.length ≠ 6) :
      w.Derives session s role peer token ""
        [.specifierFailed s.client role (.invalidPeerAddress address.length)]
  | derived (derivable : w.Derivable s peer) :
      w.Derives session s role peer token
        (String.ofList (Specifier.encode { role, clientId := s.client, peer, token })) []

/-- Nothing but the trace changes, no service is called, and this is logged, the latest first. -/
def Logs (w next : World) (notices : List Notice) : Prop :=
  ∃ told, next = { w with trace := told ++ w.trace } ∧ told.filterMap Occurrence.notice? = notices ∧
    ∀ running call, .called running call ∉ told

namespace Logs

variable {w next : World} {notices : List Notice}

theorem refl (w : World) : w.Logs w [] := ⟨[], rfl, rfl, by simp⟩

theorem log (logs : w.Logs next notices) (notice : Notice) :
    w.Logs (next.log notice) (notice :: notices) := by
  obtain ⟨told, rfl, rfl, uncalled⟩ := logs
  exact ⟨.logged notice :: told, rfl, rfl, by simpa using uncalled⟩

theorem asked (logs : w.Logs next notices) (session : SessionRef) (call : SessionCall)
    (refusal : Option Refusal) : w.Logs (next.emit (.asked session call refusal)) notices := by
  obtain ⟨told, rfl, rfl, uncalled⟩ := logs
  exact ⟨.asked session call refusal :: told, rfl, rfl, by simpa using uncalled⟩

theorem received (logs : w.Logs next notices) (origin : Option SessionRef)
    (running : Option Target) (call : ManagerCall) :
    w.Logs (next.emit (.received origin running call)) notices := by
  obtain ⟨told, rfl, rfl, uncalled⟩ := logs
  exact ⟨.received origin running call :: told, rfl, rfl, by simpa using uncalled⟩

end Logs

variable {w next : World} {session : SessionRef} {s : Session}

theorem registrySpecifier_derives (session : SessionRef) (held : w.held = true)
    (active : s.terminated = false) (logs : w.Logs next []) (origin : Option SessionRef)
    (role : Role) (peer token : Option Bytes) :
    ∃ text last notices, next.registrySpecifier origin s.client role peer token = (text, last) ∧
      w.Derives session s role peer token text notices ∧ w.Logs last notices := by
  have table : next.clients = w.clients := by
    obtain ⟨_, rfl, _⟩ := logs
    rfl
  have received := logs.received origin next.running (.specifier s.client role peer token)
  cases attached : w.clients.isAttached s.client with
  | false =>
    refine ⟨_, _, _, ?_, .unknown held active attached, received.log _⟩
    simp [registrySpecifier, emit, table, attached]
  | true =>
    cases checked : Specifier.checked s.client role peer token with
    | error length =>
      obtain ⟨address, given, wrong, rfl⟩ := Specifier.checked_eq_error checked
      refine ⟨_, _, _, ?_, .wrongLength held active attached given wrong, received.log _⟩
      simp [registrySpecifier, emit, table, attached, checked]
    | ok specifier =>
      obtain ⟨fits, rfl⟩ := Specifier.checked_eq_ok checked
      refine ⟨_, _, _, ?_, .derived ⟨held, active, attached, fits⟩, received⟩
      simp [registrySpecifier, emit, table, attached, checked]

theorem sessionSpecifier_derives (registry : w.manager = .registry) (idle : w.engaged = 0)
    (found : w.sessions[session]? = some s) (role : Role) (peer token : Option Bytes) :
    ∃ text next notices, w.sessionSpecifier session role peer token = (text, next, []) ∧
      w.Derives session s role peer token text notices ∧ w.Logs next notices := by
  have alive : w.alive = w.held := by simp [alive, idle]
  have logs := (Logs.refl w).asked session (.specifier role peer token)
  cases held : w.held with
  | false =>
    refine ⟨_, _, _, ?_, .dropped held, (logs (some .managerDropped)).log _⟩
    simp [sessionSpecifier, found, refusal?, alive, held]
  | true =>
    cases active : s.terminated with
    | true =>
      refine ⟨_, _, _, ?_, .terminated held active, (logs (some .terminated)).log _⟩
      simp [sessionSpecifier, found, refusal?, alive, held, active]
    | false =>
      obtain ⟨text, last, notices, answer, derives, logged⟩ :=
        registrySpecifier_derives session held active (logs none) (some session) role peer token
      refine ⟨text, last, notices, ?_, derives, logged⟩
      have here : (w.emit (.asked session (.specifier role peer token) none)).manager = .registry :=
        registry
      simp [sessionSpecifier, found, refusal?, alive, held, active, managerSpecifier, here, answer]

namespace Derives

variable {role : Role} {peer token : Option Bytes} {text : String} {notices : List Notice}

theorem eq_text (derives : w.Derives session s role peer token text notices)
    (answered : text ≠ "") : w.Derivable s peer ∧ notices = [] ∧
      text = String.ofList (Specifier.encode { role, clientId := s.client, peer, token }) := by
  cases derives with
  | derived derivable => exact ⟨derivable, rfl, rfl⟩
  | dropped | terminated | unknown | wrongLength => exact absurd rfl answered

theorem ne_empty (derives : w.Derives session s role peer token text notices)
    (derivable : w.Derivable s peer) : text ≠ "" := by
  cases derives with
  | dropped gone => simp [derivable.held] at gone
  | terminated _ terminated => simp [derivable.active] at terminated
  | unknown _ _ unknown => simp [derivable.attached] at unknown
  | wrongLength _ _ _ given wrong => exact absurd (derivable.length _ given) wrong
  | derived => exact Specifier.encode_ne_empty _

theorem one_notice (derives : w.Derives session s role peer token text notices)
    (empty : text = "") : ∃ notice, notices = [notice] ∧ notice.level =
      if w.held = true ∧ s.terminated = false ∧ w.clients.isAttached s.client = true then .error
      else .warn := by
  cases derives with
  | dropped gone => exact ⟨_, rfl, by simp [gone, Notice.level]⟩
  | terminated _ terminated => exact ⟨_, rfl, by simp [terminated, Notice.level]⟩
  | unknown _ _ unknown => exact ⟨_, rfl, by simp [unknown, Notice.level]⟩
  | wrongLength held active attached =>
    exact ⟨_, rfl, by simp [held, active, attached, Notice.level]⟩
  | derived => exact absurd empty (Specifier.encode_ne_empty _)

end Derives

structure Derivation (w : World) (s : Session) (role : Role) (peer token : Option Bytes)
    (text : String) (next : World) : Prop where
  answers : text ≠ "" ↔ w.Derivable s peer
  parsed : text ≠ "" →
    Specifier.parse text.toList = .ok { role, clientId := s.client, peer, token }
  silent : text ≠ "" → w.Logs next []
  /-- A call without an answer logs why, and that is all it does. -/
  logged : text = "" → ∃ notice, w.Logs next [notice] ∧ notice.level =
    if w.held = true ∧ s.terminated = false ∧ w.clients.isAttached s.client = true then .error
    else .warn

theorem Derives.derivation {role : Role} {peer token : Option Bytes} {text : String}
    {notices : List Notice} (derives : w.Derives session s role peer token text notices)
    (logs : w.Logs next notices) : w.Derivation s role peer token text next where
  answers := ⟨fun answered => (derives.eq_text answered).1, derives.ne_empty⟩
  parsed answered := by
    rw [(derives.eq_text answered).2.2, String.toList_ofList]
    exact Specifier.roundTrips.reads _
  silent answered := by
    rw [← (derives.eq_text answered).2.1]
    exact logs
  logged empty := by
    obtain ⟨notice, rfl, level⟩ := derives.one_notice empty
    exact ⟨notice, logs, level⟩

end World

namespace Run

variable {service : Service} {r : Run} {session : SessionRef} {s : Session}

theorem Reachable.derives (reachable : Reachable .registry service r)
    (found : r.world.sessions[session]? = some s) (role : Role) (peer token : Option Bytes) :
    ∃ text next notices, r.world.sessionSpecifier session role peer token = (text, next, []) ∧
      r.world.Derives session s role peer token text notices ∧ r.world.Logs next notices :=
  World.sessionSpecifier_derives reachable.kept.registry reachable.kept.idle found role peer token

/-- A session answers a call for a specifier as long as its manager is there, its client is attached
and the address has the right length. The text says what was asked for and for which client, so
calls that have one answer asked for the same; nothing else comes of a call but the notice of one
that failed. -/
theorem Reachable.specifier_derivation (reachable : Reachable .registry service r)
    (found : r.world.sessions[session]? = some s) (role : Role) (peer token : Option Bytes) :
    ∃ text next, r.world.sessionSpecifier session role peer token = (text, next, []) ∧
      r.world.Derivation s role peer token text next ∧
      ∀ {service' : Service} {r' : Run} {session' : SessionRef} {s' : Session},
        Reachable .registry service' r' → r'.world.sessions[session']? = some s' →
        ∀ role' peer' token' text' next',
          r'.world.sessionSpecifier session' role' peer' token' = (text', next', []) →
          text ≠ "" → text' ≠ "" → (text = text' ↔
            s.client = s'.client ∧ role = role' ∧ peer = peer' ∧ token = token') := by
  obtain ⟨text, next, notices, answer, derives, logs⟩ := reachable.derives found role peer token
  refine ⟨text, next, answer, derives.derivation logs, ?_⟩
  intro service' r' session' s' reachable' found' role' peer' token' text' next' answer' answered
    answered'
  obtain ⟨_, _, _, again, derives', _⟩ := reachable'.derives found' role' peer' token'
  cases answer'.symm.trans again
  obtain ⟨_, _, rfl⟩ := derives.eq_text answered
  obtain ⟨_, _, rfl⟩ := derives'.eq_text answered'
  constructor
  · intro same
    have one := Specifier.roundTrips.injective (String.ofList_injective same)
    simp only [Specifier.mk.injEq] at one
    obtain ⟨_, roles, clients, peers, tokens⟩ := one
    exact ⟨clients, roles, peers, tokens⟩
  · rintro ⟨clients, rfl, rfl, rfl⟩
    rw [clients]

def second : Session := { client := ⟨7⟩, token := ⟨1⟩, dispatch := .main }

theorem specifier_derivation_attachedTwice :
    Reachable .registry twice ⟨attachedTwice, []⟩ ∧ attachedTwice.sessions[1]? = some second ∧
      ∃ text next, attachedTwice.sessionSpecifier 1 .responder none (some []) = (text, next, []) ∧
        text ≠ "" ∧ attachedTwice.Derivation second .responder none (some []) text next := by
  have reached : Reachable .registry twice ⟨attachedTwice, []⟩ := .scenario .registry _
  have found : attachedTwice.sessions[1]? = some second := rfl
  obtain ⟨text, next, answer, derivation, _⟩ :=
    reached.specifier_derivation found .responder none (some [])
  have derivable : attachedTwice.Derivable second none :=
    ⟨by decide +kernel, rfl, by decide +kernel, by simp⟩
  exact ⟨reached, found, text, next, answer, derivation.answers.2 derivable, derivation⟩

end Run

end Proximity
