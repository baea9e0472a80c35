import Proximity.Proofs.SessionChanges

/-! What attaches have made, and where the tokens of sessions come from: no two attachments have one
token, and no token that a run can name is that of an attachment. -/

set_option autoImplicit false

namespace Proximity

structure Attachment where
  client : ClientId
  session : SessionRef
  token : Token

def Occurrence.attachment? : Occurrence → Option Attachment
  | .attached client session token => some ⟨client, session, token⟩
  | _ => none

theorem Occurrence.attachment?_of_isInternal {o : Occurrence} (internal : o.isInternal = true) :
    o.attachment? = none := by
  cases o <;> first | rfl | cases internal

namespace World

def attachments (w : World) : List Attachment := w.trace.filterMap Occurrence.attachment?

def attachment? (w : World) (client : ClientId) : Option Attachment :=
  w.attachments.find? fun a => a.client = client

theorem Tells.attachments {w next : World} {facts : List Occurrence} (tells : w.Tells next facts) :
    next.attachments = facts.filterMap Occurrence.attachment? ++ w.attachments :=
  tells.filterMap fun _ => Occurrence.attachment?_of_isInternal

theorem Aside.attachments {w next : World} (aside : w.Aside next) :
    next.attachments = w.attachments :=
  aside.tells.attachments

theorem Receives.attachments {w next : World} {origin : Option SessionRef} {call : ManagerCall}
    (receives : w.Receives next origin call) : next.attachments = w.attachments :=
  receives.tells.attachments

theorem Attaches.attachments {w next : World} {as : Name} {client : ClientId}
    (attaches : w.Attaches next as client) :
    next.attachments = ⟨client, w.sessions.length, ⟨w.minted⟩⟩ :: w.attachments :=
  attaches.tells.attachments

theorem mem_of_attachment? {w : World} {client : ClientId} {a : Attachment}
    (latest : w.attachment? client = some a) : a ∈ w.attachments ∧ a.client = client := by
  refine ⟨List.mem_of_find?_eq_some latest, ?_⟩
  simpa using List.find?_some latest

/-! ### Where tokens come from -/

/-- Every session has a token that was named or its own from an attach, and no token is both or
belongs to two attachments. -/
structure Provenance (w : World) : Prop where
  holder : ∀ a ∈ w.attachments,
    ∃ s, w.sessions[a.session]? = some s ∧ s.client = a.client ∧ s.token = a.token
  source : ∀ session s, w.sessions[session]? = some s →
    (∃ entry ∈ w.tokens, entry.2 = s.token) ∨ ⟨s.client, session, s.token⟩ ∈ w.attachments
  apart : ∀ a ∈ w.attachments, ∀ entry ∈ w.tokens, entry.2 ≠ a.token
  unlike : w.attachments.Pairwise fun a b => a.token ≠ b.token
  attachedMinted : ∀ a ∈ w.attachments, a.token.mint < w.minted
  namedMinted : ∀ entry ∈ w.tokens, entry.2.mint < w.minted

namespace Provenance

variable {w next : World}

theorem initial (manager : ManagerKind) (service : Service) :
    (World.initial manager service).Provenance := by
  constructor <;> simp [World.initial, World.attachments]

theorem transfer (provenance : w.Provenance)
    (identities : next.sessions.map Session.identity = w.sessions.map Session.identity)
    (tokens : next.tokens = w.tokens) (minted : next.minted = w.minted)
    (attachments : next.attachments = w.attachments) : next.Provenance := by
  constructor
  · rw [attachments]
    intro a member
    obtain ⟨s, found, client, token⟩ := provenance.holder a member
    obtain ⟨now, foundNow, same⟩ := exists_identity identities found
    exact ⟨now, foundNow, (congrArg Identity.client same).trans client,
      (congrArg Identity.token same).trans token⟩
  · rw [tokens, attachments]
    intro session s found
    obtain ⟨before, foundBefore, same⟩ := exists_identity identities.symm found
    have client : before.client = s.client := congrArg Identity.client same
    have token : before.token = s.token := congrArg Identity.token same
    rw [← client, ← token]
    exact provenance.source session before foundBefore
  · rw [attachments, tokens]
    exact provenance.apart
  · rw [attachments]
    exact provenance.unlike
  · rw [attachments, minted]
    exact provenance.attachedMinted
  · rw [tokens, minted]
    exact provenance.namedMinted

theorem eq_of_token (provenance : w.Provenance) {a b : Attachment} (first : a ∈ w.attachments)
    (second : b ∈ w.attachments) (same : a.token = b.token) : a = b := by
  -- Unlike tokens are stated one way round, for earlier and later; members come in any order.
  have forward : w.attachments.Pairwise fun a b => a.token = b.token → a = b :=
    provenance.unlike.imp fun unequal same => absurd same unequal
  have backward : w.attachments.Pairwise fun a b => b.token = a.token → b = a :=
    provenance.unlike.imp fun unequal same => absurd same.symm unequal
  exact List.Pairwise.forall_of_forall_of_flip (fun _ _ _ => rfl) forward backward first second same

theorem lt_length (provenance : w.Provenance) {a : Attachment} (member : a ∈ w.attachments) :
    a.session < w.sessions.length := by
  obtain ⟨s, found, _⟩ := provenance.holder a member
  exact (List.getElem?_eq_some_iff.1 found).1

/-- A session that holds the token of an attachment is the one that was attached. -/
theorem eq_holder (provenance : w.Provenance) {session : SessionRef} {s : Session}
    (found : w.sessions[session]? = some s) {a : Attachment} (member : a ∈ w.attachments)
    (same : s.token = a.token) : session = a.session := by
  rcases provenance.source session s found with ⟨entry, named, equal⟩ | own
  · exact absurd (equal.trans same) (provenance.apart a member entry named)
  · have := provenance.eq_of_token own member same
    exact congrArg Attachment.session this

theorem tokenNamed (provenance : w.Provenance) (name : Name) :
    (w.tokenNamed name).2.Provenance ∧
      ∃ entry ∈ (w.tokenNamed name).2.tokens, entry.2 = (w.tokenNamed name).1 := by
  unfold World.tokenNamed
  split
  · rename_i token known
    obtain ⟨before, after, split, _⟩ := List.lookup_eq_some_iff.1 known
    exact ⟨provenance, (name, token), by simp [split], rfl⟩
  · have fresh : ∀ entry ∈ w.tokens ++ [(name, (⟨w.minted⟩ : Token))],
        entry ∈ w.tokens ∨ entry.2 = ⟨w.minted⟩ := by
      intro entry member
      rcases List.mem_append.1 member with member | member
      · exact .inl member
      · rw [List.mem_singleton.1 member]
        exact .inr rfl
    refine ⟨⟨provenance.holder, ?_, ?_, provenance.unlike, ?_, ?_⟩, (name, ⟨w.minted⟩),
      List.mem_append_right _ (List.mem_singleton_self _), rfl⟩
    · intro session s found
      refine (provenance.source session s found).imp ?_ id
      rintro ⟨entry, member, same⟩
      exact ⟨entry, List.mem_append_left _ member, same⟩
    · intro a member entry named
      have below := provenance.attachedMinted a member
      rcases fresh entry named with old | new
      · exact provenance.apart a member entry old
      · rw [new]
        intro same
        rw [← same] at below
        exact Nat.lt_irrefl _ below
    · intro a member
      exact Nat.lt_succ_of_lt (provenance.attachedMinted a member)
    · intro entry member
      rcases fresh entry member with old | new
      · exact Nat.lt_succ_of_lt (provenance.namedMinted entry old)
      · rw [new]
        exact Nat.lt_succ_self _

theorem addSession (provenance : w.Provenance) {client : ClientId} {token : Token}
    {dispatch : Target} (named : ∃ entry ∈ w.tokens, entry.2 = token) :
    (w.addSession client token dispatch).Provenance := by
  refine ⟨?_, ?_, provenance.apart, provenance.unlike, provenance.attachedMinted,
    provenance.namedMinted⟩
  · intro a member
    obtain ⟨s, found, same⟩ := provenance.holder a member
    have bound := provenance.lt_length member
    exact ⟨s, (List.getElem?_append_left bound).trans found, same⟩
  · intro session s found
    change (w.sessions ++ [_])[session]? = some s at found
    rcases getElem?_concat_eq_some found with old | ⟨_, rfl⟩
    · exact provenance.source session s old
    -- The new session is the one case in which the given name is needed.
    · exact .inl named

theorem attaches (provenance : w.Provenance) {as : Name} {client : ClientId}
    (attaches : w.Attaches next as client) : next.Provenance := by
  have sessions : next.sessions =
      w.sessions ++ [⟨client, ⟨w.minted⟩, defaultTarget, false, true⟩] :=
    congrArg Standing.sessions attaches.standing
  have tokens : next.tokens = w.tokens := congrArg Standing.tokens attaches.standing
  have minted : next.minted = w.minted + 1 := congrArg Standing.minted attaches.standing
  -- Tokens are numbered, and every one that is in use has a number that was given out before.
  have below {token : Token} (old : token.mint < w.minted) : token ≠ ⟨w.minted⟩ := by
    rintro rfl
    exact Nat.lt_irrefl _ old
  constructor
  · rw [attaches.attachments]
    intro a member
    rcases List.mem_cons.1 member with rfl | member
    · exact ⟨_, by rw [sessions, List.getElem?_concat_length], rfl, rfl⟩
    · obtain ⟨s, found, same⟩ := provenance.holder a member
      have bound := provenance.lt_length member
      exact ⟨s, by rw [sessions, List.getElem?_append_left bound, found], same⟩
  · rw [attaches.attachments, tokens, sessions]
    intro session s found
    rcases getElem?_concat_eq_some found with old | ⟨rfl, rfl⟩
    · exact (provenance.source session s old).imp id (List.mem_cons_of_mem _)
    · exact .inr (List.mem_cons_self ..)
  · rw [attaches.attachments, tokens]
    intro a member entry named
    rcases List.mem_cons.1 member with rfl | member
    · exact below (provenance.namedMinted entry named)
    · exact provenance.apart a member entry named
  · rw [attaches.attachments]
    refine List.pairwise_cons.2 ⟨?_, provenance.unlike⟩
    intro a member
    exact (below (provenance.attachedMinted a member)).symm
  · rw [attaches.attachments, minted]
    intro a member
    rcases List.mem_cons.1 member with rfl | member
    · exact Nat.lt_succ_self _
    · exact Nat.lt_succ_of_lt (provenance.attachedMinted a member)
  · rw [tokens, minted]
    intro entry member
    exact Nat.lt_succ_of_lt (provenance.namedMinted entry member)

end Provenance

end World

end Proximity
