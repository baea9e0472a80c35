import Mathlib.Data.List.Nodup
import Proximity.Proofs.Sessions

/-! Who owns a session. The last owner takes the session with it, so no session is active that
nobody owns. -/

set_option autoImplicit false

namespace Proximity

namespace World

structure Tended (w : World) : Prop where
  named : (w.owners.map (·.1)).Nodup
  made : ∀ entry ∈ w.owners, entry.2 < w.sessions.length
  owned : ∀ session, w.isActive session = true → w.isOwned session = true

theorem tended_initial (manager : ManagerKind) (service : Service) :
    (World.initial manager service).Tended := by
  constructor <;> simp [World.initial, isActive]

theorem not_mem_names {α : Type} {entries : List (Name × α)} {as : Name}
    (free : isTaken as entries = false) : as ∉ entries.map (·.1) := by
  intro member
  obtain ⟨entry, here, rfl⟩ := List.mem_map.1 member
  have absent : entries.lookup entry.1 = none := by simpa [isTaken] using free
  -- A name that is not found by a lookup is on no entry.
  have unequal := List.lookup_eq_none_iff.1 absent entry here
  simp at unequal

theorem nodup_concat {α : Type} {entries : List (Name × α)} {as : Name} {value : α}
    (named : (entries.map (·.1)).Nodup) (free : isTaken as entries = false) :
    ((entries ++ [(as, value)]).map (·.1)).Nodup := by
  rw [List.map_append, List.nodup_append]
  refine ⟨named, by simp, ?_⟩
  intro name member other last
  rw [List.mem_singleton.1 last]
  rintro rfl
  exact not_mem_names free member

namespace Tended

variable {w next : World}

theorem lt_length (tended : w.Tended) {owner : Name} {session : SessionRef}
    (found : w.owned? owner = some session) : session < w.sessions.length := by
  obtain ⟨before, after, split, _⟩ := List.lookup_eq_some_iff.1 found
  exact tended.made (owner, session) (by simp [split])

theorem transfer (tended : w.Tended) (owners : next.owners = w.owners)
    (length : next.sessions.length = w.sessions.length)
    (active : ∀ session, next.isActive session = true → w.isActive session = true) :
    next.Tended := by
  constructor
  · rw [owners]
    exact tended.named
  · rw [owners, length]
    exact tended.made
  · intro session now
    rw [isOwned, owners]
    exact tended.owned session (active session now)

theorem transfer_standing (tended : w.Tended) (standing : next.standing = w.standing) :
    next.Tended := by
  refine tended.transfer (congrArg Standing.owners standing)
    (congrArg (·.sessions.length) standing) ?_
  intro session now
  rw [← isActive_of_standing standing]
  exact now

theorem own (tended : w.Tended) {as : Name} {session : SessionRef}
    (free : isTaken as w.owners = false) (owners : next.owners = w.owners ++ [(as, session)])
    (longer : w.sessions.length ≤ next.sessions.length) (made : session < next.sessions.length)
    (active : ∀ other, next.isActive other = true → w.isActive other = true ∨ other = session) :
    next.Tended := by
  constructor
  · rw [owners]
    exact nodup_concat tended.named free
  · rw [owners]
    intro entry member
    rcases List.mem_append.1 member with old | new
    · exact Nat.lt_of_lt_of_le (tended.made entry old) longer
    · rw [List.mem_singleton.1 new]
      exact made
  · intro other now
    rw [isOwned_append owners]
    exact (active other now).imp (tended.owned other) Eq.symm

theorem isOwned_disown (tended : w.Tended) {owner : Name} {session other : SessionRef}
    (found : w.owned? owner = some session) (different : other ≠ session)
    (owned : w.isOwned other = true) :
    (w.disown owner).isOwned other = true := by
  obtain ⟨entry, member, holds⟩ := List.any_eq_true.1 owned
  refine List.any_eq_true.2 ⟨entry, List.mem_filter.2 ⟨member, ?_⟩, holds⟩
  obtain ⟨before, after, split, _⟩ := List.lookup_eq_some_iff.1 found
  have named : (owner, session) ∈ w.owners := by simp [split]
  simp only [decide_eq_true_eq] at holds ⊢
  -- Two owners of one name are one, and own the same session.
  intro same
  have equal : entry = (owner, session) :=
    List.inj_on_of_nodup_map tended.named member named same
  rw [equal] at holds
  exact different holds.symm

theorem nodup_withoutName (tended : w.Tended) (owner : Name) :
    ((withoutName owner w.owners).map (·.1)).Nodup :=
  tended.named.sublist (List.filter_sublist.map _)

theorem drop (tended : w.Tended) {owner : Name} {effect : Effect}
    (done : w.dropOwner owner = some effect) : effect.world.Tended := by
  obtain ⟨session, found, ⟨shared, rfl⟩ | ⟨last, rfl⟩⟩ := dropOwner_cases done
  · refine ⟨tended.nodup_withoutName owner, fun entry left =>
      tended.made entry (List.mem_of_mem_filter left), ?_⟩
    intro other active
    by_cases same : other = session
    · exact same ▸ shared
    · exact tended.isOwned_disown found same (tended.owned other active)
  · have retains := dropSession_retains
      (w.disown owner) session
    constructor
    · rw [retains.owners]
      exact tended.nodup_withoutName owner
    · rw [retains.owners, length_of_identities retains.identities]
      exact fun entry left => tended.made entry (List.mem_of_mem_filter left)
    · intro other active
      rw [isActive_dropSession, Bool.and_eq_true, decide_eq_true_eq] at active
      rw [retains.isOwned]
      -- Only the session itself could lose its last owner, and it is not active any more.
      exact tended.isOwned_disown found active.2 (tended.owned other active.1)

theorem transition (tended : w.Tended) {pushed : List Frame}
    (transition : w.Transition next pushed) : next.Tended := by
  cases transition with
  | internal internal => exact tended.transfer_standing internal.aside.standing
  | @attach as effect done =>
    obtain ⟨_, free, aside | ⟨client, attaches⟩⟩ := attach_cases done
    · exact tended.transfer_standing aside.standing
    · have sessions := congrArg Standing.sessions attaches.standing
      have length : effect.world.sessions.length = w.sessions.length + 1 := by
        rw [show effect.world.sessions = _ from sessions, List.length_append]
        rfl
      refine tended.own free (congrArg Standing.owners attaches.standing) ?_ ?_
        fun other => (isActive_append rfl sessions other).1
      · rw [length]
        exact Nat.le_succ _
      · rw [length]
        exact Nat.lt_succ_self _
  | @session as client token on effect done =>
    obtain ⟨_, free, made⟩ := makeSession_eq done
    rw [made]
    have sessions := congrArg (· ++ [(⟨client, (w.tokenNamed token).1, on.getD defaultTarget, false,
      true⟩ : Session)]) (sessions_tokenNamed w token)
    refine tended.own free (by rw [World.own, World.addSession, tokenNamed_eq]; rfl) ?_ ?_
      fun other => (isActive_append (w := w) rfl sessions other).1
    all_goals
      simp [World.own, World.addSession, World.log, World.emit, sessions_tokenNamed]
  | share owned free =>
    exact tended.own free rfl (Nat.le_refl _) (tended.lt_length owned) fun _ => .inl
  | drop done => exact tended.drop done
  | teardown session =>
    have retains := teardown_retains w session
    apply tended.transfer retains.owners (length_of_identities retains.identities)
    intro other active
    rw [isActive_teardown, Bool.and_eq_true] at active
    exact active.1
  | conclude session =>
    have retains := conclude_retains w session
    apply tended.transfer retains.owners (length_of_identities retains.identities)
    intro other active
    rwa [isActive_conclude] at active
  | request => exact tended.transfer_standing (sessionRequest_standing ..)
  | specifier => exact tended.transfer_standing (sessionSpecifier_standing ..)
  | dropManager => exact tended.transfer rfl rfl fun _ => id
  | managerDisconnect client token =>
    have standing := managerDisconnect_standing (w.tokenNamed token).2 none client
      (w.tokenNamed token).1
    refine Tended.transfer_standing
      (tended.transfer (by rw [tokenNamed_eq]) (by rw [tokenNamed_eq]) ?_) standing
    intro other active
    rwa [isActive, sessions_tokenNamed] at active
  | managerRequest => exact tended.transfer_standing (managerRequest_standing ..)
  | managerSpecifier => exact tended.transfer_standing (managerSpecifier_standing ..)
  | returned => exact tended.transfer rfl rfl fun _ => id

end Tended

end World

theorem Run.Reachable.tended {manager : ManagerKind} {service : Service} {r : Run}
    (reachable : Run.Reachable manager service r) : r.world.Tended :=
  reachable.keeps (World.tended_initial manager service) fun tended transition =>
    tended.transition transition

end Proximity
