import Proximity.Proofs.Standing

/-! What happens to sessions: they are made, owned, torn down once and never taken up again. All but
the two flags of a session stays as it was made. -/

set_option autoImplicit false

namespace Proximity

namespace World

theorem getElem?_concat_eq_some {α : Type} {l : List α} {last a : α} {i : Nat}
    (found : (l ++ [last])[i]? = some a) : l[i]? = some a ∨ i = l.length ∧ a = last := by
  rcases Nat.lt_or_ge i l.length with old | new
  · rw [List.getElem?_append_left old] at found
    exact .inl found
  · rw [List.getElem?_append_right new, List.getElem?_singleton] at found
    split at found
    · exact .inr ⟨by omega, (Option.some.inj found).symm⟩
    · cases found

structure Attaches (w next : World) (as : Name) (client : ClientId) : Prop where
  standing : next.standing = { w.standing with
    sessions := w.sessions ++ [{ client, token := ⟨w.minted⟩, dispatch := defaultTarget }]
    owners := w.owners ++ [(as, w.sessions.length)]
    minted := w.minted + 1 }
  clients : next.clients = w.clients.insert client ⟨w.minted⟩
  engaged : next.engaged = w.engaged
  tells : w.Tells next [.logged (.sessionCreated w.sessions.length client),
    .attached client w.sessions.length ⟨w.minted⟩]

theorem attach_cases {w : World} {as : Name} {effect : Effect}
    (done : w.attach as = some effect) :
    effect.frames = [] ∧ isTaken as w.owners = false ∧
      (w.Aside effect.world ∨ ∃ client, w.Attaches effect.world as client) := by
  unfold attach at done
  simp only at done
  split at done
  · cases done
  · rename_i possible
    have free : isTaken as w.owners = false := by
      cases taken : isTaken as w.owners with
      | false => rfl
      | true => simp [taken] at possible
    split at done
    · cases done
      refine ⟨rfl, free, .inl (.trans (Aside.emit (o := .called w.running .attach) rfl) ?_)⟩
      exact .silent rfl rfl rfl rfl
    · rename_i client _
      cases done
      refine ⟨rfl, free, .inr ⟨client, rfl, rfl, rfl, ?_⟩⟩
      exact ⟨[_, _, .logged (.clientAttached client), .called w.running .attach], rfl, rfl⟩

theorem tokenNamed_eq (w : World) (name : Name) :
    (w.tokenNamed name).2 = { w with
      tokens := (w.tokenNamed name).2.tokens
      minted := (w.tokenNamed name).2.minted } := by
  unfold tokenNamed
  split <;> rfl

theorem sessions_tokenNamed (w : World) (name : Name) :
    (w.tokenNamed name).2.sessions = w.sessions := by
  rw [tokenNamed_eq]

theorem makeSession_eq {w : World} {as : Name} {client : ClientId} {token : Name}
    {on : Option Target} {effect : Effect} (done : w.makeSession as client token on = some effect) :
    effect.frames = [] ∧ isTaken as w.owners = false ∧ effect.world =
      ((w.tokenNamed token).2.addSession client (w.tokenNamed token).1 (on.getD defaultTarget)).own
        as w.sessions.length := by
  unfold makeSession at done
  simp only at done
  split at done
  · cases done
  · rename_i possible
    cases done
    refine ⟨rfl, ?_, by rw [sessions_tokenNamed]⟩
    cases taken : isTaken as w.owners with
    | false => rfl
    | true => simp [taken] at possible

def disown (w : World) (owner : Name) : World := { w with owners := withoutName owner w.owners }

theorem dropOwner_eq {w : World} {owner : Name} {session : SessionRef}
    (owned : w.owned? owner = some session) : w.dropOwner owner = some
      (if (w.disown owner).isOwned session then { world := w.disown owner }
      else
        { world := ((w.disown owner).dropSession session).1
          frames := ((w.disown owner).dropSession session).2 }) := by
  simp only [dropOwner, owned, Option.bind_eq_bind, Option.bind_some]
  -- Both branches succeed, so the condition can be taken first.
  exact (apply_ite some _ _ _).symm

theorem dropOwner_cases {w : World} {owner : Name} {effect : Effect}
    (done : w.dropOwner owner = some effect) :
    ∃ session, w.owned? owner = some session ∧
      (((w.disown owner).isOwned session = true ∧ effect = { world := w.disown owner }) ∨
      ((w.disown owner).isOwned session = false ∧ effect =
        { world := ((w.disown owner).dropSession session).1
          frames := ((w.disown owner).dropSession session).2 })) := by
  cases owned : w.owned? owner with
  | none => simp [dropOwner, owned] at done
  | some session =>
    rw [dropOwner_eq owned] at done
    refine ⟨session, rfl, ?_⟩
    split at done
    · rename_i shared
      exact .inl ⟨shared, (Option.some.inj done).symm⟩
    · rename_i last
      exact .inr ⟨Bool.eq_false_iff.2 last, (Option.some.inj done).symm⟩

theorem isActive_eq_true {w : World} {session : SessionRef} :
    w.isActive session = true ↔
      ∃ s, w.sessions[session]? = some s ∧ s.terminated = false := by
  unfold isActive
  cases w.sessions[session]? <;> simp

theorem isActive_updateSession (w : World) (session other : SessionRef)
    (change : Session → Session) :
    (w.updateSession session change).isActive other =
      if session = other then (w.sessions[other]?).any fun s => !(change s).terminated
      else w.isActive other := by
  rw [isActive, getElem?_updateSession]
  split
  · cases w.sessions[other]? <;> rfl
  · rfl

@[simp] theorem isActive_terminate (w : World) (session other : SessionRef) :
    (w.terminate session).isActive other = (w.isActive other && decide (other ≠ session)) := by
  rw [terminate, isActive_updateSession]
  by_cases same : session = other
  · subst same
    cases w.sessions[session]? <;> simp
  · simp [same, Ne.symm same]

@[simp] theorem isActive_closeGuard (w : World) (session other : SessionRef) :
    (w.closeGuard session).isActive other = w.isActive other := by
  rw [closeGuard, isActive_updateSession]
  split
  · rfl
  · rfl

theorem identities_updateSession (w : World) (session : SessionRef) {change : Session → Session}
    (same : ∀ s, (change s).identity = s.identity) :
    (w.updateSession session change).sessions.map Session.identity =
      w.sessions.map Session.identity := by
  -- The change is at one place, so the lists are compared place by place.
  apply List.ext_getElem?
  intro i
  rw [List.getElem?_map, List.getElem?_map, getElem?_updateSession]
  split
  · cases w.sessions[i]? <;> simp [same]
  · rfl

theorem length_of_identities {w next : World}
    (identities : next.sessions.map Session.identity = w.sessions.map Session.identity) :
    next.sessions.length = w.sessions.length := by
  have same := congrArg List.length identities
  rwa [List.length_map, List.length_map] at same

theorem exists_identity {w next : World}
    (identities : next.sessions.map Session.identity = w.sessions.map Session.identity)
    {session : SessionRef} {s : Session} (found : w.sessions[session]? = some s) :
    ∃ now, next.sessions[session]? = some now ∧ now.identity = s.identity := by
  have same : (next.sessions[session]?).map Session.identity =
      (w.sessions[session]?).map Session.identity := by
    rw [← List.getElem?_map, identities, List.getElem?_map]
  rw [found] at same
  exact Option.map_eq_some_iff.1 same

structure Retains (w next : World) : Prop where
  manager : next.manager = w.manager
  held : next.held = w.held
  owners : next.owners = w.owners
  tokens : next.tokens = w.tokens
  minted : next.minted = w.minted
  identities : next.sessions.map Session.identity = w.sessions.map Session.identity

namespace Retains

variable {w next last : World}

theorem refl (w : World) : w.Retains w := ⟨rfl, rfl, rfl, rfl, rfl, rfl⟩

theorem trans (first : w.Retains next) (second : next.Retains last) : w.Retains last :=
  ⟨second.manager.trans first.manager, second.held.trans first.held,
    second.owners.trans first.owners, second.tokens.trans first.tokens,
    second.minted.trans first.minted, second.identities.trans first.identities⟩

theorem of_standing (standing : next.standing = w.standing) : w.Retains next :=
  ⟨congrArg Standing.manager standing, congrArg Standing.held standing,
    congrArg Standing.owners standing, congrArg Standing.tokens standing,
    congrArg Standing.minted standing,
    congrArg (fun standing => standing.sessions.map Session.identity) standing⟩

theorem emit (w : World) (o : Occurrence) : w.Retains (w.emit o) := of_standing rfl

theorem terminate (w : World) (session : SessionRef) : w.Retains (w.terminate session) :=
  ⟨rfl, rfl, rfl, rfl, rfl, identities_updateSession w session fun _ => rfl⟩

theorem closeGuard (w : World) (session : SessionRef) : w.Retains (w.closeGuard session) :=
  ⟨rfl, rfl, rfl, rfl, rfl, identities_updateSession w session fun _ => rfl⟩

theorem isOwned (retains : w.Retains next) (session : SessionRef) :
    next.isOwned session = w.isOwned session := by
  rw [World.isOwned, World.isOwned, retains.owners]

end Retains

theorem isActive_of_standing {w next : World} (standing : next.standing = w.standing)
    (session : SessionRef) : next.isActive session = w.isActive session := by
  rw [isActive, isActive, show next.sessions = w.sessions from congrArg Standing.sessions standing]

theorem isActive_of_sessions {w next : World} (sessions : next.sessions = w.sessions)
    (session : SessionRef) : next.isActive session = w.isActive session := by
  rw [isActive, isActive, sessions]

theorem managerDisconnect_standing (w : World) (origin : Option SessionRef) (client : ClientId)
    (token : Token) : (w.managerDisconnect origin client token).1.standing = w.standing :=
  (receives_managerDisconnect w origin client token).elim fun _ receives => receives.standing

theorem managerRequest_standing (w : World) (origin : Option SessionRef) (request : Request)
    (target : Target) : (w.managerRequest origin request target).1.standing = w.standing :=
  (receives_managerRequest w origin request target).elim fun _ receives => receives.standing

theorem managerSpecifier_standing (w : World) (origin : Option SessionRef) (client : ClientId)
    (role : Role) (peer token : Option Bytes) :
    (w.managerSpecifier origin client role peer token).2.1.standing = w.standing :=
  (receives_managerSpecifier w origin client role peer token).standing

theorem sessionRequest_standing (w : World) (session : SessionRef) (config : Config)
    (listener : Listener) (on : Option Target) :
    (w.sessionRequest session config listener on).1.standing = w.standing := by
  unfold sessionRequest
  split
  · rfl
  · simp only
    split
    · rw [(aside_releaseListener ..).standing]
      rfl
    · rw [managerRequest_standing]
      rfl

theorem sessionSpecifier_standing (w : World) (session : SessionRef) (role : Role)
    (peer token : Option Bytes) :
    (w.sessionSpecifier session role peer token).2.1.standing = w.standing := by
  unfold sessionSpecifier
  split
  · rfl
  · simp only
    split
    · rfl
    · rw [managerSpecifier_standing]
      rfl

theorem conclude_retains (w : World) (session : SessionRef) :
    w.Retains (w.conclude session) := by
  unfold conclude
  split
  · exact .refl w
  · exact (Retains.closeGuard w session).trans (.emit ..)

theorem isActive_conclude (w : World) (session other : SessionRef) :
    (w.conclude session).isActive other = w.isActive other := by
  unfold conclude
  split
  · rfl
  · exact isActive_closeGuard w session other

theorem teardown_retains (w : World) (session : SessionRef) :
    w.Retains (w.teardown session).1 := by
  cases found : w.sessions[session]? with
  | none =>
    rw [teardown_missing found]
    exact .refl w
  | some s =>
    cases active : s.terminated with
    | true =>
      rw [teardown_terminated found active]
      exact .of_standing rfl
    | false =>
      cases alive : w.alive with
      | false =>
        rw [teardown_managerDropped found active alive]
        exact (((Retains.emit w _).trans (.terminate ..)).trans (.emit ..)).trans (.closeGuard ..)
      | true =>
        rw [teardown_forwarded found active alive]
        -- The manager is told of a session that is terminated already.
        exact ((Retains.emit w _).trans (.terminate ..)).trans
          (.of_standing (managerDisconnect_standing ..))

/-- After its teardown a session is not active; others are as before. -/
theorem isActive_teardown (w : World) (session other : SessionRef) :
    (w.teardown session).1.isActive other =
      (w.isActive other && decide (other ≠ session)) := by
  cases found : w.sessions[session]? with
  | none =>
    rw [teardown_missing found]
    by_cases same : other = session
    · simp [same, isActive, found]
    · simp [same]
  | some s =>
    cases active : s.terminated with
    | true =>
      rw [teardown_terminated found active]
      by_cases same : other = session
      · simp [same, isActive, found, active, log, emit]
      · simp [same, isActive, log, emit]
    | false =>
      cases alive : w.alive with
      | false =>
        rw [teardown_managerDropped found active alive]
        exact (isActive_closeGuard ..).trans (isActive_terminate ..)
      | true =>
        rw [teardown_forwarded found active alive]
        exact (isActive_of_standing (managerDisconnect_standing ..) other).trans
          (isActive_terminate ..)

/-- Nothing happens to a session that was terminated; any other is torn down, perhaps after a
warning. -/
theorem dropSession_cases (w : World) (session : SessionRef) :
    (w.isActive session = false ∧ w.dropSession session = (w, [])) ∨
    (w.isActive session = true ∧
      (w.dropSession session = w.teardown session ∨
        w.dropSession session = (w.log (.sessionLeaked session)).teardown session)) := by
  unfold dropSession isActive
  cases found : w.sessions[session]? with
  | none => simp
  | some s =>
    cases active : s.terminated with
    | true => simp [active]
    | false =>
      refine .inr ⟨by simp [active], ?_⟩
      cases guarded : s.guarded with
      | true => exact .inr (by simp [active, guarded])
      | false => exact .inl (by simp [active, guarded])

theorem dropSession_retains (w : World) (session : SessionRef) :
    w.Retains (w.dropSession session).1 := by
  rcases dropSession_cases w session with ⟨_, same⟩ | ⟨_, same | same⟩
  · rw [same]
    exact .refl w
  · rw [same]
    exact teardown_retains w session
  · rw [same]
    exact (Retains.emit w _).trans (teardown_retains ..)

theorem isActive_dropSession (w : World) (session other : SessionRef) :
    (w.dropSession session).1.isActive other =
      (w.isActive other && decide (other ≠ session)) := by
  rcases dropSession_cases w session with ⟨inactive, same⟩ | ⟨_, same | same⟩
  · rw [same]
    by_cases equal : other = session
    · simp [equal, inactive]
    · simp [equal]
  · rw [same]
    exact isActive_teardown w session other
  · rw [same]
    exact isActive_teardown (w.log (.sessionLeaked session)) session other

theorem isActive_append {w next : World} {s : Session} (active : s.terminated = false)
    (sessions : next.sessions = w.sessions ++ [s]) (session : SessionRef) :
    next.isActive session = true ↔
      w.isActive session = true ∨ session = w.sessions.length := by
  simp only [isActive_eq_true, sessions]
  constructor
  · rintro ⟨found, here, still⟩
    rcases getElem?_concat_eq_some here with old | ⟨last, _⟩
    · exact .inl ⟨found, old, still⟩
    · exact .inr last
  · rintro (⟨found, old, still⟩ | rfl)
    · have made := (List.getElem?_eq_some_iff.1 old).1
      exact ⟨found, by rw [List.getElem?_append_left made, old], still⟩
    · exact ⟨s, List.getElem?_concat_length, active⟩

theorem isOwned_append {w next : World} {entry : Name × SessionRef}
    (owners : next.owners = w.owners ++ [entry]) (session : SessionRef) :
    next.isOwned session = true ↔ w.isOwned session = true ∨ entry.2 = session := by
  simp [isOwned, owners]

end World

end Proximity
