import Proximity.Proofs.Race

/-! A session that is given up undestroyed is reported, and no other. The guard that decides over
the report is open for as long as the session is not terminated, except inside a call of `destroy`,
and nobody can drop the session there and find it active. -/

set_option autoImplicit false

namespace Proximity

def Occurrence.leaked? : Occurrence → Option SessionRef
  | .logged (.sessionLeaked session) => some session
  | _ => none

theorem Occurrence.leaked?_of_isInternal {o : Occurrence} (internal : o.isInternal = true) :
    o.leaked? = none := by
  cases o with
  | logged notice => cases notice <;> first | rfl | cases internal
  | _ => rfl

theorem Occurrence.leaked?_eq_some {o : Occurrence} {session : SessionRef} :
    o.leaked? = some session ↔ o = .logged (.sessionLeaked session) := by
  constructor
  · intro read
    cases o with
    | logged notice =>
      cases notice with
      | sessionLeaked =>
        cases read
        rfl
      | _ => cases read
    | _ => cases read
  · rintro rfl
    rfl

namespace World

/-- Whether a session is terminated, and whether its guard is open. -/
def flags? (w : World) (session : SessionRef) : Option (Bool × Bool) :=
  (w.sessions[session]?).map fun s => (s.terminated, s.guarded)

def leaks (w : World) (session : SessionRef) : Nat :=
  (w.trace.filterMap Occurrence.leaked?).count session

variable {w next : World} {pushed : List Frame} {session : SessionRef}

/-! ### The two flags -/

theorem flags?_of_sessions (sessions : next.sessions = w.sessions) (session : SessionRef) :
    next.flags? session = w.flags? session := by
  rw [flags?, flags?, sessions]

theorem flags?_of_standing (standing : next.standing = w.standing) (session : SessionRef) :
    next.flags? session = w.flags? session :=
  flags?_of_sessions (congrArg Standing.sessions standing) session

theorem flags?_terminate (w : World) (session other : SessionRef) :
    (w.terminate session).flags? other =
      if session = other then (w.flags? other).map fun flags => (true, flags.2)
      else w.flags? other := by
  rw [flags?, terminate, getElem?_updateSession]
  split
  · rw [flags?, Option.map_map, Option.map_map]
    rfl
  · rfl

theorem flags?_closeGuard (w : World) (session other : SessionRef) :
    (w.closeGuard session).flags? other =
      if session = other then (w.flags? other).map fun flags => (flags.1, false)
      else w.flags? other := by
  rw [flags?, closeGuard, getElem?_updateSession]
  split
  · rw [flags?, Option.map_map, Option.map_map]
    rfl
  · rfl

theorem flags?_conclude (w : World) (session other : SessionRef) :
    (w.conclude session).flags? other =
      if session = other then (w.flags? other).map fun flags => (flags.1, false)
      else w.flags? other := by
  unfold conclude
  split
  · rename_i missing
    split
    · rename_i same
      rw [← same, flags?, missing]
      rfl
    · rfl
  · exact flags?_closeGuard w session other

theorem flags?_append {s : Session} (active : s.terminated = false) (guarded : s.guarded = true)
    (sessions : next.sessions = w.sessions ++ [s]) (session : SessionRef) :
    next.flags? session = w.flags? session ∨ next.flags? session = some (false, true) := by
  rw [flags?, flags?, sessions, List.getElem?_append]
  split
  · exact .inl rfl
  · rename_i new
    rw [List.getElem?_singleton]
    split
    · simp [active, guarded]
    · rw [List.getElem?_eq_none (Nat.not_lt.1 new)]
      exact .inl rfl

theorem isActive_of_flags? {guarded : Bool} (flags : w.flags? session = some (false, guarded)) :
    w.isActive session = true := by
  obtain ⟨s, found, same⟩ := Option.map_eq_some_iff.1 flags
  exact isActive_eq_true.2 ⟨s, found, congrArg Prod.fst same⟩

/-- What a step does to the flags of a session: nothing, or it is new, or torn down, and then its
guard is closed at once unless its manager has yet to return. -/
inductive Guards (w next : World) (pushed : List Frame) (session : SessionRef) : Prop where
  | stays (flags : next.flags? session = w.flags? session)
      (quiet : session ∉ pushed.filterMap Frame.conclude?)
  | made (flags : next.flags? session = some (false, true))
      (quiet : session ∉ pushed.filterMap Frame.conclude?)
  | closed (guarded : Bool) (before : w.flags? session = some (false, guarded))
      (flags : next.flags? session = some (true, false))
      (quiet : session ∉ pushed.filterMap Frame.conclude?)
  | told (guarded : Bool) (before : w.flags? session = some (false, guarded))
      (flags : next.flags? session = some (true, guarded))
      (begun : session ∈ pushed.filterMap Frame.conclude?)

theorem Guards.of_sessions {before : World} (guards : before.Guards next pushed session)
    (sessions : before.sessions = w.sessions) : w.Guards next pushed session := by
  have same := flags?_of_sessions sessions session
  cases guards with
  | stays flags quiet => exact .stays (flags.trans same) quiet
  | made flags quiet => exact .made flags quiet
  | closed guarded active flags quiet => exact .closed guarded (same ▸ active) flags quiet
  | told guarded active flags begun => exact .told guarded (same ▸ active) flags begun

theorem guards_of_standing (standing : next.standing = w.standing) (inert : Frame.Inert pushed) :
    w.Guards next pushed session :=
  .stays (flags?_of_standing standing session) (by rw [inert]; exact List.not_mem_nil)

theorem guards_append {s : Session} (active : s.terminated = false) (guarded : s.guarded = true)
    (sessions : next.sessions = w.sessions ++ [s]) : w.Guards next [] session := by
  rcases flags?_append active guarded sessions session with same | new
  · exact .stays same List.not_mem_nil
  · exact .made new List.not_mem_nil

theorem guards_teardown (w : World) (torn session : SessionRef) :
    w.Guards (w.teardown torn).1 (w.teardown torn).2 session := by
  cases found : w.sessions[torn]? with
  | none =>
    rw [teardown_missing found]
    exact .stays rfl List.not_mem_nil
  | some s =>
    cases active : s.terminated with
    | true =>
      rw [teardown_terminated found active]
      exact .stays rfl List.not_mem_nil
    | false =>
      have flags : w.flags? torn = some (false, s.guarded) := by rw [flags?, found, ← active]; rfl
      cases alive : w.alive with
      | false =>
        rw [teardown_managerDropped found active alive]
        have logged (notice : Notice) : (((w.emit (.asked torn .destroy (some .managerDropped))
            ).terminate torn).log notice).flags? session = (w.terminate torn).flags? session := rfl
        by_cases own : torn = session
        · subst own
          refine .closed s.guarded flags ?_ List.not_mem_nil
          rw [flags?_closeGuard, if_pos rfl, logged, flags?_terminate, if_pos rfl, flags]
          rfl
        · refine .stays ?_ List.not_mem_nil
          rw [flags?_closeGuard, if_neg own, logged, flags?_terminate, if_neg own]
      | true =>
        rw [teardown_forwarded found active alive]
        have after : (((w.emit (.asked torn .destroy none)).terminate torn).managerDisconnect
            (some torn) s.client s.token).1.flags? session = (w.terminate torn).flags? session :=
          flags?_of_standing (managerDisconnect_standing ..) session
        have frames : (((w.emit (.asked torn .destroy none)).terminate torn).managerDisconnect
            (some torn) s.client s.token).2.filterMap Frame.conclude? = [] :=
          inert_managerDisconnect ..
        rw [flags?_terminate] at after
        by_cases own : torn = session
        · subst own
          refine .told s.guarded flags (after.trans ?_) ?_
          · rw [if_pos rfl, flags]
            rfl
          · simp [List.filterMap_append, Frame.conclude?]
        · refine .stays (after.trans (if_neg own)) ?_
          simp [List.filterMap_append, frames, Frame.conclude?, Ne.symm own]

theorem guards_drop {owner : Name} {effect : Effect} (done : w.dropOwner owner = some effect) :
    w.Guards effect.world effect.frames session := by
  obtain ⟨dropped, _, ⟨_, rfl⟩ | ⟨_, rfl⟩⟩ := dropOwner_cases done
  · exact .stays rfl List.not_mem_nil
  · rcases dropSession_cases (w.disown owner) dropped with ⟨_, same⟩ | ⟨_, same | same⟩
    · simp only [same]
      exact .stays rfl List.not_mem_nil
    · simp only [same]
      exact (guards_teardown (w.disown owner) dropped session).of_sessions rfl
    · simp only [same]
      exact (guards_teardown ((w.disown owner).log (.sessionLeaked dropped)) dropped
        session).of_sessions rfl

theorem guards_act? {nested : Bool} {step : Step} {effect : Effect}
    (done : w.act? nested step = some effect) : w.Guards effect.world effect.frames session := by
  cases step with
  | attach as =>
    obtain ⟨frames, _, aside | ⟨client, attaches⟩⟩ := attach_cases done
    · exact guards_of_standing aside.standing (by rw [frames]; rfl)
    · rw [frames]
      exact guards_append rfl rfl (congrArg Standing.sessions attaches.standing)
  | session as client token on =>
    obtain ⟨frames, _, made⟩ := makeSession_eq done
    rw [frames, made]
    exact guards_append (w := w) rfl rfl (congrArg (· ++ [_]) (sessions_tokenNamed w token))
  | share owner as =>
    simp only [act?, Option.bind_eq_bind, Option.bind_eq_some_iff] at done
    obtain ⟨shared, _, done⟩ := done
    split at done <;> cases done
    exact .stays rfl List.not_mem_nil
  | drop owner => exact guards_drop done
  | destroy owner =>
    simp only [act?, Option.bind_eq_bind, Option.bind_eq_some_iff] at done
    obtain ⟨torn, _, done⟩ := done
    cases done
    exact guards_teardown w torn session
  | request owner config callback on =>
    simp only [act?, Option.bind_eq_bind, Option.bind_eq_some_iff] at done
    obtain ⟨asked, _, listener, _, done⟩ := done
    cases done
    exact guards_of_standing (sessionRequest_standing ..) (inert_sessionRequest ..)
  | specifier owner role peer token =>
    simp only [act?, Option.bind_eq_bind, Option.bind_eq_some_iff] at done
    obtain ⟨asked, _, done⟩ := done
    cases done
    exact guards_of_standing (sessionSpecifier_standing ..) (inert_sessionSpecifier ..)
  | dropManager =>
    simp only [act?] at done
    split at done <;> cases done
    exact .stays rfl List.not_mem_nil
  | managerDisconnect client token =>
    simp only [act?] at done
    split at done <;> cases done
    refine (guards_of_standing (managerDisconnect_standing ..)
      (inert_managerDisconnect ..)).of_sessions (sessions_tokenNamed w token)
  | managerRequest client config callback on =>
    simp only [act?] at done
    split at done
    · simp only [Option.bind_eq_bind, Option.bind_eq_some_iff] at done
      obtain ⟨listener, _, done⟩ := done
      cases done
      exact guards_of_standing (managerRequest_standing ..) (inert_managerRequest ..)
    · cases done
  | managerSpecifier client role peer token =>
    simp only [act?] at done
    split at done <;> cases done
    exact guards_of_standing (managerSpecifier_standing ..) (inert_managerSpecifier ..)
  | _ =>
    have internal := internal_of_act? rfl done
    exact guards_of_standing internal.aside.standing internal.inert

theorem guards_perform (w : World) (nested : Bool) (step : Step) (session : SessionRef) :
    w.Guards (w.perform nested step).world (w.perform nested step).frames session := by
  unfold perform
  cases done : w.act? nested step with
  | none => exact .stays rfl List.not_mem_nil
  | some effect => exact guards_act? done

end World

namespace Run

variable {r next : Run}

/-- A move returns from a disconnect, or it does to the flags what a step does, and no disconnect
returns. -/
theorem Next.guards (moves : r.Next next) :
    (∃ session outer, r.frames = .conclude session :: outer ∧
      next = ⟨r.world.conclude session, outer⟩) ∨
    ∃ pushed left, (∀ session, r.world.Guards next.world pushed session) ∧
      next.frames = pushed ++ left ∧ left.filterMap Frame.conclude? = r.concluding := by
  have still {w after : World} {session : SessionRef} (sessions : after.sessions = w.sessions) :
      w.Guards after [] session :=
    .stays (World.flags?_of_sessions sessions session) List.not_mem_nil
  cases moves with
  | step idle step =>
    have frames := (tick_eq_none.1 idle).1
    refine .inr ⟨_, [], fun session => World.guards_perform .., (List.append_nil _).symm, ?_⟩
    rw [concluding, frames]
  | tick ticked =>
    unfold Run.tick at ticked
    unfold Run.concluding
    split at ticked
    · rename_i frames
      cases ticked
      exact .inr ⟨_, _, fun session => World.guards_perform .., rfl, by rw [frames]; rfl⟩
    · rename_i frames
      cases ticked
      exact .inr ⟨[], _, fun session => still rfl, rfl, by rw [frames]; rfl⟩
    · rename_i frames
      cases ticked
      exact .inr ⟨_, _, fun session => World.guards_teardown .., rfl, by rw [frames]; rfl⟩
    · rename_i frames
      cases ticked
      refine .inr ⟨_, _, fun session => ?_, rfl, by rw [frames]; rfl⟩
      exact World.guards_of_standing (World.sessionRequest_standing ..)
        (World.inert_sessionRequest ..)
    · rename_i frames
      cases ticked
      exact .inl ⟨_, _, frames, rfl⟩
    · rename_i frames
      cases ticked
      exact .inr ⟨_, _, fun session => World.guards_perform .., rfl, by rw [frames]; rfl⟩
    · rename_i frames
      cases ticked
      exact .inr ⟨[], _, fun session => still rfl, rfl, by rw [frames]; rfl⟩
    · rename_i frames
      split at ticked
      · cases ticked
      · rename_i running
        split at ticked
        · cases ticked
          exact .inr ⟨[], [], fun session => still rfl, rfl, by rw [frames]⟩
        · rename_i popped
          cases ticked
          have internal := World.InternalTransition.run running popped
          exact .inr ⟨_, [], fun session =>
            World.guards_of_standing internal.aside.standing internal.inert,
            (List.append_nil _).symm, by rw [frames]⟩

/-- The guard of a session is open as long as the session is not terminated or its manager has not
returned. -/
def Guarded (r : Run) : Prop := ∀ session terminated guarded,
  r.world.flags? session = some (terminated, guarded) →
    (guarded = true ↔ terminated = false ∨ session ∈ r.concluding)

/-- A session that is concluded has its guard closed, and is inside no other disconnect. -/
theorem Guarded.conclude {session : SessionRef} {outer : List Frame} (guarded : r.Guarded)
    (nested : r.Nested) (frames : r.frames = .conclude session :: outer) :
    Guarded ⟨r.world.conclude session, outer⟩ := by
  have concluding : r.concluding = session :: outer.filterMap Frame.conclude? := by
    rw [Run.concluding, frames]
    rfl
  intro other terminated open_ flags
  change (r.world.conclude session).flags? other = _ at flags
  change _ ↔ _ ∨ other ∈ outer.filterMap Frame.conclude?
  rw [World.flags?_conclude] at flags
  by_cases own : session = other
  · subst own
    rw [if_pos rfl] at flags
    obtain ⟨before, found, same⟩ := Option.map_eq_some_iff.1 flags
    obtain ⟨rfl, rfl⟩ := Prod.mk.inj same
    have set : before.1 = true := by
      have ended := nested.terminated session (concluding ▸ List.mem_cons_self ..)
      obtain ⟨s, there, terminated⟩ := Caller.isTerminated_iff.1 ended
      rw [World.flags?, there] at found
      rw [← Option.some.inj found]
      exact terminated
    have once : session ∉ outer.filterMap Frame.conclude? :=
      (List.nodup_cons.1 (concluding ▸ nested.nodup)).1
    simp [set, once]
  · rw [if_neg own] at flags
    rw [guarded other terminated open_ flags, concluding, List.mem_cons]
    simp [Ne.symm own]

theorem Guarded.kept (guarded : r.Guarded) (nested : r.Nested) (moves : r.Next next) :
    next.Guarded := by
  rcases moves.guards with ⟨session, outer, frames, rfl⟩ | ⟨pushed, left, guards, frames, kept⟩
  · exact guarded.conclude nested frames
  · intro session terminated open_ flags
    have concluding : session ∈ next.concluding ↔
        session ∈ pushed.filterMap Frame.conclude? ∨ session ∈ r.concluding := by
      rw [Run.concluding, frames, List.filterMap_append, kept, List.mem_append]
    rw [concluding]
    cases guards session with
    | stays same quiet => simp [quiet, guarded session terminated open_ (same ▸ flags)]
    | made new quiet =>
      cases new.symm.trans flags
      simp
    | closed before active now quiet =>
      cases now.symm.trans flags
      have inactive : session ∉ r.concluding := fun member => by
        have ended := World.inactive_of_isTerminated (nested.terminated session member)
        cases (World.isActive_of_flags? active).symm.trans ended
      simp [quiet, inactive]
    | told before active now begun =>
      have opened := (guarded session false before active).2 (.inl rfl)
      subst opened
      cases now.symm.trans flags
      simp [begun]

theorem Reachable.guarded {manager : ManagerKind} {service : Service}
    (reachable : Reachable manager service r) : r.Guarded := by
  induction reachable with
  | start =>
    intro session terminated guarded flags
    cases flags
  | next earlier moves ih => exact Guarded.kept ih earlier.nested moves

end Run

namespace World

variable {w next : World} {pushed : List Frame} {session : SessionRef}

/-! ### What is reported -/

theorem Tells.leaks {facts : List Occurrence} (tells : w.Tells next facts) (session : SessionRef) :
    next.leaks session = (facts.filterMap Occurrence.leaked?).count session + w.leaks session := by
  rw [World.leaks, tells.filterMap fun _ => Occurrence.leaked?_of_isInternal, List.count_append]
  rfl

theorem Tells.leaks_of_quiet {facts : List Occurrence} (tells : w.Tells next facts)
    (quiet : facts.filterMap Occurrence.leaked? = []) (session : SessionRef) :
    next.leaks session = w.leaks session := by
  simp [tells.leaks, quiet]

theorem leaked_iff (trace : next.trace = w.newly next ++ w.trace) :
    .logged (.sessionLeaked session) ∈ w.newly next ↔ w.leaks session < next.leaks session := by
  have counts : next.leaks session =
      ((w.newly next).filterMap Occurrence.leaked?).count session + w.leaks session := by
    rw [leaks, trace, List.filterMap_append, List.count_append]
    rfl
  rw [counts, Nat.lt_add_left_iff_pos, List.count_pos_iff, List.mem_filterMap]
  simp [Occurrence.leaked?_eq_some]

theorem Fate.leaks {alive : Bool} {running : Option Target} {torn : SessionRef} {s : Session}
    {last : Occurrence} (fate : Fate alive running torn s last) (refusal : Option Refusal)
    (warned : List Occurrence) :
    (last :: .asked torn .destroy refusal :: warned).filterMap Occurrence.leaked? =
      warned.filterMap Occurrence.leaked? := by
  cases fate with
  | disconnected | abandoned => rfl

theorem leaks_teardown (w : World) (torn session : SessionRef) :
    (w.teardown torn).1.leaks session = w.leaks session := by
  cases found : w.sessions[torn]? with
  | none => rw [teardown_missing found]
  | some s =>
    cases active : s.terminated with
    | true =>
      rw [teardown_terminated found active]
      rfl
    | false =>
      obtain ⟨last, fate, tells⟩ := tells_teardown found active
      exact tells.leaks_of_quiet (fate.leaks ..) session

theorem leaks_conclude (w : World) (concluded session : SessionRef) :
    (w.conclude concluded).leaks session = w.leaks session := by
  unfold conclude
  split
  · rfl
  · rfl

/-- A transition reports no session, or one that was active and is torn down. -/
theorem SessionChange.leaks (changes : w.SessionChange next pushed) (session : SessionRef) :
    next.leaks session = w.leaks session ∨ (w.isActive session = true ∧
      next.isTerminated session = true ∧ next.leaks session = w.leaks session + 1) := by
  cases changes with
  | still _ tells | made _ _ _ tells | attached _ _ _ tells | direct _ _ tells
  | passed _ _ _ _ _ _ _ _ _ _ tells | late _ _ _ _ _ tells | concluded _ _ _ _ tells =>
    exact .inl (tells.leaks_of_quiet rfl session)
  | refused _ _ _ _ _ _ _ _ same =>
    subst same
    exact .inl ((tells_refuse ..).leaks_of_quiet rfl session)
  | torn torn s warned last found active identities activity warning fate tells =>
    rcases warning with rfl | rfl
    · exact .inl (tells.leaks_of_quiet (fate.leaks ..) session)
    · have counted := tells.leaks session
      rw [fate.leaks] at counted
      by_cases own : session = torn
      · subst own
        have made := (List.getElem?_eq_some_iff.1 found).1
        refine .inr ⟨isActive_eq_true.2 ⟨s, found, active⟩,
          isTerminated_of_inactive identities made (by simp [activity]), ?_⟩
        rw [counted, Nat.add_comm]
        simp [Occurrence.leaked?]
      · refine .inl (counted.trans ?_)
        simp [Occurrence.leaked?, Ne.symm own]

theorem SessionChange.destroyed (changes : w.SessionChange next pushed) {refusal : Option Refusal}
    (asked : .asked session .destroy refusal ∈ w.newly next) :
    next.isTerminated session = true := by
  cases changes with
  | still _ tells | made _ _ _ tells | attached _ _ _ tells | direct _ _ tells
  | concluded _ _ _ _ tells => simpa using (tells.mem_newly rfl).1 asked
  | passed _ _ call _ _ _ _ asks _ _ tells =>
    obtain ⟨-, rfl, -⟩ : _ ∧ SessionCall.destroy = call ∧ _ := by
      simpa using (tells.mem_newly rfl).1 asked
    cases asks
  | refused _ _ call _ _ _ _ asks same =>
    subst same
    obtain ⟨-, rfl, -⟩ : _ ∧ SessionCall.destroy = call ∧ _ := by
      simpa using ((tells_refuse ..).mem_newly rfl).1 asked
    cases asks
  | late other s found terminated sessions tells =>
    obtain ⟨rfl, -⟩ : session = other ∧ _ := by simpa using (tells.mem_newly rfl).1 asked
    rw [World.isTerminated, sessions, found]
    exact terminated
  | torn torn s warned last found _ identities activity warning fate tells =>
    have member := (tells.mem_newly rfl).1 asked
    obtain ⟨rfl, -⟩ : session = torn ∧ refusal = w.loss? := by
      cases fate with
      | disconnected | abandoned => rcases warning with rfl | rfl <;> simpa using member
    have made := (List.getElem?_eq_some_iff.1 found).1
    exact isTerminated_of_inactive identities made (by simp [activity])

structure Accounted (w : World) : Prop where
  once : ∀ session, w.leaks session ≤ (w.isTerminated session).toNat
  asked : ∀ session refusal, .asked session .destroy refusal ∈ w.trace →
    w.isTerminated session = true

theorem accounted_initial (manager : ManagerKind) (service : Service) :
    (World.initial manager service).Accounted :=
  ⟨fun _ => Nat.zero_le _, fun _ _ asked => nomatch asked⟩

theorem Accounted.sessionChange (accounted : w.Accounted) (changes : w.SessionChange next pushed) :
    next.Accounted := by
  constructor
  · intro session
    have bound := accounted.once session
    rcases changes.leaks session with same | ⟨active, ended, more⟩
    · cases before : w.isTerminated session with
      | false =>
        rw [before] at bound
        rw [same]
        exact Nat.le_trans bound (Nat.zero_le _)
      | true => rwa [same, (changes.fall session).isTerminated before, ← before]
    · rw [unterminated_of_isActive active] at bound
      rw [ended, more]
      exact Nat.succ_le_succ bound
  · intro session refusal asked
    rw [changes.trace] at asked
    rcases List.mem_append.1 asked with new | old
    · exact changes.destroyed new
    · exact (changes.fall session).isTerminated (accounted.asked session refusal old)

theorem Transition.disowned (transition : w.Transition next pushed) (tended : w.Tended)
    (owned : w.isOwned session = true) (gone : next.isOwned session = false) :
    ∃ owner, w.owned? owner = some session ∧ (w.disown owner).isOwned session = false ∧
      next = ((w.disown owner).dropSession session).1 ∧
      pushed = ((w.disown owner).dropSession session).2 := by
  have still (owners : next.owners = w.owners) : False := by
    rw [isOwned, owners, ← isOwned, owned] at gone
    cases gone
  have more {entry : Name × SessionRef} (owners : next.owners = w.owners ++ [entry]) : False := by
    rw [Bool.eq_false_iff, Ne, isOwned_append owners] at gone
    exact gone (.inl owned)
  have standing (same : next.standing = w.standing) : False :=
    still (congrArg Standing.owners same)
  cases transition with
  | internal internal => exact (standing internal.aside.standing).elim
  | attach done =>
    obtain ⟨_, _, aside | ⟨client, attaches⟩⟩ := attach_cases done
    · exact (standing aside.standing).elim
    · exact (more (congrArg Standing.owners attaches.standing)).elim
  | session done =>
    obtain ⟨_, _, made⟩ := makeSession_eq done
    exact (more (by rw [made, World.own, addSession, tokenNamed_eq]; rfl)).elim
  | share => exact (more rfl).elim
  | @drop owner effect done =>
    obtain ⟨dropped, found, ⟨shared, rfl⟩ | ⟨last, rfl⟩⟩ := dropOwner_cases done
    · by_cases own : session = dropped
      · subst own
        cases shared.symm.trans gone
      · rw [show (World.isOwned _ session) = _ from tended.isOwned_disown found own owned] at gone
        cases gone
    · have kept := (dropSession_retains (w.disown owner) dropped).isOwned session
      by_cases own : session = dropped
      · subst own
        exact ⟨owner, found, last, rfl, rfl⟩
      · rw [kept, tended.isOwned_disown found own owned] at gone
        cases gone
  | teardown torn => exact (still (teardown_retains w torn).owners).elim
  | conclude concluded => exact (still (conclude_retains w concluded).owners).elim
  | request => exact (standing (sessionRequest_standing ..)).elim
  | specifier => exact (standing (sessionSpecifier_standing ..)).elim
  | dropManager | returned => exact (still rfl).elim
  | managerDisconnect client token =>
    refine (still ?_).elim
    refine (congrArg Standing.owners (managerDisconnect_standing ..)).trans ?_
    rw [tokenNamed_eq]
    rfl
  | managerRequest => exact (standing (managerRequest_standing ..)).elim
  | managerSpecifier => exact (standing (managerSpecifier_standing ..)).elim

theorem dropSession_guarded (flags : w.flags? session = some (false, true)) :
    w.dropSession session = (w.log (.sessionLeaked session)).teardown session := by
  obtain ⟨s, found, same⟩ := Option.map_eq_some_iff.1 flags
  obtain ⟨active, guarded⟩ := Prod.mk.inj same
  simp [dropSession, found, active, guarded]

theorem dropSession_inactive (inactive : w.isActive session = false) :
    w.dropSession session = (w, []) := by
  rcases dropSession_cases w session with ⟨_, same⟩ | ⟨active, _⟩
  · exact same
  · rw [inactive] at active
    cases active

/-- The guard of a session is open if and only if the session is not terminated. -/
def Watched (w : World) (session : SessionRef) : Prop :=
  ∀ s, w.sessions[session]? = some s → (s.guarded = true ↔ s.terminated = false)

theorem watched_iff : w.Watched session ↔ ∀ terminated guarded,
    w.flags? session = some (terminated, guarded) → (guarded = true ↔ terminated = false) := by
  constructor
  · intro watched terminated guarded flags
    obtain ⟨s, found, same⟩ := Option.map_eq_some_iff.1 flags
    obtain ⟨rfl, rfl⟩ := Prod.mk.inj same
    exact watched s found
  · intro law s found
    exact law s.terminated s.guarded (by rw [flags?, found]; rfl)

theorem Watched.of_flags? (watched : w.Watched session)
    (flags : next.flags? session = w.flags? session) : next.Watched session :=
  watched_iff.2 fun terminated guarded now => watched_iff.1 watched terminated guarded (flags ▸ now)

/-- A call of `destroy` that nobody meets leaves the guard closed or as it was. -/
theorem Watched.destroyed (watched : w.Watched session) :
    (w.destroyed session).1.Watched session := by
  cases live : w.isLive session with
  | false =>
    simp only [World.destroyed, live, Bool.false_eq_true, if_false]
    cases guards_teardown w session session with
    | stays flags => exact watched.of_flags? flags
    | made flags | closed _ _ flags =>
      rw [watched_iff]
      intro terminated guarded now
      cases flags.symm.trans now
      simp
    | told guarded before _ begun =>
      -- It has told nobody, for there is no manager.
      have active := isActive_of_flags? before
      rw [isLive, active, Bool.and_true] at live
      obtain ⟨s, found, active⟩ := isActive_eq_true.1 active
      rw [teardown_managerDropped found active live] at begun
      cases begun
  | true =>
    simp only [World.destroyed, live, if_true]
    rw [watched_iff, flags?_conclude, if_pos rfl]
    intro terminated guarded now
    obtain ⟨flags, torn, same⟩ := Option.map_eq_some_iff.1 now
    obtain ⟨rfl, rfl⟩ := Prod.mk.inj same
    have ended : (w.teardown session).1.isActive session = false := by simp [isActive_teardown]
    cases set : flags.1 with
    | true => simp
    | false =>
      rw [isActive_of_flags? (torn.trans (congrArg some (Prod.ext set rfl)))] at ended
      cases ended

theorem leaks_destroyed (w : World) (session : SessionRef) :
    (w.destroyed session).1.leaks session = w.leaks session := by
  unfold World.destroyed
  simp only
  split
  · exact (leaks_conclude ..).trans (leaks_teardown ..)
  · exact leaks_teardown ..

theorem Agrees.leaks {a b : World} (agrees : a.Agrees b) (session : SessionRef) :
    a.leaks session = b.leaks session := by
  rw [World.leaks, World.leaks, agrees.filterMap fun o unseen => ?_]
  cases o with
  | logged notice => cases notice <;> first | rfl | cases unseen
  | _ => rfl

/-- What is reported of a session that is given up undestroyed: nobody has destroyed it before, and
the report comes before the teardown. -/
structure Reports (w next : World) (session : SessionRef) : Prop where
  undestroyed : ∀ refusal, .asked session .destroy refusal ∉ w.trace
  order : ∃ s last, w.sessions[session]? = some s ∧ Fate w.alive w.running session s last ∧
    w.Tells next [last, .asked session .destroy w.loss?, .logged (.sessionLeaked session)]

end World

namespace Run

variable {r next : Run} {manager : ManagerKind} {service : Service} {session : SessionRef}

theorem Guarded.watched (guarded : r.Guarded) (outside : session ∉ r.concluding) :
    r.world.Watched session := by
  rw [World.watched_iff]
  intro terminated open_ flags
  simp [guarded session terminated open_ flags, outside]

theorem Guarded.opened (guarded : r.Guarded) (active : r.world.isActive session = true) :
    r.world.flags? session = some (false, true) := by
  obtain ⟨s, found, active⟩ := World.isActive_eq_true.1 active
  have flags : r.world.flags? session = some (false, s.guarded) := by
    rw [World.flags?, found, ← active]
    rfl
  rw [flags, (guarded session false s.guarded flags).2 (.inl rfl)]

theorem Reachable.accounted (reachable : Reachable manager service r) : r.world.Accounted :=
  reachable.keeps (World.accounted_initial manager service) fun accounted transition =>
    accounted.sessionChange transition.sessionChange

theorem Reachable.leaked (reachable : Reachable manager service r) (moves : r.Next next)
    (told : .logged (.sessionLeaked session) ∈ r.world.newly next.world) :
    r.world.isOwned session = true ∧ next.world.isOwned session = false ∧
      r.world.isActive session = true := by
  obtain ⟨_, _, transition, _⟩ := moves.transition
  have changes := transition.sessionChange
  have more := (World.leaked_iff changes.trace).1 told
  rcases changes.leaks session with same | ⟨active, ended, _⟩
  · exact absurd same (Nat.ne_of_gt more)
  have inactive := World.inactive_of_isTerminated ended
  have owned := reachable.tended.owned session active
  refine ⟨owned, ?_, active⟩
  have ends := transition.ends active inactive
  generalize next.world = after at ends more ⊢
  cases ends with
  | destroyed =>
    -- To destroy it would have reported nothing.
    rw [World.leaks_teardown] at more
    exact absurd more (Nat.lt_irrefl _)
  | dropped named last =>
    rw [World.perform_drop (World.dropOwner_eq named), if_neg (Bool.eq_false_iff.1 last)]
    exact ((World.dropSession_retains ..).isOwned session).trans last

theorem Reachable.reports (reachable : Reachable manager service r) (moves : r.Next next)
    (owned : r.world.isOwned session = true) (gone : next.world.isOwned session = false)
    (active : r.world.isActive session = true) : r.world.Reports next.world session := by
  obtain ⟨_, _, transition, _⟩ := moves.transition
  obtain ⟨owner, named, last, same, _⟩ := transition.disowned reachable.tended owned gone
  have flags := reachable.guarded.opened active
  constructor
  · intro refusal asked
    have inactive :=
      World.inactive_of_isTerminated (reachable.accounted.asked session refusal asked)
    cases active.symm.trans inactive
  · obtain ⟨s, found, active⟩ := World.isActive_eq_true.1 active
    obtain ⟨last, fate, tells⟩ := World.tells_teardown
      (w := (r.world.disown owner).log (.sessionLeaked session)) found active
    refine ⟨s, last, found, fate, ?_⟩
    rw [same, World.dropSession_guarded (w := r.world.disown owner) flags]
    have disowned : r.world.Tells (r.world.disown owner) [] :=
      (World.Tells.refl r.world).of_trace rfl
    exact (World.Told.emit disowned rfl).trans tells

/-- The report of a session that nobody destroyed is exact, whatever the manager does. Outside its
calls of `destroy` its guard is open as long as it is not terminated. It is reported once at most,
just when its last owner is dropped while it is active, before the teardown of the drop, and not
once anybody has destroyed it. Dropping the last owner of a terminated session does nothing but
that. When no call of a race is under way, its guard is exact as well and the race has reported
nothing. -/
theorem Reachable.leaks_exact (reachable : Reachable manager service r) :
    (∀ session, session ∉ r.concluding → r.world.Watched session) ∧
    (∀ session, r.world.leaks session ≤ 1) ∧
    (∀ next, r.Next next → ∀ session,
      (.logged (.sessionLeaked session) ∈ r.world.newly next.world ↔
        r.world.isOwned session = true ∧ next.world.isOwned session = false ∧
          r.world.isActive session = true) ∧
      (.logged (.sessionLeaked session) ∈ r.world.newly next.world →
        r.world.Reports next.world session)) ∧
    (∀ owner session, r.world.owned? owner = some session →
      (r.world.disown owner).isOwned session = false → r.world.isTerminated session = true →
        ∀ nested, r.world.perform nested (.drop owner) = { world := r.world.disown owner }) ∧
    ∀ session, session < r.world.sessions.length → session ∉ r.concluding →
      ∀ calls schedule, let race := (Race.begin r.world calls).play session schedule
        (∀ c ∈ race.callers, c = .load ∨ c = .returned) →
          race.world.Watched session ∧ race.world.leaks session = r.world.leaks session ∧
            (.returned ∈ race.callers → race.world.dropSession session = (race.world, [])) := by
  have guarded := reachable.guarded
  refine ⟨fun session outside => guarded.watched outside, ?_, ?_, ?_, ?_⟩
  · exact fun session => Nat.le_trans (reachable.accounted.once session) (Bool.toNat_le _)
  · intro next moves session
    have reports (owned : r.world.isOwned session = true)
        (gone : next.world.isOwned session = false) (active : r.world.isActive session = true) :
        r.world.Reports next.world session := reachable.reports moves owned gone active
    refine ⟨⟨reachable.leaked moves, fun ⟨owned, gone, active⟩ => ?_⟩, fun told => ?_⟩
    · obtain ⟨_, _, _, _, tells⟩ := (reports owned gone active).order
      exact (tells.mem_newly rfl).2 (by simp)
    · obtain ⟨owned, gone, active⟩ := reachable.leaked moves told
      exact reports owned gone active
  · intro owner session named last ended nested
    have inactive : (r.world.disown owner).isActive session = false :=
      World.inactive_of_isTerminated ended
    rw [World.perform_drop (World.dropOwner_eq named), if_neg (Bool.eq_false_iff.1 last),
      World.dropSession_inactive inactive]
  · intro session made outside calls schedule race rests
    have together := (Race.matches_begin made calls).play made schedule
    have watched := guarded.watched outside
    refine ⟨?_, ?_, fun returned => World.dropSession_inactive ?_⟩
    · rcases together.rests made rests with ⟨same, _⟩ | ⟨agrees, _⟩
      · exact same ▸ watched
      · exact watched.destroyed.of_flags? (World.flags?_of_sessions agrees.sessions session)
    · rcases together.rests made rests with ⟨same, _⟩ | ⟨agrees, _⟩
      · exact congrArg (World.leaks · session) same
      · exact (agrees.leaks session).trans (World.leaks_destroyed r.world session)
    · exact World.inactive_of_isTerminated (together.terminated returned)

def oneDestroyed : Run :=
  ⟨(World.initial (.permissive true) {}).takeAll
    [.session "kept" ⟨5⟩ "key" none, .session "lost" ⟨6⟩ "other" none, .destroy "kept"], []⟩

def oneLost : Run :=
  ⟨(oneDestroyed.world.perform false (.drop "lost")).world,
    (oneDestroyed.world.perform false (.drop "lost")).frames⟩

theorem leaks_exact_oneLost :
    oneDestroyed.Next oneLost ∧ oneDestroyed.world.Reports oneLost.world 1 ∧
      oneDestroyed.world.Watched 0 ∧ oneDestroyed.world.Watched 1 ∧
      oneLost.world.leaks 0 = 0 ∧ oneLost.world.leaks 1 = 1 ∧
      oneDestroyed.world.perform false (.drop "kept") =
        { world := oneDestroyed.world.disown "kept" } ∧
      ((Race.begin oneDestroyed.world 2).play 1 Race.neckAndNeck).world.leaks 1 = 0 := by
  have reached : Reachable (.permissive true) {} oneDestroyed := .scenario (.permissive true) _
  have idle : oneDestroyed.tick = none := tick_eq_none.2 ⟨rfl, by decide +kernel⟩
  have moves : oneDestroyed.Next oneLost := .step idle (.drop "lost")
  have rest : oneDestroyed.concluding = [] := rfl
  obtain ⟨watched, _, moved, dropped, raced⟩ := reached.leaks_exact
  obtain ⟨told, reports⟩ := moved oneLost moves 1
  have outside (session : SessionRef) : session ∉ oneDestroyed.concluding := by simp [rest]
  have callers : ((Race.begin oneDestroyed.world 2).play 1 Race.neckAndNeck).callers =
      [.returned, .returned] := by decide +kernel
  obtain ⟨_, unreported, _⟩ := raced 1 (by decide +kernel) (outside 1) 2 Race.neckAndNeck (by
    rw [callers]
    simp)
  refine ⟨moves, reports (told.2 ⟨by decide +kernel, by decide +kernel, by decide +kernel⟩),
    watched 0 (outside 0), watched 1 (outside 1), by decide +kernel, by decide +kernel, ?_, ?_⟩
  · exact dropped "kept" 0 (by decide +kernel) (by decide +kernel) (by decide +kernel) false
  · exact unreported.trans (by decide +kernel)

end Run

end Proximity
