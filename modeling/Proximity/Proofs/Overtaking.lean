import Proximity.Proofs.Admission
import Proximity.Proofs.Line
import Proximity.Proofs.Release

/-! A request that was admitted may reach the service after its client has been let go. The
disconnect has a task of its own, on the manager's own target, and overtakes a request that is
queued on another target, or one from outside if it comes from inside itself. -/

set_option autoImplicit false

namespace Proximity

namespace World

variable {w next : World}

/-- The service is told to let a client go after the disconnect was honoured. -/
theorem Grounded.detach (grounded : w.Grounded) {running : Option Target} {task : TaskRef}
    {client : ClientId} (told : .called running (.detach task client) ∈ w.trace) :
    ∃ origin asked token, running = some defaultTarget ∧
      w.Follows (.called running (.detach task client))
        (.received origin asked (.disconnect client token (some task))) := by
  obtain ⟨o, c, read, follows, rfl, target, call⟩ := grounded _ _ _ told rfl
  rw [c.call?_made] at call
  cases c with
  | request f =>
    simp only at call
    split at call <;> cases call
  | release c =>
    cases call
    obtain ⟨origin, asked, token, rfl⟩ := Occurrence.eq_received_of_release read
    exact ⟨origin, asked, token, target, follows⟩

/-- Of two calls for one target the later one is that of the task that was made later, unless the
later task came from inside and the earlier one from outside. -/
theorem InLine.precedes (inLine : w.InLine) {target : Target} {call other : Call}
    {task earlier : TaskRef}
    (follows : w.Follows (.called (some target) call) (.called (some target) other))
    (second : call.task? = some task) (first : other.task? = some earlier) :
    w.Precedes target earlier task := by
  have line := (List.pairwise_append.1 (inLine.ordered target)).1
  exact follows.pairwise (List.pairwise_reverse.1 line)
    (by simp [Occurrence.turn?, Occurrence.served?, second])
    (by simp [Occurrence.turn?, Occurrence.served?, first])

theorem Ledger.lt_of_follows (ledger : w.Ledger) {later earlier : Occurrence}
    (follows : w.Follows later earlier) {c first : Commission}
    (second : later.commission? = some c) (before : earlier.commission? = some first) :
    first.task < c.task := by
  have falling := ledger.falling
  rw [commissions, List.map_filterMap] at falling
  exact follows.pairwise falling (by rw [second]; rfl) (by rw [before]; rfl)

end World

namespace Run

variable {service : Service} {r : Run} {earlier : List Run}

/-- A client that attaches once is gone for good when a disconnect has been honoured, so a request
that was admitted has come before. -/
theorem History.admitted_before (history : History .registry service (r :: earlier))
    (once : (r.world.attachments.map (·.client)).Nodup) {origin other : Option SessionRef}
    {asked shown : Option Target} {task late : TaskRef} {request : Request} {target : Target}
    {token : Token}
    (came : .received origin asked (.request task request target none) ∈ r.world.trace)
    (went : .received other shown (.disconnect request.client token (some late)) ∈ r.world.trace) :
    r.world.Follows (.received other shown (.disconnect request.client token (some late)))
      (.received origin asked (.request task request target none)) := by
  rcases World.follows_or_follows went came (by simp) with before | after
  · exact before
  exfalso
  -- If the request came after the disconnect, its client was attached all the same.
  obtain ⟨before, next, moment, told, there, suffix⟩ := history.follows after
  obtain ⟨reached, moves⟩ := history.moment moment
  have admits := (reached.tableChange moves).admits told
  have attached : next.world.clients.isAttached request.client = true := by
    rw [admits.still]
    exact (admits.admitted.1 rfl).1
  have released : 0 < next.world.releases.countP (·.client = request.client) :=
    List.countP_pos_iff.2 ⟨⟨late, request.client⟩, List.mem_filterMap.2 ⟨_, there, rfl⟩, by simp⟩
  have balanced := (Reachable.next reached moves).balanced request.client
  rw [if_pos attached] at balanced
  -- So it was attached twice, which it never is.
  have few : next.world.attachments.countP (·.client = request.client) ≤ 1 := by
    refine Nat.le_trans (suffix.sublist.filterMap _).countP_le ?_
    have counted := List.nodup_iff_count_le_one.1 once request.client
    rw [List.count, List.countP_map] at counted
    exact counted
  omega

/-- When the service is told to let go a client that attaches once, a request for the client reaches
it afterwards only if it was admitted before the disconnect was honoured and is overtaken: it was
queued on another target, or from outside while the disconnect came from inside the manager's own
target. -/
theorem Reachable.overtaken (reachable : Reachable .registry service r)
    (once : (r.world.attachments.map (·.client)).Nodup) {running told : Option Target}
    {task late : TaskRef} {client : ClientId} {config : Config}
    (after : r.world.Follows (.called running (.start task client config))
      (.called told (.detach late client))) :
    ∃ origin asked listener target other shown token, running = some target ∧
      r.world.Follows (.called told (.detach late client))
        (.received other shown (.disconnect client token (some late))) ∧
      r.world.Follows (.received other shown (.disconnect client token (some late)))
        (.received origin asked (.request task ⟨client, config, listener⟩ target none)) ∧
      (target ≠ defaultTarget ∨ asked ≠ some defaultTarget ∧ shown = some defaultTarget) := by
  obtain ⟨earlier, history⟩ := reachable.history
  obtain ⟨origin, asked, listener, target, rfl, came⟩ := reachable.grounded.start after.mem.1
  obtain ⟨other, shown, token, rfl, went⟩ := reachable.grounded.detach after.mem.2
  have before := history.admitted_before once came.mem.2 went.mem.2
  refine ⟨origin, asked, listener, target, other, shown, token, rfl, went, before, ?_⟩
  refine or_iff_not_imp_left.2 fun same => ?_
  rw [not_not.1 same] at after
  have older := reachable.ledger.lt_of_follows before rfl rfl
  change task < late at older
  -- They stand in one line, where the disconnect is behind unless it comes from inside.
  rcases reachable.inLine.precedes after rfl rfl with younger | apart
  · exact absurd younger (Nat.lt_asymm older)
  · have inside : (late, shown) ∈ r.world.sources :=
      List.mem_filterMap.2 ⟨_, before.mem.1, rfl⟩
    have outside : (task, asked) ∈ r.world.sources :=
      List.mem_filterMap.2 ⟨_, before.mem.2, rfl⟩
    exact (apart shown asked inside outside).symm

def beacon : Config := .publish { serviceName := "beacon" }

def publishedLate : Run :=
  ⟨(World.initial .registry {}).takeAll
    [.attach "only", .request "only" beacon .silent (some .alt), .destroy "only", .pump .main,
      .pump .alt], []⟩

theorem follows_publishedLate :
    publishedLate.world.Follows (.called (some .alt) (.start 0 ⟨1⟩ beacon))
      (.called (some .main) (.detach 1 ⟨1⟩)) := by
  have calls : publishedLate.world.trace.filterMap Occurrence.served? =
      [] ++ (some .alt, .start 0 ⟨1⟩ beacon) :: [(some .main, .detach 1 ⟨1⟩), (none, .attach)] := by
    decide +kernel
  exact World.follows_of_served calls (by simp)

/-- That a client has been let go keeps no request for it from the service. -/
theorem starts_after_detach : ¬ ∀ (service : Service) (r : Run), Reachable .registry service r →
    (r.world.attachments.map (·.client)).Nodup → ∀ running told task late client config,
      ¬ r.world.Follows (.called running (.start task client config))
        (.called told (.detach late client)) := by
  intro never
  have once : (publishedLate.world.attachments.map (·.client)).Nodup := by decide +kernel
  exact never {} publishedLate (.scenario .registry _) once _ _ _ _ _ _ follows_publishedLate

theorem overtaken_publishedLate :
    (publishedLate.world.attachments.map (·.client)).Nodup ∧
      publishedLate.world.Follows (.called (some .alt) (.start 0 ⟨1⟩ beacon))
        (.called (some .main) (.detach 1 ⟨1⟩)) ∧
      ∃ origin asked listener target other shown token, some Target.alt = some target ∧
        publishedLate.world.Follows (.called (some .main) (.detach 1 ⟨1⟩))
          (.received other shown (.disconnect ⟨1⟩ token (some 1))) ∧
        publishedLate.world.Follows (.received other shown (.disconnect ⟨1⟩ token (some 1)))
          (.received origin asked (.request 0 ⟨⟨1⟩, beacon, listener⟩ target none)) ∧
        (target ≠ defaultTarget ∨ asked ≠ some defaultTarget ∧ shown = some defaultTarget) := by
  have once : (publishedLate.world.attachments.map (·.client)).Nodup := by decide +kernel
  have reached : Reachable .registry {} publishedLate := .scenario .registry _
  exact ⟨once, follows_publishedLate, reached.overtaken once follows_publishedLate⟩

end Run

end Proximity
