import Proximity.Proofs.Gate
import Proximity.Proofs.Ledger

/-! Every call that a task makes on the service goes back to what has reached the manager before,
and everything that has happened goes back to one move of the run. -/

set_option autoImplicit false

namespace Proximity

namespace World

variable {w next : World} {pushed : List Frame}

/-- Of two occurrences one comes after the other. -/
def Follows (w : World) (later earlier : Occurrence) : Prop :=
  ∃ after before, w.trace = after ++ later :: before ∧ earlier ∈ before

theorem Follows.grow {later earlier : Occurrence} (follows : w.Follows later earlier)
    (trace : next.trace = w.newly next ++ w.trace) : next.Follows later earlier := by
  obtain ⟨after, before, split, member⟩ := follows
  refine ⟨w.newly next ++ after, before, ?_, member⟩
  rw [trace, split, List.append_assoc]

theorem follows_of_newly {later earlier : Occurrence} (new : later ∈ w.newly next)
    (old : earlier ∈ w.trace) (trace : next.trace = w.newly next ++ w.trace) :
    next.Follows later earlier := by
  obtain ⟨after, before, split⟩ := List.append_of_mem new
  refine ⟨after, before ++ w.trace, ?_, List.mem_append_right _ old⟩
  rw [trace, split, List.append_assoc, List.cons_append]

theorem Follows.mem {later earlier : Occurrence} (follows : w.Follows later earlier) :
    later ∈ w.trace ∧ earlier ∈ w.trace := by
  obtain ⟨after, before, split, member⟩ := follows
  rw [split]
  exact ⟨List.mem_append_right _ List.mem_cons_self,
    List.mem_append_right _ (List.mem_cons_of_mem _ member)⟩

/-- What is read of a later occurrence comes before what is read of an earlier one. -/
theorem Follows.pairwise {α : Type} {read : Occurrence → Option α} {before : α → α → Prop}
    {later earlier : Occurrence} (follows : w.Follows later earlier)
    (ordered : (w.trace.filterMap read).Pairwise before) {a b : α} (last : read later = some a)
    (first : read earlier = some b) : before a b := by
  obtain ⟨after, rest, split, member⟩ := follows
  rw [split, List.filterMap_append, List.filterMap_cons_some last] at ordered
  exact List.rel_of_pairwise_cons (List.pairwise_append.1 ordered).2.1
    (List.mem_filterMap.2 ⟨earlier, member, first⟩)

theorem follows_or_follows {first second : Occurrence} (one : first ∈ w.trace)
    (other : second ∈ w.trace) (unlike : first ≠ second) :
    w.Follows first second ∨ w.Follows second first := by
  obtain ⟨after, before, split⟩ := List.append_of_mem one
  rw [split] at other
  rcases List.mem_append.1 other with later | earlier
  · obtain ⟨last, between, rest⟩ := List.append_of_mem later
    refine .inr ⟨last, between ++ first :: before, ?_, by simp⟩
    rw [split, rest, List.append_assoc, List.cons_append]
  · refine .inl ⟨after, before, split, ?_⟩
    exact (List.mem_cons.1 earlier).resolve_left (Ne.symm unlike)

theorem follows_of_served {running told : Option Target} {call other : Call}
    {front back : List (Option Target × Call)}
    (calls : w.trace.filterMap Occurrence.served? = front ++ (running, call) :: back)
    (member : (told, other) ∈ back) :
    w.Follows (.called running call) (.called told other) := by
  have read {o : Occurrence} {running : Option Target} {call : Call}
      (same : o.served? = some (running, call)) : o = .called running call := by
    cases o with
    | called =>
      cases same
      rfl
    | _ => cases same
  obtain ⟨after, rest, split, _, later⟩ := List.filterMap_eq_append_iff.1 calls
  obtain ⟨between, o, before, split', _, last, rfl⟩ := List.filterMap_eq_cons_iff.1 later
  obtain ⟨p, earlier, first⟩ := List.mem_filterMap.1 member
  rw [← read last, ← read first]
  refine ⟨after ++ between, before, ?_, earlier⟩
  rw [split, split', List.append_assoc]

/-- A call of a task comes after what its task was made for, and is the call that is made for it. -/
def Grounded (w : World) : Prop := ∀ running call task,
  .called running call ∈ w.trace → (Occurrence.called running call).caller? = some task →
  ∃ o c, o.commission? = some c ∧ w.Follows (.called running call) o ∧ c.task = task ∧
    running = some c.target ∧ c.made.job.call? task = some call

theorem grounded_initial (service : Service) : (World.initial .registry service).Grounded := by
  simp [World.initial, Grounded]

theorem Grounded.transition (grounded : w.Grounded) (ledger : w.Ledger)
    (transition : w.Transition next pushed) :
    next.Grounded := by
  have trace := transition.sessionChange.trace
  intro running call task told calls
  rw [trace] at told
  rcases List.mem_append.1 told with new | old
  · cases transition.taskChange.course ledger.registry with
    | makes _ _ _ makes =>
      obtain ⟨_, _, _, about⟩ := Occurrence.eq_called_of_caller? calls
      cases makes.discarded trace new about
    | moved _ same _ =>
      have member : .called running call ∈ next.trace := trace ▸ List.mem_append_left _ new
      -- What the call is made for is known by now, and nothing has come to be known with it.
      obtain ⟨c, known, named, target, made⟩ := (ledger.transition transition).called member calls
      rw [same] at known
      obtain ⟨o, old, read⟩ := List.mem_filterMap.1 known
      exact ⟨o, c, read, follows_of_newly new old trace, named, target, made⟩
  · obtain ⟨o, c, read, follows, rest⟩ := grounded running call task old calls
    exact ⟨o, c, read, follows.grow trace, rest⟩

end World

namespace Run

theorem Reachable.grounded {service : Service} {r : Run}
    (reachable : Reachable .registry service r) : r.world.Grounded := by
  induction reachable with
  | start => exact World.grounded_initial service
  | next earlier moves ih =>
    obtain ⟨_, _, transition, _⟩ := moves.transition
    exact ih.transition earlier.ledger transition

def Moment (runs : List Run) (r next : Run) : Prop := [next, r] <:+: runs

theorem Moment.later {runs : List Run} {r next : Run} (moment : Moment runs r next) (last : Run) :
    Moment (last :: runs) r next :=
  moment.trans (List.suffix_cons last runs).isInfix

theorem History.moment {manager : ManagerKind} {service : Service} {runs : List Run}
    (history : History manager service runs) {r next : Run} (moment : Moment runs r next) :
    Reachable manager service r ∧ r.Next next := by
  induction history with
  | start => exact absurd moment.length_le (by simp)
  | @next before last earlier history moves ih =>
    rcases List.infix_cons_iff.1 moment with first | later
    · obtain ⟨rfl, rest⟩ := List.cons_prefix_cons.1 first
      obtain ⟨rfl, _⟩ := List.cons_prefix_cons.1 rest
      exact ⟨history.reachable, moves⟩
    · exact ih later

theorem History.told {manager : ManagerKind} {service : Service} {r : Run} {earlier : List Run}
    (history : History manager service (r :: earlier)) {o : Occurrence}
    (member : o ∈ r.world.trace) :
    ∃ before next, Moment (r :: earlier) before next ∧ o ∈ before.world.newly next.world := by
  generalize runs : r :: earlier = whole at history
  induction history generalizing r earlier with
  | start =>
    cases runs
    cases member
  | @next before next past history moves ih =>
    cases runs
    obtain ⟨_, _, transition, _⟩ := moves.transition
    rw [transition.sessionChange.trace] at member
    rcases List.mem_append.1 member with new | old
    · exact ⟨before, next, (List.prefix_append [next, before] past).isInfix, new⟩
    · obtain ⟨first, last, moment, told⟩ := ih old rfl
      exact ⟨first, last, moment.later next, told⟩

/-- What follows something has happened in some move, and that was there by then. -/
theorem History.follows {manager : ManagerKind} {service : Service} {r : Run} {earlier : List Run}
    (history : History manager service (r :: earlier)) {later first : Occurrence}
    (follows : r.world.Follows later first) : ∃ before next, Moment (r :: earlier) before next ∧
      later ∈ before.world.newly next.world ∧ first ∈ next.world.trace ∧
      next.world.trace <:+ r.world.trace := by
  generalize runs : r :: earlier = whole at history
  induction history generalizing r earlier with
  | start =>
    cases runs
    cases follows.mem.1
  | @next before next past history moves ih =>
    cases runs
    obtain ⟨_, _, transition, _⟩ := moves.transition
    have trace := transition.sessionChange.trace
    obtain ⟨after, rest, split, member⟩ := follows
    rcases List.append_eq_append_iff.1 (split.symm.trans trace) with
      ⟨new, newly, old⟩ | ⟨tail, _, old⟩
    · cases new with
      | nil =>
        -- The later one is the very first of what was there before the move.
        obtain ⟨first, last, moment, told, there, suffix⟩ :=
          ih ⟨[], rest, old.symm, member⟩ rfl
        refine ⟨first, last, moment.later next, told, there, ?_⟩
        rw [trace]
        exact suffix.trans (List.suffix_append ..)
      | cons o new =>
        obtain ⟨rfl, same⟩ := List.cons.inj old
        refine ⟨before, next, (List.prefix_append [next, before] past).isInfix, ?_, ?_,
          List.suffix_refl _⟩
        · rw [newly]
          simp
        · rw [split]
          exact List.mem_append_right _ (List.mem_cons_of_mem _ member)
    · obtain ⟨first, last, moment, told, there, suffix⟩ := ih ⟨tail, rest, old, member⟩ rfl
      refine ⟨first, last, moment.later next, told, there, ?_⟩
      rw [trace]
      exact suffix.trans (List.suffix_append ..)

end Run

end Proximity
