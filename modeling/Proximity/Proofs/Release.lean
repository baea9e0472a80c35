import Proximity.Proofs.Replies
import Proximity.Proofs.LiveTable
import Proximity.Proofs.TableChanges

/-! A disconnect is honoured when its token is the rightful one, and then one task tells the service
of it, once: it is queued on the manager's own target, has called and waits, has its answer and has
reported it, or is gone with the target. -/

set_option autoImplicit false

namespace Proximity

namespace Release

inductive Stage where
  | queued
  /-- The service has been called and has not answered. -/
  | calling
  | answered
  | dropped
  deriving DecidableEq

def Stage.read : List Place → List Occurrence → Stage
  | _ :: _, [] => .queued
  | _ :: _, _ :: _ => .calling
  | [], .discarded _ :: _ => .dropped
  | [], _ => .answered

def call (c : Release) : Occurrence := .called (some defaultTarget) (.detach c.task c.client)

/-- How far the task has come, by where it is, by all that tells of it, the latest first, and by
whether the manager's own target is closed. The service is called once at most, and its answer is
reported once, as INFO or as ERROR. -/
inductive At (c : Release) (closed : Bool) : Stage → List Place → List Occurrence → Prop where
  | queued (opened : closed = false) : c.At closed .queued [⟨defaultTarget, none, c.made⟩] []
  | suspended (opened : closed = false) (gate : Name) (verdict : Verdict) :
      c.At closed .calling [⟨defaultTarget, some gate, { c.made with verdict := some verdict }⟩]
        [.suspended c.task gate, c.call]
  | woken (opened : closed = false) (gate : Name) (verdict : Verdict) :
      c.At closed .calling [⟨defaultTarget, none, { c.made with verdict := some verdict }⟩]
        [.suspended c.task gate, c.call]
  | detached (waited : List Name) (once : waited.length ≤ 1)
      (level : (Notice.clientDetached c.task c.client).level = .info) :
      c.At closed .answered [] (.logged (.clientDetached c.task c.client) ::
        .answered c.task (.ok none) :: waited.map (.suspended c.task) ++ [c.call])
  | failed (error : Error) (waited : List Name) (once : waited.length ≤ 1)
      (level : (Notice.detachFailed c.task c.client error).level = .error) :
      c.At closed .answered [] (.logged (.detachFailed c.task c.client error) ::
        .answered c.task (.error error) :: waited.map (.suspended c.task) ++ [c.call])
  | discarded (shut : closed = true) : c.At closed .dropped [] [.discarded c.task]
  | abandoned (shut : closed = true) (gate : Name) :
      c.At closed .dropped [] [.discarded c.task, .suspended c.task gate, c.call]

variable {c : Release} {closed : Bool} {stage other : Stage} {places : List Place}
  {account : List Occurrence}

theorem At.read (stands : c.At closed stage places account) :
    Stage.read places account = stage := by
  cases stands with
  | queued | suspended | woken | detached | failed | discarded | abandoned => rfl

theorem At.unique (first : c.At closed stage places account)
    (second : c.At closed other places account) : stage = other :=
  first.read.symm.trans second.read

theorem made_calls {calls : List Occurrence}
    (called : c.made.Calls (some defaultTarget) calls) : calls = [c.call] := by
  cases called with
  | before verdict => cases verdict
  | start job => cases job
  | detach job =>
    cases job
    rfl

theorem at_of_ends {verdict : Option Verdict} {facts rest : List Occurrence}
    (ends : { c.made with verdict : Task }.Ends (some defaultTarget) facts) (waited : List Name)
    (once : waited.length ≤ 1)
    (calls : ∀ {calls : List Occurrence},
      { c.made with verdict : Task }.Calls (some defaultTarget) calls →
        calls ++ rest = waited.map (.suspended c.task) ++ [c.call]) :
    c.At closed .answered [] (facts ++ rest) := by
  cases ends with
  | answered job | refused job | announced job | marked job => cases job
  | detached job result called =>
    cases job
    simp only [List.cons_append, calls called]
    cases result with
    | ok done => exact .detached waited once rfl
    | error error => exact .failed error waited once rfl

theorem at_of_life (life : c.made.Life defaultTarget closed places account) :
    ∃ stage, c.At closed stage places account := by
  cases life with
  | queued opened => exact ⟨_, .queued opened⟩
  | suspended opened gate verdict called =>
    rw [made_calls called]
    exact ⟨_, .suspended opened gate verdict⟩
  | woken opened gate verdict called =>
    rw [made_calls called]
    exact ⟨_, .woken opened gate verdict⟩
  | ended ends =>
    rw [← List.append_nil account]
    exact ⟨_, at_of_ends ends [] (Nat.zero_le _) fun called => by
      rw [made_calls called]
      rfl⟩
  | late gate verdict called ends =>
    rw [made_calls called]
    refine ⟨_, at_of_ends ends [gate] (Nat.le_refl _) fun again => ?_⟩
    -- It has its answer, so it does not call again.
    cases again with
    | before => rfl
    | start _ new | detach _ new => cases new
  | discarded shut => exact ⟨_, .discarded shut⟩
  | abandoned shut gate called =>
    rw [made_calls called]
    exact ⟨_, .abandoned shut gate⟩

structure Reported (c : Release) (answer : Option (Except Error (Option SessionId)))
    (told : List Occurrence) : Prop where
  detached : .logged (.clientDetached c.task c.client) ∈ told ↔ answer = some (.ok none)
  failed : ∀ error, .logged (.detachFailed c.task c.client error) ∈ told ↔
    answer = some (.error error)

theorem At.reported (stands : c.At closed stage places account) :
    c.Reported (Dealing.result? c.task ((account.filter fun o => o.task?.isSome).filterMap
      Occurrence.dealing?)) account := by
  cases stands with
  | queued | suspended | woken | discarded | abandoned =>
    exact ⟨iff_of_false (by simp [call]) nofun, fun _ => iff_of_false (by simp [call]) nofun⟩
  | detached waited =>
    refine ⟨iff_of_true List.mem_cons_self (if_pos rfl), fun error => iff_of_false ?_ ?_⟩
    · simp [call]
    · intro answered
      cases answered.symm.trans (if_pos rfl)
  | failed error waited =>
    refine ⟨iff_of_false ?_ ?_, fun other => ⟨fun told => ?_, fun answered => ?_⟩⟩
    · simp [call]
    · intro answered
      cases answered.symm.trans (if_pos rfl)
    · obtain rfl : other = error := by simpa [call] using told
      exact if_pos rfl
    · cases answered.symm.trans (if_pos rfl)
      exact List.mem_cons_self

end Release

namespace World

variable {w next : World}

def Detaches (w : World) (c : Release) (stage : Release.Stage) : Prop :=
  c.At (w.isClosed defaultTarget) stage (w.placesOf c.task) (w.account c.task)

theorem Ledger.detaches (ledger : w.Ledger) {c : Release} (member : c ∈ w.releases) :
    ∃! stage, w.Detaches c stage := by
  obtain ⟨stage, stands⟩ := c.at_of_life (ledger.lives (.release c) (mem_releases.1 member))
  exact ⟨stage, stands, fun other standsOther => standsOther.unique stands⟩

/-- What is reported of a disconnect is what the service answers to its task. -/
theorem Ledger.reported {service : Service} (ledger : w.Ledger) (attended : w.Attended service)
    {c : Release} (member : c ∈ w.releases) :
    c.Reported (service.answer? c.task w.dealings) w.trace := by
  obtain ⟨stage, stands, _⟩ := ledger.detaches member
  have reported := stands.reported
  rw [← record_eq, ← result?_record, attended.answers] at reported
  -- A report of the task is part of its account.
  have own {o : Occurrence} (about : o.about? = some c.task) :
      o ∈ w.account c.task ↔ o ∈ w.trace := by
    rw [account, List.mem_filter]
    exact and_iff_left (decide_eq_true about)
  exact ⟨(own rfl).symm.trans reported.detached,
    fun error => (own rfl).symm.trans (reported.failed error)⟩

theorem Ledger.releases_nodup (ledger : w.Ledger) : (w.releases.map (·.task)).Nodup := by
  rw [releases_eq]
  exact (Commission.releases_sublist _).nodup ledger.apart

theorem Ledger.detach_called (ledger : w.Ledger) {running : Option Target} {task : TaskRef}
    {client : ClientId} (told : .called running (.detach task client) ∈ w.trace) :
    running = some defaultTarget ∧ ⟨task, client⟩ ∈ w.releases := by
  obtain ⟨c, member, rfl, target, call⟩ := ledger.called told rfl
  rw [c.call?_made] at call
  cases c with
  | request f =>
    simp only at call
    split at call <;> cases call
  | release c =>
    cases call
    exact ⟨target, mem_releases.2 member⟩

/-! ### Clients that come and go -/

theorem Told.releases {facts : List Occurrence} (told : w.Told Occurrence.isFiled next facts) :
    next.releases = facts.filterMap Occurrence.release? ++ w.releases := by
  refine told.filterMap fun o other => ?_
  rw [Occurrence.release?_eq,
    Occurrence.commission?_of_isRuling (Occurrence.isRuling_of_isFiled other)]
  rfl

theorem Told.attachments {facts : List Occurrence} (told : w.Told Occurrence.isFiled next facts) :
    next.attachments = facts.filterMap Occurrence.attachment? ++ w.attachments := by
  refine told.filterMap fun o other => ?_
  cases o <;> first | rfl | cases other

inductive Turnover (w next : World) : Prop where
  | still (clients : next.clients = w.clients) (releases : next.releases = w.releases)
      (attachments : next.attachments = w.attachments)
  | attached (a : Attachment) (clients : next.clients = w.clients.insert a.client a.token)
      (releases : next.releases = w.releases) (attachments : next.attachments = a :: w.attachments)
  | released (c : Release) (known : w.clients.isAttached c.client = true)
      (clients : next.clients = w.clients.erase c.client)
      (releases : next.releases = c :: w.releases) (attachments : next.attachments = w.attachments)

theorem TableChange.turnover (changes : w.TableChange next) (recorded : w.Recorded) :
    w.Turnover next := by
  have still {facts : List Occurrence} (told : w.Told Occurrence.isFiled next facts)
      (clients : next.clients = w.clients)
      (other : ∀ o ∈ facts, o.release? = none ∧ o.attachment? = none) : w.Turnover next := by
    refine .still clients ?_ ?_
    · rw [told.releases, List.filterMap_eq_nil_iff.2 fun o member => (other o member).1]
      rfl
    · rw [told.attachments, List.filterMap_eq_nil_iff.2 fun o member => (other o member).2]
      rfl
  cases changes with
  | quiet clients trace quiet =>
    refine still ⟨w.newly next, trace, rfl⟩ clients fun o member => ?_
    have other := quiet o (List.mem_filter.1 member).1
    refine ⟨?_, ?_⟩
    · rw [Occurrence.release?_eq, Occurrence.commission?_of_isRuling other]
      rfl
    · cases o <;> first | rfl | cases other
  | attached client session token clients told =>
    exact .attached ⟨client, session, token⟩ clients told.releases told.attachments
  | requested origin request target clients hears =>
    obtain ⟨facts, told, each⟩ := hears.facts
    refine still told clients fun o member => ?_
    rcases each o member with rfl | ⟨_, rfl⟩ | rfl <;> exact ⟨rfl, rfl⟩
  | disconnected origin client token task takes =>
    obtain ⟨dropped, only, told⟩ := takes.told
    have quiet : dropped.filterMap Occurrence.release? = [] ∧
        dropped.filterMap Occurrence.attachment? = [] := by
      constructor
      · exact List.filterMap_eq_nil_iff.2 fun o member => by rw [only o member]; rfl
      · exact List.filterMap_eq_nil_iff.2 fun o member => by rw [only o member]; rfl
    have attachments : next.attachments = w.attachments := by
      rw [told.attachments, List.filterMap_append, quiet.2]
      rfl
    have releases := told.releases
    rw [List.filterMap_append, quiet.1, List.nil_append] at releases
    cases takes with
    | honoured before approach rightful honours =>
      have known := (recorded client token).2 rightful
      refine .released ⟨w.tasksMade, client⟩ ?_ ?_ releases attachments
      · rw [ClientTable.isAttached, known]
        rfl
      · rw [honours.clients, approach.unfiled.clients]
    | ignored before approach _ ignores =>
      refine .still ?_ releases attachments
      rw [ignores.same]
      exact approach.unfiled.clients

def Balanced (w : World) : Prop := ∀ client,
  w.releases.countP (·.client = client) + (if w.clients.isAttached client then 1 else 0) ≤
    w.attachments.countP (·.client = client)

theorem balanced_initial (service : Service) : (World.initial .registry service).Balanced := by
  intro client
  simp [World.initial, releases, attachments, ClientTable.isAttached, ClientTable.token?,
    ClientTable.empty]

theorem Balanced.turnover (balanced : w.Balanced) (turnover : w.Turnover next) : next.Balanced := by
  intro client
  have before := balanced client
  cases turnover with
  | still clients releases attachments =>
    rw [clients, releases, attachments]
    exact before
  | attached a clients releases attachments =>
    rw [clients, releases, attachments, List.countP_cons, ClientTable.isAttached,
      ClientTable.token?_insert]
    by_cases own : client = a.client
    · simp only [own, if_true, Option.isSome_some, decide_true]
      rw [own] at before
      omega
    · simp only [own, Ne.symm own, if_false, decide_false, Bool.false_eq_true, Nat.add_zero]
      exact before
  | released c known clients releases attachments =>
    rw [clients, releases, attachments, List.countP_cons, ClientTable.isAttached,
      ClientTable.token?_erase]
    by_cases own : client = c.client
    · rw [own, known] at before
      simpa [own] using before
    · simp only [own, Ne.symm own, if_false, decide_false, Bool.false_eq_true, Nat.add_zero]
      exact before

end World

namespace Run

theorem Reachable.balanced {service : Service} {r : Run}
    (reachable : Reachable .registry service r) : r.world.Balanced := by
  induction reachable with
  | start => exact World.balanced_initial service
  | next earlier moves ih =>
    exact ih.turnover ((earlier.tableChange moves).turnover earlier.recorded)

/-- Each attach mints a token of its own, and a disconnect is honoured just when it shows the
rightful one. Each that is honoured has a task of its own, on the manager's own target, that is at
one stage at every moment and calls the service once at most; success is reported when the service
answers so to the call, and its error when it fails. The service is told to let a client go for no
other reason, so not more often than the client has been attached. -/
theorem Reachable.let_go_once {service : Service} {r : Run}
    (reachable : Reachable .registry service r) :
    (r.world.attachments.Pairwise fun a b => a.token ≠ b.token) ∧
    (∀ client token, r.world.clients.token? client = some token ↔ r.world.Entitled client token) ∧
    (∀ origin client token, r.world.Judges origin client token) ∧
    (∀ next, r.Next next → ∀ origin running client token task,
      .received origin running (.disconnect client token task) ∈ r.world.newly next.world →
      r.world.Takes next.world origin client token task) ∧
    (r.world.releases.map (·.task)).Nodup ∧
    (∀ c ∈ r.world.releases, ∃! stage, r.world.Detaches c stage) ∧
    (∀ c ∈ r.world.releases,
      c.Reported (service.answer? c.task r.world.dealings) r.world.trace) ∧
    (∀ running task client, .called running (.detach task client) ∈ r.world.trace →
      running = some defaultTarget ∧ ⟨task, client⟩ ∈ r.world.releases) ∧
    ∀ client, r.world.releases.countP (·.client = client) ≤
      r.world.attachments.countP (·.client = client) := by
  have ledger := reachable.ledger
  have attended := reachable.attended
  refine ⟨reachable.kept.provenance.unlike, reachable.recorded,
    reachable.recorded.judges reachable.manager, ?_, ledger.releases_nodup,
    fun c member => ledger.detaches member, fun c member => ledger.reported attended member,
    fun running task client told => ledger.detach_called told, fun client => ?_⟩
  · intro next moves origin running client token task told
    exact (reachable.tableChange moves).takes told
  · exact Nat.le_trans (Nat.le_add_right _ _) (reachable.balanced client)

/-- A service that lets the first client go, fails to let the second one go and is slow after. -/
def reluctant : Service :=
  { disconnect := [{}, { verdict := .failure (.service "busy") }, { gate := some "gate" }] }

/-- One client was let go, the next one was not, one is on its way out, and the last one has to
wait. A disconnect with a foreign token came to nothing. -/
def fourGone : Run :=
  ⟨(World.initial .registry reluctant).takeAll
    [.attach "first", .attach "second", .attach "third", .attach "last",
      .managerDisconnect ⟨3⟩ "foreign", .destroy "first", .destroy "second", .destroy "third",
      .pump .main, .destroy "last"], []⟩

set_option maxRecDepth 4000 in
theorem let_go_once_fourGone :
    (fourGone.world.releases.map fun c =>
        Release.Stage.read (fourGone.world.placesOf c.task) (fourGone.world.account c.task)) =
        [.queued, .calling, .answered, .answered] ∧
      .logged (.clientDetached 0 ⟨1⟩) ∈ fourGone.world.trace ∧
      .logged (.detachFailed 1 ⟨2⟩ (.service "busy")) ∈ fourGone.world.trace ∧
      reluctant.answer? 0 fourGone.world.dealings = some (.ok none) ∧
      reluctant.answer? 1 fourGone.world.dealings = some (.error (.service "busy")) ∧
      (fourGone.world.releases.map (·.task)).Nodup ∧
      (∀ c ∈ fourGone.world.releases, ∃! stage, fourGone.world.Detaches c stage) ∧
      (∀ c ∈ fourGone.world.releases,
        c.Reported (reluctant.answer? c.task fourGone.world.dealings) fourGone.world.trace) ∧
      ∀ next, fourGone.Next next → ∀ origin running client token task,
        .received origin running (.disconnect client token task) ∈
          fourGone.world.newly next.world →
        fourGone.world.Takes next.world origin client token task := by
  have reached : Reachable .registry reluctant fourGone := .scenario .registry _
  obtain ⟨_, _, _, takes, apart, stages, reported, _⟩ := reached.let_go_once
  refine ⟨by decide +kernel, ?_, ?_, by rfl, by rfl, apart, stages, reported, takes⟩
  · exact List.mem_of_getElem? (i := 8) rfl
  · exact List.mem_of_getElem? (i := 5) rfl

end Run

end Proximity
