import Proximity.Proofs.Origins
import Proximity.Proofs.TableChanges

/-! The service only sees what was admitted. Each call that starts a session comes of a request of
its own, and what the request is judged by is the client table at the moment it comes, whatever
happens to the table before its task runs. -/

set_option autoImplicit false

namespace Proximity

def Occurrence.rejected? : Occurrence → Option Notice
  | .logged (.requestRejected client kind reason) => some (.requestRejected client kind reason)
  | _ => none

theorem Occurrence.rejected?_of_isFiled {o : Occurrence} (other : o.isFiled = false) :
    o.rejected? = none := by
  cases o with
  | logged notice => cases notice <;> first | rfl | cases other
  | _ => rfl

namespace World

variable {w next : World}

/-- How the manager judges a request when it comes. It is rejected if its client is not attached,
and else if its config breaks a limit; the reason is logged, and the client table stays as it is. -/
structure Admits (w next : World) (request : Request) (rejection : Option Error) : Prop where
  admitted : rejection = none ↔
    w.clients.isAttached request.client = true ∧ request.config.check = .ok ()
  unknown : w.clients.isAttached request.client = false →
    rejection = some (.unknownClient request.client)
  invalid : ∀ violation, w.clients.isAttached request.client = true →
    request.config.check = .error violation → rejection = some (.ofViolation violation)
  logged : (w.newly next).filterMap Occurrence.rejected? = rejection.toList.map fun reason =>
    .requestRejected request.client request.config.kind reason
  still : next.clients = w.clients
  reason : ∀ reason ∈ rejection, (Notice.requestRejected request.client request.config.kind
    reason).fields.lookup "reason" = some reason.message

theorem TableChange.admits (changes : w.TableChange next) {origin : Option SessionRef}
    {running : Option Target} {task : TaskRef} {request : Request} {target : Target}
    {rejection : Option Error}
    (told : .received origin running (.request task request target rejection) ∈ w.newly next) :
    w.Admits next request rejection := by
  cases changes with
  | quiet _ _ quiet => cases quiet _ told
  | attached _ _ _ _ facts => simpa using (facts.mem_newly rfl).1 told
  | disconnected _ _ _ _ takes =>
    obtain ⟨dropped, only, facts⟩ := takes.told
    rcases List.mem_append.1 ((facts.mem_newly rfl).1 told) with gone | other
    · cases only _ gone
    · cases List.mem_singleton.1 other
  | requested asker asked on clients hears =>
    obtain ⟨facts, heard, each⟩ := hears.facts
    rcases each _ ((heard.mem_newly rfl).1 told) with other | ⟨_, other⟩ | fact
    · cases other
    · cases other
    cases fact
    obtain ⟨dropped, only, whole⟩ := hears
    have logged := whole.filterMap_newly fun _ => Occurrence.rejected?_of_isFiled
    refine ⟨?_, ?_, ?_, ?_, ?_, ?_⟩
    · unfold rejection?
      cases w.clients.isAttached request.client <;> cases request.config.check <;> simp
    · intro unknown
      simp [rejection?, unknown]
    · intro violation known broken
      simp [rejection?, known, broken]
    · rw [logged]
      have quiet : dropped.filterMap Occurrence.rejected? = [] :=
        List.filterMap_eq_nil_iff.2 fun o member => by rw [only o member]; rfl
      simp [quiet, Occurrence.rejected?, Function.comp_def]
    · exact clients
    · intro reason _
      rfl

/-- A call that starts a session comes after a request that was admitted and names what the request
names, and is made while the request's target is being run. -/
theorem Grounded.start (grounded : w.Grounded) {running : Option Target} {task : TaskRef}
    {client : ClientId} {config : Config}
    (told : .called running (.start task client config) ∈ w.trace) :
    ∃ origin asked listener target, running = some target ∧
      w.Follows (.called running (.start task client config))
        (.received origin asked (.request task ⟨client, config, listener⟩ target none)) := by
  obtain ⟨o, c, read, follows, rfl, target, call⟩ := grounded _ _ _ told rfl
  rw [c.call?_made] at call
  cases c with
  | release c => cases call
  | request f =>
    obtain ⟨origin, asked, rfl⟩ := Occurrence.eq_received_of_request read
    simp only at call
    split at call
    · cases call
    · rename_i admitted
      cases call
      rw [Bool.not_eq_true, Option.isSome_eq_false_iff, Option.isNone_iff_eq_none] at admitted
      rw [admitted] at follows
      exact ⟨origin, asked, f.request.listener, f.target, target, follows⟩

theorem Ledger.rejected (ledger : w.Ledger) {f : Filing} (member : f ∈ w.filings)
    (rejected : f.rejection.isSome = true) (running : Option Target) (client : ClientId)
    (config : Config) : .called running (.start f.task client config) ∉ w.trace := by
  intro told
  obtain ⟨c, known, same, _, call⟩ := ledger.called told rfl
  -- No two commissions have one task, so the call would be that of the request itself.
  obtain rfl : c = .request f :=
    List.inj_on_of_nodup_map ledger.apart known (mem_filings.1 member) same
  have none_made := (Commission.request f).call?_made
  simp only [rejected, if_true] at none_made
  cases none_made.symm.trans call

end World

namespace Run

/-- Every call that starts a session comes of a request of its own that was made before. It names
what the request named, and is made while the request's target is being run; when the request came,
its client was attached and its config broke no limit. A request that was rejected when it came
never leads to a call. -/
theorem History.admission {service : Service} {r : Run} {earlier : List Run}
    (history : History .registry service (r :: earlier)) :
    (r.world.trace.filterMap Occurrence.caller?).Nodup ∧
    (r.world.filings.map (·.task)).Nodup ∧
    (∀ running task client config, .called running (.start task client config) ∈ r.world.trace →
      ∃ origin asked listener target, running = some target ∧
        r.world.Follows (.called running (.start task client config))
          (.received origin asked (.request task ⟨client, config, listener⟩ target none)) ∧
        ∃ before next, Moment (r :: earlier) before next ∧
          .received origin asked (.request task ⟨client, config, listener⟩ target none) ∈
            before.world.newly next.world ∧
          before.world.clients.isAttached client = true ∧ config.check = .ok ()) ∧
    (∀ f ∈ r.world.filings, f.rejection.isSome = true → ∀ running client config,
      .called running (.start f.task client config) ∉ r.world.trace) ∧
    ∀ before next, Moment (r :: earlier) before next →
      ∀ origin running task request target rejection,
        .received origin running (.request task request target rejection) ∈
          before.world.newly next.world →
        before.world.Admits next.world request rejection ∧
        before.world.Files next.world origin ⟨task, request, target, rejection⟩ := by
  have reachable := history.reachable
  have ledger := reachable.ledger
  have judged {before next : Run} (moment : Moment (r :: earlier) before next)
      {origin : Option SessionRef} {running : Option Target} {task : TaskRef} {request : Request}
      {target : Target} {rejection : Option Error}
      (told : .received origin running (.request task request target rejection) ∈
        before.world.newly next.world) :
      before.world.Admits next.world request rejection ∧
      before.world.Files next.world origin ⟨task, request, target, rejection⟩ := by
    obtain ⟨reached, moves⟩ := history.moment moment
    obtain ⟨_, _, transition, _⟩ := moves.transition
    exact ⟨(reached.tableChange moves).admits told, reached.ledger.files transition told⟩
  refine ⟨ledger.callers_nodup, ledger.distinct, ?_, fun f member rejected =>
    ledger.rejected member rejected, fun before next moment _ _ _ _ _ _ => judged moment⟩
  intro running task client config told
  obtain ⟨origin, asked, listener, target, runs, follows⟩ := reachable.grounded.start told
  obtain ⟨before, next, moment, new⟩ := history.told follows.mem.2
  exact ⟨origin, asked, listener, target, runs, follows, before, next, moment, new,
    (judged moment new).1.admitted.1 rfl⟩

/-- The first request comes before its client is attached, and its task runs when it is. The second
one breaks a limit, and the third one is admitted. -/
def threeAsked : Run :=
  ⟨(World.initial .registry {}).takeAll
    [.managerRequest ⟨1⟩ (.publish {}) .silent none, .attach "only",
      .request "only" (.subscribe {}) .silent (some .alt),
      .request "only" (.publish ⟨"a", [], [], .solicited, 0, none, true⟩) .silent (some .alt),
      .pump .main, .pump .alt], []⟩

theorem admission_threeAsked : ∃ earlier, History .registry {} (threeAsked :: earlier) ∧
    threeAsked.world.filings.map (fun f => f.rejection.map (·.message)) =
      [none, some "Invalid discovery config: service name is empty",
        some "Unknown client: 1"] ∧
    threeAsked.world.trace.filterMap Occurrence.caller? = [2] ∧
    (∀ f ∈ threeAsked.world.filings, f.rejection.isSome = true → ∀ running client config,
      .called running (.start f.task client config) ∉ threeAsked.world.trace) ∧
    ∀ running client config,
      .called running (.start 2 client config) ∈ threeAsked.world.trace →
      ∃ origin asked listener target, running = some target ∧
        threeAsked.world.Follows (.called running (.start 2 client config))
          (.received origin asked (.request 2 ⟨client, config, listener⟩ target none)) := by
  have reached : Reachable .registry {} threeAsked := .scenario .registry _
  obtain ⟨earlier, history⟩ := reached.history
  obtain ⟨_, _, starts, rejected, _⟩ := history.admission
  refine ⟨earlier, history, by decide +kernel, by decide +kernel, rejected, ?_⟩
  intro running client config told
  obtain ⟨origin, asked, listener, target, runs, follows, _⟩ := starts _ _ _ _ told
  exact ⟨origin, asked, listener, target, runs, follows⟩

end Run

end Proximity
