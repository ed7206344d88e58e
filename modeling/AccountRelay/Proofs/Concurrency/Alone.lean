import AccountRelay.Proofs.Concurrency.Runs
import AccountRelay.Proofs.Pipeline.Handing

/-! # Runs that are let alone

As long as no other run takes a step, a run goes through work that leaves the locks alone as a dialogue
would that is held with the world (`Runs.exists_alone`). An attempt under a lock is such work
(`Pipeline.asks_sendLocked`). In the world of a net whose bundler takes what it gets, it ends with the
operation accepted (`World.exists_run_finish`).
-/

namespace AccountRelay

variable {Id : Type} {sender : Address}

/-- Questions that leave the locks alone. -/
def ServiceRequest.IsLockless : ServiceRequest → Prop
  | .acquire _ | .release _ => False
  | _ => True

/-- Building an operation asks for no lock. -/
theorem ServiceRequest.IsBuilding.isLockless {request : ServiceRequest}
    (building : request.IsBuilding) : request.IsLockless := by
  cases request with
  | acquire | release => exact building.elim
  | _ => trivial

/-- An attempt under a lock neither takes a lock nor gives one back. -/
theorem Pipeline.asks_sendLocked (pipeline : Pipeline) (request : Request) :
    (pipeline.sendLocked request).Asks ServiceRequest.IsLockless := by
  rw [sendLocked_eq]
  have resolves : (pipeline.resolver.resolve request.wallet).Asks ServiceRequest.IsLockless :=
    pipeline.resolver.asks_resolve _ (fun _ => trivial) (fun _ _ => ⟨trivial, trivial⟩)
      fun _ _ => trivial
  exact resolves.bind fun wallet =>
    pipeline.asks_sendResolved request trivial (fun _ => (·.isLockless)) fun _ _ => trivial

namespace World

/-- How a world answers a run that is let alone: what is asked and answered is written down. -/
def answer (world : World Id) (run : Id) (request : ServiceRequest) (history : History Id) :
    request.Answer × History Id :=
  let asked := ⟨run, .asked request⟩ :: history
  let reply := world asked run request
  (reply, ⟨run, .answered request reply⟩ :: asked)

variable {world : World Id} {run : Id} {history : History Id}

/-- A run that is let alone puts a question and goes on with what the world answers. -/
theorem run_asking {α : Type} {request : ServiceRequest} {reply : request.Answer}
    (told : world (⟨run, .asked request⟩ :: history) run request = reply)
    (next : request.Answer → Consultation α) :
    (Services.asking request next).run (world.answer run) history =
      (next reply).run (world.answer run)
        (⟨run, .answered request reply⟩ :: ⟨run, .asked request⟩ :: history) := by
  subst told
  rfl

/-- Work that hands nothing over has nothing accepted. -/
theorem accepted_run_of_asks {α : Type} {work : Consultation α}
    (quiet : work.Asks ServiceRequest.IsQuiet) {outcome : Except Failure α} {after : History Id}
    (ended : work.run (world.answer run) history = (outcome, after)) :
    after.accepted sender = history.accepted sender := by
  induction work generalizing history with
  | done value =>
      cases ended
      rfl
  | fail failure =>
      cases ended
      rfl
  | ask request follow ih =>
      obtain ⟨quiet, asks⟩ := quiet
      refine (ih _ (asks _) ended).trans ?_
      cases request with
      | send operation entryPoint => exact absurd trivial quiet
      | _ => rfl

/-- The last check of an operation that packs lets it pass. -/
theorem exists_run_crossCheck (world : World Id) (pipeline : Pipeline) {signed : SignedOperation}
    {packed : PackedOperation} (packs : signed.operation.pack = .ok packed) :
    ∃ checked, (pipeline.crossCheck signed).run (world.answer run) history = (.ok (), checked) := by
  rw [Pipeline.crossCheck_of_packs packs]
  split
  · exact ⟨_, rfl⟩
  · exact ⟨_, rfl⟩

section OfNet

variable {net : LocalNet} {signed : SignedOperation} {packed : PackedOperation}

/-- The bundler of a net that takes what it gets takes an operation that packs. -/
theorem exists_run_submit (takes : net.rejectSend = none) (packs : signed.operation.pack = .ok packed)
    (entryPoint : Address) :
    ∃ hash after, (Submission.submit entryPoint signed).run ((ofNet net).answer run) history =
        (.ok hash, after) ∧
      after.accepted signed.operation.sender =
        signed.operation.nonce :: history.accepted signed.operation.sender := by
  obtain ⟨hash, told⟩ : ∃ hash,
      ofNet net (⟨run, .asked (.send signed.operation entryPoint)⟩ :: history) run
        (.send signed.operation entryPoint) = (.ok hash : Except Failure Hash) := by
    refine ⟨packed.hash entryPoint LocalNet.localChain, ?_⟩
    change (net.take signed.operation entryPoint).1 = _
    rw [LocalNet.take, takes, packs]
    rfl
  have sends : (Services.send signed.operation entryPoint).run ((ofNet net).answer run) history =
      (.ok hash,
        ⟨run, .answered (.send signed.operation entryPoint) (.ok hash : Except Failure Hash)⟩ ::
          ⟨run, .asked (.send signed.operation entryPoint)⟩ :: history) :=
    run_asking told .ofExcept
  have taken : (Act.answered (.send signed.operation entryPoint)
      (.ok hash : Except Failure Hash)).accepted? signed.operation.sender =
        some signed.operation.nonce := if_pos rfl
  have accepted (earlier : History Id) : History.accepted signed.operation.sender
      (⟨run, .answered (.send signed.operation entryPoint) (.ok hash : Except Failure Hash)⟩ ::
        earlier) = signed.operation.nonce :: earlier.accepted signed.operation.sender :=
    History.accepted_cons_of_some taken earlier
  rw [Submission.submit, Dialogue.run_bind, sends]
  dsimp only
  split
  · exact ⟨_, _, rfl, accepted _⟩
  · exact ⟨_, _, rfl, accepted _⟩

/-- Once an operation that packs is signed, a net whose bundler takes what it gets has it accepted. -/
theorem exists_run_finish (takes : net.rejectSend = none) (pipeline : Pipeline)
    (packs : signed.operation.pack = .ok packed) :
    ∃ hash after, (pipeline.finish signed).run ((ofNet net).answer run) history = (.ok hash, after) ∧
      after.accepted signed.operation.sender =
        signed.operation.nonce :: history.accepted signed.operation.sender := by
  obtain ⟨checked, checks⟩ := exists_run_crossCheck (ofNet net) pipeline packs
  have quiet := (pipeline.asks_crossCheck signed).mono fun _ => ServiceRequest.IsBuilding.isQuiet
  rw [Pipeline.finish, Dialogue.run_bind, checks, ← accepted_run_of_asks quiet checks]
  exact exists_run_submit takes packs _

end OfNet

end World

namespace Runs

variable [DecidableEq Id] (world : World Id) {runs : Runs Id} {run : Id}

/-- A run that is ready puts its question. -/
theorem step_of_ready {request : ServiceRequest} {next : request.Answer → Consultation Hash}
    (ready : runs.position run = .ready (.ask request next)) :
    runs.step world run =
      { locks := onQuestion runs.locks run request
        position := Function.update runs.position run (.waiting request next)
        history := ⟨run, .asked request⟩ :: runs.history } := by
  rw [step, ready]

/-- A run whose answer is there takes it. -/
theorem step_of_answered {request : ServiceRequest} {next : request.Answer → Consultation Hash}
    (waits : runs.position run = .waiting request next)
    (answered : isAnswered (onLook runs.locks run request) run request = true) :
    runs.step world run =
      { locks := onLook runs.locks run request
        position := Function.update runs.position run
          (.ready (next (world runs.history run request)))
        history := ⟨run, .answered request (world runs.history run request)⟩ :: runs.history } := by
  rw [step, waits]
  exact if_pos answered

/-- A question that leaves the locks alone is put and answered in two steps. -/
theorem step_step_of_isLockless {request : ServiceRequest} (lockless : request.IsLockless)
    {next : request.Answer → Consultation Hash}
    (ready : runs.position run = .ready (.ask request next)) :
    (runs.step world run).step world run =
      { locks := runs.locks
        position := Function.update runs.position run
          (.ready (next (world.answer run request runs.history).1))
        history := (world.answer run request runs.history).2 } := by
  have questions : onQuestion runs.locks run request = runs.locks := by
    cases request with
    | acquire | release => exact lockless.elim
    | _ => rfl
  have looks : onLook runs.locks run request = runs.locks := by
    cases request with
    | acquire | release => exact lockless.elim
    | _ => rfl
  have answered : isAnswered (onLook runs.locks run request) run request = true := by
    cases request with
    | acquire => exact lockless.elim
    | _ => rfl
  have waits : ({
      locks := runs.locks
      position := Function.update runs.position run (.waiting request next)
      history := ⟨run, .asked request⟩ :: runs.history } : Runs Id).position run =
        .waiting request next := Function.update_self _ _ _
  rw [step_of_ready world ready, questions, step_of_answered world waits answered, looks,
    Function.update_idem]
  rfl

/-- **A run that is let alone gets through.** Work that leaves the locks alone is done after some steps of
the run, and has gone as if it were held with the world by itself. -/
theorem exists_alone {α : Type} {work : Consultation α} {next : Except Failure α → Consultation Hash}
    (asks : work.Asks ServiceRequest.IsLockless)
    (ready : runs.position run = .ready (work.attempt >>= next)) :
    ∃ steps, (List.replicate steps run).foldl (step world) runs =
      { locks := runs.locks
        position := Function.update runs.position run
          (.ready (next (work.run (world.answer run) runs.history).1))
        history := (work.run (world.answer run) runs.history).2 } := by
  induction work generalizing runs with
  | done value =>
      have same : Function.update runs.position run (.ready (next (.ok value))) = runs.position :=
        Function.update_eq_self_iff.mpr ready.symm
      exact ⟨0, congrArg (fun position => { runs with position }) same.symm⟩
  | fail failure =>
      have same : Function.update runs.position run (.ready (next (.error failure))) = runs.position :=
        Function.update_eq_self_iff.mpr ready.symm
      exact ⟨0, congrArg (fun position => { runs with position }) same.symm⟩
  | ask request follow ih =>
      obtain ⟨lockless, asks⟩ := asks
      have answered := step_step_of_isLockless world lockless ready
      have goes_on : ((runs.step world run).step world run).position run =
          .ready ((follow (world.answer run request runs.history).1).attempt >>= next) := by
        rw [answered]
        exact Function.update_self _ _ _
      obtain ⟨steps, ended⟩ := ih _ (asks _) goes_on
      -- one step to put the question and one to be answered
      refine ⟨steps + 2, ?_⟩
      rw [List.replicate_succ, List.replicate_succ, List.foldl_cons, List.foldl_cons, ended, answered,
        Function.update_idem]
      rfl

end Runs

end AccountRelay
