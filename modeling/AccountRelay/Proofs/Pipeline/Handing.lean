import AccountRelay.LocalMachine
import AccountRelay.Proofs.Pipeline.Probing
import AccountRelay.Proofs.Registry.Creating

/-! # What is handed to the bundler

The operation that an attempt hands to the bundler acts for the resolved wallet and calls what the
request says, whatever comes of the attempt (`Pipeline.hands_send`). Through a relay it is the object
of that operation that is posted, and no other object is posted under the method that hands
operations over (`Relay.hands_of_consult`). Nothing stands between the owner's signature and the post
(`Relay.exists_ends_finish`).
-/

namespace AccountRelay

variable {α β : Type} {holds : Operation → Prop}

/-- A question that hands over no operation but one of a kind. -/
def ServiceRequest.Hands (holds : Operation → Prop) (request : ServiceRequest) : Prop :=
  ∀ operation entryPoint, request = .send operation entryPoint → holds operation

/-- A question that hands over no operation. -/
def ServiceRequest.IsQuiet (request : ServiceRequest) : Prop :=
  ¬request.IsHanding

/-- A question that hands over a certain kind hands over any wider kind. -/
theorem ServiceRequest.Hands.mono {wider : Operation → Prop} {request : ServiceRequest}
    (hands : request.Hands holds) (weaker : ∀ operation, holds operation → wider operation) :
    request.Hands wider :=
  fun operation entryPoint same => weaker operation (hands operation entryPoint same)

/-- A question of a build hands nothing over. -/
theorem ServiceRequest.IsBuilding.isQuiet {request : ServiceRequest} (building : request.IsBuilding) :
    request.IsQuiet := by
  cases request with
  | send => exact building.elim
  | _ => exact not_false

/-- What hands nothing over hands over nothing of the wrong kind. -/
theorem ServiceRequest.IsQuiet.hands {request : ServiceRequest} (quiet : request.IsQuiet) :
    request.Hands holds := by
  rintro operation entryPoint rfl
  exact absurd trivial quiet

section Exchanges

variable {exchanges : List (Exchange Services)} {consultation : Consultation α}

/-- Work that asks quiet questions hands over nothing. -/
theorem hands_of_quiet {outcome : Except Failure α}
    (quiet : consultation.Asks ServiceRequest.IsQuiet) (ends : consultation.Ends exchanges outcome) :
    ∀ exchange ∈ exchanges, exchange.request.Hands holds :=
  (quiet.mono fun _ => (·.hands)).of_ends ends

/-- Behind a part that hands nothing over, what follows decides. -/
theorem hands_of_quiet_bind {next : α → Consultation β} {outcome : Except Failure β}
    (quiet : consultation.Asks ServiceRequest.IsQuiet)
    (ends : (consultation >>= next).Ends exchanges outcome)
    (follows : ∀ first rest value, consultation.Ends first (.ok value) →
      (next value).Ends rest outcome → ∀ exchange ∈ rest, exchange.request.Hands holds) :
    ∀ exchange ∈ exchanges, exchange.request.Hands holds := by
  rcases ends.bind with ⟨failure, -, failed⟩ | ⟨first, rest, value, rfl, ended, goes_on⟩
  · exact hands_of_quiet quiet failed
  · exact List.forall_mem_append.mpr
      ⟨hands_of_quiet quiet ended, follows first rest value ended goes_on⟩

/-- What is done while a lock is held hands over what it does without. -/
theorem Services.hands_of_holding {sender : Address} {action : Consultation α}
    {outcome : Except Failure α} (ends : (holding sender action).Ends exchanges outcome)
    (acts : ∀ own, action.Ends own outcome → ∀ exchange ∈ own, exchange.request.Hands holds) :
    ∀ exchange ∈ exchanges, exchange.request.Hands holds := by
  obtain ⟨taken, own, given, rfl, acted⟩ := Services.ends_holding ends
  have acquires : ServiceRequest.Hands holds (.acquire sender) := nofun
  have releases : ServiceRequest.Hands holds (.release sender) := nofun
  simp only [List.cons_append, List.forall_mem_cons, List.forall_mem_append]
  exact ⟨acquires, acts own acted, releases, nofun⟩

end Exchanges

/-! ## Stages -/

/-- An existing wallet is resolved to itself. -/
theorem Resolver.sender_of_resolve {resolver : Resolver} {sender : Address} {wallet : Resolution}
    {exchanges : List (Exchange Services)}
    (ends : (resolver.resolve (.existing sender)).Ends exchanges (.ok wallet)) :
    wallet.sender = sender := by
  obtain ⟨_, _, resolution, rfl, inspects, ends⟩ := ends.bind_ok
  obtain ⟨_, _, deployed, rfl, -, -, ⟨⟩⟩ := inspects.bind_ok
  obtain ⟨_, _, -, rfl, -, -, ⟨⟩⟩ := ends.bind_ok
  rfl

/-- Submission hands over the operation that was signed. -/
theorem Submission.hands_submit {entryPoint : Address} {signed : SignedOperation}
    {exchanges : List (Exchange Services)} {outcome : Except Failure Hash}
    (ends : (submit entryPoint signed).Ends exchanges outcome) (held : holds signed.operation) :
    ∀ exchange ∈ exchanges, exchange.request.Hands holds := by
  have hands : (submit entryPoint signed).Asks (ServiceRequest.Hands holds) := by
    refine Dialogue.Asks.bind ⟨?_, .ofExcept⟩ fun hash => ?_
    · rintro _ _ ⟨⟩
      exact held
    · split
      · exact ⟨nofun, fun _ => trivial⟩
      · trivial
  exact hands.of_ends ends

/-- From any round on, a wait hands nothing over. -/
theorem Submission.asks_waitFrom (hash : Hash) (interval timeout start : Duration) (rounds : Nat) :
    (waitFrom hash interval timeout start rounds).Asks ServiceRequest.IsQuiet := by
  induction rounds with
  | zero => trivial
  | succ rounds ih =>
      have state : (receiptState hash).Asks ServiceRequest.IsQuiet := by
        refine Dialogue.Asks.bind ⟨not_false, .ofExcept⟩ ?_
        rintro (_ | receipt)
        · trivial
        · trivial
      have clock : Services.uptime.Asks ServiceRequest.IsQuiet := ⟨not_false, fun _ => trivial⟩
      refine clock.bind fun time => ?_
      split
      · trivial
      · refine state.attempt.bind ?_
        rintro (failure | _ | receipt)
        · exact ⟨not_false, fun _ => ⟨not_false, fun _ => ih⟩⟩
        · exact ⟨not_false, fun _ => ih⟩
        · trivial

/-- A wait hands nothing over. -/
theorem Submission.asks_wait (hash : Hash) (interval timeout : Duration) (rounds : Nat) :
    (wait hash interval timeout rounds).Asks ServiceRequest.IsQuiet :=
  ⟨not_false, fun start => asks_waitFrom hash interval timeout start rounds⟩

namespace Pipeline

variable {pipeline : Pipeline} {request : Request} {wallet : Resolution}
  {exchanges : List (Exchange Services)} {outcome : Except Failure Hash}

/-- Whether an operation acts for a sender and calls something. -/
def Acts (sender : Address) (callData : Bytes) (operation : Operation) : Prop :=
  operation.sender = sender ∧ operation.callData = callData

/-- Whether an operation is the draft for a resolved wallet with gas, fees, the paymaster's data and
the signature filled in. -/
def Completes (pipeline : Pipeline) (request : Request) (wallet : Resolution)
    (operation : Operation) : Prop :=
  ∃ nonce gas fees data signature, operation =
    { (pipeline.draft request wallet nonce).operation with
      gas, fees, paymasterData := data, signature }

/-- A draft acts for its wallet, with what deploys it, and calls what the request says. -/
theorem draft_operation (pipeline : Pipeline) (request : Request) (wallet : Resolution)
    (nonce : Uint256) :
    let operation := (pipeline.draft request wallet nonce).operation
    operation.sender = wallet.sender ∧ operation.factory = wallet.init.map (·.1) ∧
      operation.factoryData = (wallet.init.map (·.2)).getD [] ∧
      operation.callData = request.callData := by
  unfold draft
  split
  · exact ⟨rfl, rfl, rfl, rfl⟩
  · exact ⟨rfl, rfl, rfl, rfl⟩

/-- What completes a draft acts for its wallet, and calls what the request says. -/
theorem Completes.acts {operation : Operation} (completes : pipeline.Completes request wallet operation) :
    Acts wallet.sender request.callData operation := by
  obtain ⟨nonce, gas, fees, data, signature, rfl⟩ := completes
  obtain ⟨sender, -, -, callData⟩ := pipeline.draft_operation request wallet nonce
  exact ⟨sender, callData⟩

/-- What is handed over for a resolved wallet is its draft, completed. -/
theorem hands_sendResolved (ends : (pipeline.sendResolved request wallet).Ends exchanges outcome) :
    ∀ exchange ∈ exchanges, exchange.request.Hands (pipeline.Completes request wallet) := by
  have quiet (request : ServiceRequest) (building : request.IsBuilding) : request.IsQuiet :=
    building.isQuiet
  have reads : (Services.nonce wallet.sender).Asks ServiceRequest.IsQuiet := ⟨not_false, .ofExcept⟩
  refine hands_of_quiet_bind reads ends fun _ _ nonce _ ends => ?_
  have estimating := (Draft.asks_estimate (pipeline.draft request wallet nonce)
    pipeline.deployment.gasPolicy pipeline.deployment.entryPoint).mono quiet
  refine hands_of_quiet_bind estimating ends fun _ _ estimated estimates ends => ?_
  have settling := (pipeline.asks_settle request estimated).mono quiet
  refine hands_of_quiet_bind settling ends fun _ _ settled settles ends => ?_
  have signing := settled.asks_sign.mono quiet
  refine hands_of_quiet_bind signing ends fun _ _ signed signs ends => ?_
  have checking := (pipeline.asks_crossCheck signed).mono quiet
  refine hands_of_quiet_bind checking ends fun _ _ _ _ ends => ?_
  obtain ⟨raw, gas, fees, -, written⟩ := Draft.ends_estimate estimates
  obtain ⟨-, data, replaced⟩ := ends_settle settles
  obtain ⟨packed, signature, -, sealed⟩ := Draft.ends_sign signs
  refine Submission.hands_submit ends ⟨nonce, gas, fees, data, signature, ?_⟩
  rw [sealed, replaced, written]

/-- **What is handed over is what was asked for.** An attempt for an existing wallet hands over no
operation but one of that wallet, with the call data of the request. -/
theorem hands_send {sender : Address} (existing : request.wallet = .existing sender)
    (ends : (pipeline.send request).Ends exchanges outcome) :
    ∀ exchange ∈ exchanges, exchange.request.Hands (Acts sender request.callData) := by
  rw [send, existing] at ends
  have held : (Services.holding sender (pipeline.sendLocked request)).Ends exchanges outcome := ends
  refine Services.hands_of_holding held fun own locked => ?_
  rw [sendLocked_eq, existing] at locked
  have resolves : (pipeline.resolver.resolve (.existing sender)).Asks ServiceRequest.IsQuiet :=
    pipeline.resolver.asks_resolve _ (fun _ => not_false) (fun _ => nofun) fun _ _ => not_false
  refine hands_of_quiet_bind resolves locked fun _ _ wallet resolved sent => ?_
  rw [← Resolver.sender_of_resolve resolved]
  exact fun exchange member => (hands_sendResolved sent exchange member).mono fun _ => (·.acts)

end Pipeline

/-! ## Through a relay -/

namespace Bundler

/-- The method under which operations are handed over. -/
def sendMethod : String := "eth_sendUserOperation"

/-- A post that hands over no operation but one of a kind: if it calls the method for that, it is with
the object of such an operation. -/
def Hands (holds : Operation → Prop) (request : HttpRequest) : Prop :=
  request.body.get? "method" = some (.string sendMethod) →
    ∃ (operation : Operation) (entryPoint : Address),
      request.body = callBody sendMethod [operation.toSendBody, .string entryPoint.toText] ∧
        holds operation

/-- A call can be told by its method. -/
theorem get?_method_callBody (method : String) (params : List Json.Value) :
    (callBody method params).get? "method" = some (.string method) :=
  Json.Value.get?_ofMembers_of_mem (by simp) (by simp)

/-- Who asks the bundler for something puts one post. -/
theorem asks_asked {allowed : HttpRequest → Prop} (url method : String) (params : List Json.Value)
    (read : Json.Value → Except Failure α) (permitted : allowed ⟨url, callBody method params⟩) :
    (asked url method params read).Asks allowed := by
  have calls : (call url method params).Asks allowed := by
    have posts : (Http.post url (callBody method params)).Asks allowed :=
      ⟨permitted, fun _ => .ofExcept _⟩
    exact posts.bind fun reply => (Dialogue.Asks.ofExcept _).bind fun _ => .ofExcept _
  exact calls.bind fun result => .ofExcept _

/-- Another method hands nothing over. -/
theorem hands_of_ne {url method : String} {params : List Json.Value} (other : method ≠ sendMethod) :
    Hands holds ⟨url, callBody method params⟩ := by
  intro same
  rw [get?_method_callBody] at same
  cases same
  exact absurd rfl other

end Bundler

/-- A request to the machine that hands over no operation but one of a kind. -/
def MachineRequest.Hands (holds : Operation → Prop) : MachineRequest → Prop
  | .http request => Bundler.Hands holds request
  | _ => True

/-- A request that hands over a certain kind hands over any wider kind. -/
theorem MachineRequest.Hands.mono {wider : Operation → Prop} {request : MachineRequest}
    (hands : request.Hands holds) (weaker : ∀ operation, holds operation → wider operation) :
    request.Hands wider := by
  cases request with
  | http request =>
      intro handing
      obtain ⟨operation, entryPoint, posted, held⟩ := hands handing
      exact ⟨operation, entryPoint, posted, weaker operation held⟩
  | file | environment | node | host => trivial

namespace Relay

/-- A relay posts no other operation than it is asked to send. -/
theorem asks_answer_hands (relay : Relay) {request : ServiceRequest} (hands : request.Hands holds) :
    (relay.answer request).Asks (MachineRequest.Hands holds) := by
  have node {α : Type} (work : NodeWork α) :
      (relay.fromNode work).Asks (MachineRequest.Hands holds) :=
    relay.asks_fromNode work fun _ => trivial
  have bundler {α : Type} (method : String) (params : List Json.Value)
      (read : Json.Value → Except Failure α)
      (posts : Bundler.Hands holds ⟨relay.bundlerUrl, Bundler.callBody method params⟩) :
      (fromBundler (Bundler.asked relay.bundlerUrl method params read)).Asks
        (MachineRequest.Hands holds) :=
    asks_fromBundler (Bundler.asks_asked _ _ _ _ posts)
  cases request with
  | codeAt | gasPrice | chainId | balanceOf | counterfactualAddress | nonce | operationHash
  | paymasterHash | fund | tokenBalance => exact node _
  | estimate | receipt | priorityFee => exact bundler _ _ _ (Bundler.hands_of_ne (by decide))
  | send operation entryPoint =>
    exact bundler _ _ _ fun _ => ⟨operation, entryPoint, rfl, hands operation entryPoint rfl⟩
  | now | uptime | pause | warn => exact Machine.asks_request trivial
  | createAccountCallData | ownerSign | paymasterSign | acquire | release => trivial

/-- Through a relay, a consultation of quiet questions posts no operation. -/
theorem asks_consult_hands (relay : Relay) {consultation : Consultation α}
    (quiet : consultation.Asks ServiceRequest.IsQuiet) :
    (relay.consult consultation).Asks (MachineRequest.Hands holds) :=
  quiet.interpret fun _ quiet => relay.asks_answer_hands quiet.hands

/-- Through a relay no other operation is posted than a consultation hands over. -/
theorem hands_of_consult (relay : Relay) {consultation : Consultation α}
    {below : List (Exchange Machine)} {outcome : Except Failure α}
    (ends : (relay.consult consultation).Ends below outcome)
    (handed : ∀ exchanges, consultation.Ends exchanges outcome →
      ∀ exchange ∈ exchanges, exchange.request.Hands holds) :
    ∀ exchange ∈ below, exchange.request.Hands holds := by
  obtain ⟨exchanges, ends, serves⟩ := relay.serves_of_consult ends
  exact serves.forall_mem_below fun exchange own member answered =>
    (relay.asks_answer_hands (handed exchanges ends exchange member)).of_ends answered

/-- An operation that a consultation has the bundler take is posted through the relay. -/
theorem exists_post_of_consult (relay : Relay) {consultation : Consultation α}
    {below : List (Exchange Machine)} {outcome : Except Failure α}
    (ends : (relay.consult consultation).Ends below outcome)
    (takes : ∀ exchanges, consultation.Ends exchanges outcome →
      ∃ operation entryPoint accepted, ⟨.send operation entryPoint, .ok accepted⟩ ∈ exchanges) :
    ∃ exchange ∈ below, ∃ post, exchange.request = .http post ∧
      post.body.get? "method" = some (.string Bundler.sendMethod) := by
  obtain ⟨exchanges, ends, serves⟩ := relay.serves_of_consult ends
  obtain ⟨operation, entryPoint, accepted, member⟩ := takes exchanges ends
  obtain ⟨own, answered, within⟩ := serves.exists_own member
  obtain ⟨taken, ⟨⟩, posts⟩ := answered.attempt
  obtain ⟨reply, rest, rfl, -⟩ := posts
  exact ⟨_, within List.mem_cons_self, _, rfl, Bundler.get?_method_callBody _ _⟩

end Relay

/-! ## What is signed is posted -/

/-- Work ends somehow, whatever it asks. -/
theorem LocalMachine.exists_ends {ε : Type} (work : Dialogue Machine ε α) :
    ∃ exchanges outcome, work.Ends exchanges outcome := by
  obtain ⟨exchanges, ends⟩ := Dialogue.exists_ends_run answer work {}
  exact ⟨exchanges, _, ends⟩

/-- Work that succeeds with a machine has succeeded with exchanges that the machine goes along with. -/
theorem LocalMachine.exists_follows_of_isOk {ε : Type} {work : Dialogue Machine ε α}
    {machine : LocalMachine} (succeeds : (machine.run work).1.isOk = true) :
    ∃ exchanges value after, work.Ends exchanges (.ok value) ∧
      Dialogue.Follows answer machine exchanges after := by
  obtain ⟨exchanges, ends, follows⟩ := Dialogue.exists_follows_run answer work machine
  cases ended : (machine.run work).1 with
  | error error =>
      rw [ended] at succeeds
      cases succeeds
  | ok value =>
      rw [← LocalMachine.run, ended] at ends
      exact ⟨exchanges, value, _, ends, follows⟩

/-- Work that succeeds with a machine can succeed. -/
theorem LocalMachine.exists_ends_of_isOk {ε : Type} {work : Dialogue Machine ε α}
    {machine : LocalMachine} (succeeds : (machine.run work).1.isOk = true) :
    ∃ exchanges value, work.Ends exchanges (.ok value) := by
  obtain ⟨exchanges, value, _, ends, -⟩ := exists_follows_of_isOk succeeds
  exact ⟨exchanges, value, ends⟩

/-- What follows work goes on from its exchanges, if at all. -/
theorem Machine.exists_ends_bind {ε : Type} {work : Dialogue Machine ε α} {outcome : Except ε α}
    {exchanges : List (Exchange Machine)} (ends : work.Ends exchanges outcome)
    (next : α → Dialogue Machine ε β) :
    ∃ more later, (work >>= next).Ends (exchanges ++ more) later := by
  cases outcome with
  | ok value =>
      obtain ⟨more, later, goes_on⟩ := LocalMachine.exists_ends (next value)
      exact ⟨more, later, ends.of_bind goes_on⟩
  | error error => exact ⟨[], .error error, by simpa using ends.of_bind_error⟩

/-- An attempt up to the owner's signature. -/
def Pipeline.signLocked (pipeline : Pipeline) (request : Request) : Consultation SignedOperation := do
  let wallet ← pipeline.resolver.resolve request.wallet
  let nonce ← Services.nonce wallet.sender
  let draft := pipeline.draft request wallet nonce
  let estimated ← draft.estimate pipeline.deployment.gasPolicy pipeline.deployment.entryPoint
  let settled ← pipeline.settle request estimated
  settled.sign

/-- An attempt from the owner's signature on. -/
def Pipeline.finish (pipeline : Pipeline) (signed : SignedOperation) : Consultation Hash := do
  pipeline.crossCheck signed
  Submission.submit pipeline.deployment.entryPoint signed

/-- All that the last check can do about an operation that packs is to warn of its hash. -/
theorem Pipeline.crossCheck_of_packs {pipeline : Pipeline} {signed : SignedOperation}
    {packed : PackedOperation} (packs : signed.operation.pack = .ok packed) :
    pipeline.crossCheck signed =
      if packed.hash pipeline.deployment.entryPoint pipeline.deployment.chainId ≠ signed.hash then
        Services.warn .localHash
      else .done () := by
  rw [crossCheck, packs]
  rfl

/-- An attempt under a lock signs an operation and finishes it. -/
theorem Pipeline.sendLocked_eq_signLocked (pipeline : Pipeline) (request : Request) :
    pipeline.sendLocked request = pipeline.signLocked request >>= pipeline.finish := by
  simp only [sendLocked, signLocked, Dialogue.bind_assoc]
  rfl

namespace Relay

variable {relay : Relay} {pipeline : Pipeline} {signed : SignedOperation}
  {exchanges : List (Exchange Machine)}

/-- A relay holds a consultation part by part. -/
theorem consult_bind (relay : Relay) (consultation : Consultation α) (next : α → Consultation β) :
    relay.consult (consultation >>= next) =
      relay.consult consultation >>= fun value => relay.consult (next value) :=
  Dialogue.interpret_bind _ _ _

/-- A relay holds no locks, so what is done while one is held is attempted. -/
theorem consult_holding (relay : Relay) (sender : Address) (action : Consultation α) :
    relay.consult (Services.holding sender action) =
      relay.consult action.attempt >>= fun outcome => .ofExcept outcome := by
  rw [Services.holding]
  simp only [consult, Dialogue.interpret_bind]
  change (relay.consult action.attempt >>= fun outcome => relay.consult (.ofExcept outcome)) = _
  refine congrArg (Dialogue.andThen _) (funext fun outcome => ?_)
  cases outcome with
  | ok value => rfl
  | error failure => rfl

/-- A lock is no matter for a relay. -/
theorem ends_holding_iff {sender : Address} {action : Consultation α} {outcome : Except Failure α} :
    (relay.consult (Services.holding sender action)).Ends exchanges outcome ↔
      (relay.consult action).Ends exchanges outcome := by
  rw [consult_holding]
  constructor
  · intro ends
    rcases ends.bind with ⟨failure, -, failed⟩ | ⟨own, _, attempted, rfl, attempts, told⟩
    · obtain ⟨answered, attempts, -⟩ := relay.serves_of_consult failed
      obtain ⟨_, ⟨⟩, -⟩ := attempts.attempt
    · obtain ⟨rfl, rfl⟩ := Dialogue.Ends.ofExcept told
      rw [List.append_nil]
      exact attempts.of_interpret_attempt
  · intro ends
    obtain ⟨answered, acts, serves⟩ := relay.serves_of_consult ends
    have attempted : (relay.consult action.attempt).Ends exchanges (.ok outcome) :=
      Dialogue.Ends.of_serves acts.of_attempt serves
    rw [← List.append_nil exchanges]
    exact attempted.of_bind (.of_ofExcept outcome)

/-- An operation that packs passes the check of its hash, with a warning or without. -/
theorem exists_ends_crossCheck (relay : Relay) (pipeline : Pipeline) {packed : PackedOperation}
    (packs : signed.operation.pack = .ok packed) :
    ∃ own, (relay.consult (pipeline.crossCheck signed)).Ends own (.ok ()) := by
  rw [Pipeline.crossCheck_of_packs packs]
  split
  · exact ⟨[⟨.host (.warn .localHash), ()⟩], (), [], rfl, rfl, rfl⟩
  · exact ⟨[], rfl, rfl⟩

/-- The post that hands over a signed operation. -/
def post (relay : Relay) (pipeline : Pipeline) (signed : SignedOperation) : HttpRequest where
  url := relay.bundlerUrl
  body := Bundler.callBody Bundler.sendMethod
    [signed.operation.toSendBody, .string pipeline.deployment.entryPoint.toText]

/-- An operation that packs is posted in the end, whatever the endpoint replies. -/
theorem exists_ends_finish (relay : Relay) (pipeline : Pipeline) {packed : PackedOperation}
    (packs : signed.operation.pack = .ok packed) (reply : Except String HttpReply) :
    ∃ finishing outcome, ⟨.http (relay.post pipeline signed), reply⟩ ∈ finishing ∧
      (relay.consult (pipeline.finish signed)).Ends finishing outcome := by
  obtain ⟨own, checks⟩ := exists_ends_crossCheck relay pipeline packs
  have posts : ∃ follow, relay.consult (Submission.submit pipeline.deployment.entryPoint signed) =
      .ask (I := Machine) (.http (relay.post pipeline signed)) follow := ⟨_, rfl⟩
  obtain ⟨follow, posts⟩ := posts
  obtain ⟨more, outcome, goes_on⟩ := LocalMachine.exists_ends (follow reply)
  have submits : (relay.consult (Submission.submit pipeline.deployment.entryPoint signed)).Ends
      (⟨.http (relay.post pipeline signed), reply⟩ :: more) outcome := by
    rw [posts]
    exact ⟨reply, more, rfl, goes_on⟩
  refine ⟨own ++ ⟨.http (relay.post pipeline signed), reply⟩ :: more, outcome, by simp, ?_⟩
  rw [Pipeline.finish, consult_bind]
  exact checks.of_bind submits

/-- An operation that packs and that the bundler takes is known by the bundler's hash. -/
theorem exists_ends_finish_of_accepted {packed : PackedOperation} {own : List (Exchange Machine)}
    {hash : Hash} (packs : signed.operation.pack = .ok packed)
    (accepts : (relay.answer (.send signed.operation pipeline.deployment.entryPoint)).Ends own
      (.ok (.ok hash : Except Failure Hash))) :
    ∃ finishing, (relay.consult (pipeline.finish signed)).Ends finishing (.ok hash) := by
  obtain ⟨checking, checks⟩ := exists_ends_crossCheck relay pipeline packs
  have sends : (relay.consult (Services.send signed.operation pipeline.deployment.entryPoint)).Ends own
      (.ok hash) := by
    rw [← List.append_nil own]
    exact accepts.of_bind ⟨rfl, rfl⟩
  have submits : ∃ more, (relay.consult (Submission.submit pipeline.deployment.entryPoint signed)).Ends
      (own ++ more) (.ok hash) := by
    rw [Submission.submit, consult_bind]
    by_cases same : hash = signed.hash
    · refine ⟨[], sends.of_bind ?_⟩
      rw [if_neg (not_not_intro same)]
      exact ⟨rfl, rfl⟩
    · refine ⟨[⟨.host (.warn .bundlerHash), ()⟩], sends.of_bind ?_⟩
      rw [if_pos same]
      exact ⟨(), [], rfl, rfl, rfl⟩
  obtain ⟨more, submits⟩ := submits
  refine ⟨checking ++ (own ++ more), ?_⟩
  rw [Pipeline.finish, consult_bind]
  exact checks.of_bind submits

/-- An operation is sent by finding its sender, signing it and finishing. -/
theorem ends_send {request : Request} {sender : Address} {lead finishing : List (Exchange Machine)}
    {outcome : Except Failure Hash}
    (derives : (relay.consult (pipeline.resolver.senderAddress request.wallet)).Ends lead
      (.ok sender))
    (signs : (relay.consult (pipeline.signLocked request)).Ends exchanges (.ok signed))
    (finishes : (relay.consult (pipeline.finish signed)).Ends finishing outcome) :
    (relay.consult (pipeline.send request)).Ends (lead ++ (exchanges ++ finishing)) outcome := by
  have sends : (relay.consult (pipeline.sendLocked request)).Ends (exchanges ++ finishing) outcome := by
    rw [Pipeline.sendLocked_eq_signLocked, consult_bind]
    exact signs.of_bind finishes
  rw [Pipeline.send, consult_bind]
  exact derives.of_bind (ends_holding_iff.mpr sends)

end Relay

end AccountRelay
