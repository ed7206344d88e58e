import AccountRelay.Proofs.Dialogue.Exchanges
import AccountRelay.Registry.Creation

/-! # The questions of an attempt

An attempt to send an operation resolves the wallet first. Behind that it asks for the nonce, puts the
questions with which an operation is built and signed (`ServiceRequest.IsBuilding`) and hands the
operation over, and asks for nothing else (`Pipeline.asks_sendResolved`). An attempt to create a wallet
asks the services first, and the files only when the wallet is deployed
(`Pipeline.ends_createWallet`). Of the wallets of an owner it asks for that of one salt alone
(`Pipeline.asks_deployWallet`).
-/

namespace AccountRelay

/-- Whether a question hands an operation to the bundler. -/
def ServiceRequest.IsHanding : ServiceRequest → Prop
  | .send _ _ => True
  | _ => False

/-- Whether a question is one of those with which an operation is built and signed for a resolved
wallet. -/
def ServiceRequest.IsBuilding : ServiceRequest → Prop
  | .estimate _ _ | .priorityFee | .gasPrice | .now | .paymasterHash _ _ _ | .paymasterSign _
  | .operationHash _ | .ownerSign _ | .warn _ => True
  | _ => False

namespace Services

variable {α : Type} {allowed : ServiceRequest → Prop}

/-- A context asks nothing. -/
theorem asks_within {action : Consultation α} (asks : action.Asks allowed) (context : Context) :
    (within context action).Asks allowed :=
  asks.mapError

/-- Looking at the clock is one question. -/
theorem asks_now (permitted : allowed .now) : now.Asks allowed := by
  refine ⟨permitted, ?_⟩
  intro (time : Int)
  by_cases early : time < 0
  · simp only [early, ↓reduceIte]
    trivial
  · simp only [early, ↓reduceIte]
    trivial

/-- Under a lock work asks what it asks, between taking the lock and giving it back. -/
theorem asks_holding {sender : Address} {action : Consultation α}
    (acquires : allowed (.acquire sender)) (releases : allowed (.release sender))
    (asks : action.Asks allowed) : (holding sender action).Asks allowed := by
  refine ⟨acquires, fun _ => ?_⟩
  exact asks.attempt.bind fun outcome => ⟨releases, fun _ => .ofExcept outcome⟩

/-- What is done while a lock is held is done between taking it and giving it back. -/
theorem ends_holding {sender : Address} {action : Consultation α}
    {exchanges : List (Exchange Services)} {outcome : Except Failure α}
    (ends : (holding sender action).Ends exchanges outcome) :
    ∃ taken own given, exchanges = ⟨.acquire sender, taken⟩ :: own ++ [⟨.release sender, given⟩] ∧
      action.Ends own outcome := by
  obtain ⟨taken, _, rfl, ends⟩ := ends
  change (action.attempt >>= fun attempted => _).Ends _ _ at ends
  rcases ends.bind with ⟨_, -, failed⟩ | ⟨own, _, _, rfl, acted, released⟩
  · obtain ⟨_, impossible, -⟩ := failed.attempt
    cases impossible
  · obtain ⟨attempted, ⟨⟩, acted⟩ := acted.attempt
    obtain ⟨given, _, rfl, released⟩ := released
    obtain ⟨rfl, rfl⟩ := Dialogue.Ends.ofExcept released
    exact ⟨taken, own, given, rfl, acted⟩

end Services

open Services (asks_within)

namespace Estimation

/-- Finding the limits asks building questions. -/
theorem asks_limits (policy : GasPolicy) (entryPoint : Address) (operation : Operation) :
    (limits policy entryPoint operation).Asks ServiceRequest.IsBuilding := by
  have estimated (operation : Operation) :
      (Services.estimate operation entryPoint).Asks ServiceRequest.IsBuilding :=
    ⟨trivial, .ofExcept⟩
  exact (asks_within (estimated _) .gasEstimate).bind fun raw => .ofExcept (policy.limits raw)

/-- Finding the fees asks building questions. -/
theorem asks_fees : fees.Asks ServiceRequest.IsBuilding := by
  have tip : Services.priorityFee.Asks ServiceRequest.IsBuilding :=
    ⟨trivial, .ofExcept⟩
  refine (asks_within tip .priorityFee).bind fun priority => ?_
  have price : Services.gasPrice.Asks ServiceRequest.IsBuilding :=
    ⟨trivial, .ofExcept⟩
  exact price.bind fun gasPrice => .ofExcept (Gas.fees gasPrice priority)

/-- Filling in gas and fees asks building questions. -/
theorem asks_apply (policy : GasPolicy) (entryPoint : Address) (operation : Operation) :
    (apply policy entryPoint operation).Asks ServiceRequest.IsBuilding := by
  refine (asks_limits policy entryPoint operation).attempt.bind fun limits => ?_
  cases limits with
  | error failure => trivial
  | ok gas =>
      refine asks_fees.attempt.bind fun fees => ?_
      cases fees with
      | error failure => trivial
      | ok fees => trivial

end Estimation

/-- Authorizing asks building questions. -/
theorem Authorization.asks_authorize (validity now : UInt64) (operation : Operation) :
    (authorize validity now operation).Asks ServiceRequest.IsBuilding := by
  unfold authorize
  cases operation.activePaymaster with
  | none => trivial
  | some paymaster =>
      refine (Dialogue.Asks.ofExcept _).bind fun window => ?_
      refine (Dialogue.Asks.ofExcept _).bind fun packed => ?_
      refine Dialogue.Asks.bind ⟨trivial, .ofExcept⟩ fun hash => ?_
      have signed : (Services.paymasterSign hash).Asks ServiceRequest.IsBuilding :=
        ⟨trivial, .ofExcept⟩
      exact (asks_within signed .paymasterSigner).bind fun signature => trivial

namespace Draft

/-- Estimating a draft asks building questions. -/
theorem asks_estimate (draft : Draft .started) (policy : GasPolicy) (entryPoint : Address) :
    (draft.estimate policy entryPoint).Asks ServiceRequest.IsBuilding :=
  (Estimation.asks_apply policy entryPoint draft.operation).bind fun _ => .ofExcept _

/-- Signing a draft asks building questions. -/
theorem asks_sign (draft : Draft .settled) : draft.sign.Asks ServiceRequest.IsBuilding := by
  refine (Dialogue.Asks.ofExcept _).bind fun packed => ?_
  refine Dialogue.Asks.bind ⟨trivial, .ofExcept⟩ fun hash => ?_
  have signed : (Services.ownerSign hash).Asks ServiceRequest.IsBuilding :=
    ⟨trivial, .ofExcept⟩
  exact (asks_within signed .ownerSigner).bind fun signature => trivial

end Draft

/-- Submission sends the signed operation, and may warn of the hash. -/
theorem Submission.asks_submit {allowed : ServiceRequest → Prop} {entryPoint : Address}
    {signed : SignedOperation} (sends : allowed (.send signed.operation entryPoint))
    (warns : allowed (.warn .bundlerHash)) : (submit entryPoint signed).Asks allowed := by
  refine Dialogue.Asks.bind ⟨sends, .ofExcept⟩ fun hash => ?_
  split
  · exact ⟨warns, fun _ => trivial⟩
  · trivial

namespace Pipeline

/-- What an attempt does with a wallet that is resolved. -/
def sendResolved (pipeline : Pipeline) (request : Request) (wallet : Resolution) :
    Consultation Hash := do
  let nonce ← Services.nonce wallet.sender
  let draft := pipeline.draft request wallet nonce
  let estimated ← draft.estimate pipeline.deployment.gasPolicy pipeline.deployment.entryPoint
  let settled ← pipeline.settle request estimated
  let signed ← settled.sign
  pipeline.crossCheck signed
  Submission.submit pipeline.deployment.entryPoint signed

/-- An attempt under a lock resolves the wallet and goes on with what it finds. -/
theorem sendLocked_eq (pipeline : Pipeline) (request : Request) :
    pipeline.sendLocked request =
      pipeline.resolver.resolve request.wallet >>= pipeline.sendResolved request :=
  rfl

/-- Settling a draft asks building questions. -/
theorem asks_settle (pipeline : Pipeline) (request : Request) (draft : Draft .estimated) :
    (pipeline.settle request draft).Asks ServiceRequest.IsBuilding := by
  unfold settle
  split
  · refine Dialogue.Asks.bind ?_ fun now => ?_
    · exact Services.asks_now trivial
    · have authorized : (draft.authorize pipeline.deployment.paymasterValidity now).Asks
          ServiceRequest.IsBuilding :=
        (Authorization.asks_authorize _ now draft.operation).bind fun _ => trivial
      exact authorized.bind fun _ => trivial
  · exact .ofExcept _

/-- The last check asks building questions. -/
theorem asks_crossCheck (pipeline : Pipeline) (signed : SignedOperation) :
    (pipeline.crossCheck signed).Asks ServiceRequest.IsBuilding := by
  refine (Dialogue.Asks.ofExcept _).bind fun packed => ?_
  split
  · exact ⟨trivial, fun _ => trivial⟩
  · trivial

/-- Behind the resolution of the wallet an attempt reads the nonce, builds the operation and hands it
over. -/
theorem asks_sendResolved {allowed : ServiceRequest → Prop} (pipeline : Pipeline) (request : Request)
    {wallet : Resolution} (reads : allowed (.nonce wallet.sender))
    (builds : ∀ request : ServiceRequest, request.IsBuilding → allowed request)
    (sends : ∀ operation entryPoint, allowed (.send operation entryPoint)) :
    (pipeline.sendResolved request wallet).Asks allowed := by
  refine Dialogue.Asks.bind ⟨reads, .ofExcept⟩ fun nonce => ?_
  refine ((Draft.asks_estimate _ _ _).mono builds).bind fun estimated => ?_
  refine ((pipeline.asks_settle request estimated).mono builds).bind fun settled => ?_
  refine (settled.asks_sign.mono builds).bind fun signed => ?_
  refine ((pipeline.asks_crossCheck signed).mono builds).bind fun _ => ?_
  exact Submission.asks_submit (sends _ _) (builds _ trivial)

/-- An attempt to create a wallet has it deployed first, and records it then. -/
theorem ends_createWallet {pipeline : Pipeline} {registry : Registry} {paymaster : Option Address}
    {exchanges : List (Exchange (Services.sum Files))} {outcome : Except Failure Creation}
    (ends : (pipeline.createWallet registry paymaster).Ends exchanges outcome) :
    ∃ asked filing attempted, exchanges = asked.map Exchange.inl ++ filing.map Exchange.inr ∧
      (pipeline.deployWallet registry.nextSalt paymaster).Ends asked attempted ∧
      match attempted with
      | .error failure => filing = [] ∧ outcome = .ok { registry, outcome := .error failure }
      | .ok record => ∃ changed, (registry.create record).Ends filing changed ∧
          outcome = changed.map fun change =>
            { registry := change.registry, outcome := change.outcome.map fun _ => record } := by
  rcases ends.bind with ⟨_, -, failed⟩ | ⟨_, rest, attempted, rfl, deployed, ends⟩
  · obtain ⟨_, -, failed⟩ := failed.inl
    obtain ⟨_, impossible, -⟩ := failed.attempt
    cases impossible
  · obtain ⟨asked, rfl, attempts⟩ := deployed.inl
    obtain ⟨_, ⟨⟩, deploys⟩ := attempts.attempt
    cases attempted with
    | error failure =>
        obtain ⟨rfl, ended⟩ := ends
        exact ⟨asked, [], _, rfl, deploys, rfl, ended⟩
    | ok record =>
        rcases Dialogue.Ends.bind ends with
          ⟨failure, ended, failed⟩ | ⟨_, _, change, rfl, filed, rfl, ended⟩
        · obtain ⟨filing, rfl, files⟩ := failed.inr
          exact ⟨asked, filing, _, rfl, deploys, _, files, ended⟩
        · obtain ⟨filing, rfl, files⟩ := filed.inr
          rw [List.append_nil]
          exact ⟨asked, filing, _, rfl, deploys, _, files, ended⟩

end Pipeline

/-! ## The wallet of a salt -/

/-- A question that is about the wallet of no other salt. -/
def ServiceRequest.IsFor (salt : Salt) : ServiceRequest → Prop
  | .counterfactualAddress _ other => other = salt
  | _ => True

/-- A building question is about no other salt. -/
theorem ServiceRequest.IsBuilding.isFor {request : ServiceRequest} (building : request.IsBuilding)
    (salt : Salt) : request.IsFor salt := by
  cases request with
  | counterfactualAddress => exact building.elim
  | _ => trivial

namespace Resolver

variable {allowed : ServiceRequest → Prop} (resolver : Resolver) (wallet : WalletChoice)

/-- An inspection looks at code, and for a salt it derives the wallet and gets its call data. -/
theorem asks_inspect (looks : ∀ account, allowed (.codeAt account))
    (derives : ∀ salt, wallet = .derived salt → allowed (.counterfactualAddress resolver.owner salt) ∧
      allowed (.createAccountCallData resolver.owner salt)) :
    (resolver.inspect wallet).Asks allowed := by
  have deployed (sender : Address) : (isDeployed sender).Asks allowed :=
    Dialogue.Asks.bind ⟨looks sender, .ofExcept⟩ fun _ => trivial
  cases wallet with
  | existing sender => exact (deployed sender).bind fun _ => trivial
  | derived salt =>
      obtain ⟨address, callData⟩ := derives salt rfl
      refine Dialogue.Asks.bind ⟨address, .ofExcept⟩ fun sender => ?_
      refine (deployed sender).bind fun there => ?_
      split
      · trivial
      · exact Dialogue.Asks.bind ⟨callData, .ofExcept⟩ fun _ => trivial

/-- A preparation funds, and asks nothing else. -/
theorem asks_prepare (funds : ∀ account amount, allowed (.fund account amount))
    (resolution : Resolution) : (resolver.prepare resolution).Asks allowed := by
  unfold prepare
  split
  · trivial
  · split
    · trivial
    · exact ⟨funds _ _, .ofExcept⟩

/-- Resolving a wallet looks at code and funds, and for a salt it derives the wallet and gets its call
data. -/
theorem asks_resolve (looks : ∀ account, allowed (.codeAt account))
    (derives : ∀ salt, wallet = .derived salt → allowed (.counterfactualAddress resolver.owner salt) ∧
      allowed (.createAccountCallData resolver.owner salt))
    (funds : ∀ account amount, allowed (.fund account amount)) :
    (resolver.resolve wallet).Asks allowed := by
  refine (resolver.asks_inspect wallet looks derives).bind fun resolution => ?_
  exact (resolver.asks_prepare funds resolution).bind fun _ => trivial

end Resolver

namespace Pipeline

/-- Deploying the wallet of a counter asks for no wallet of another salt. -/
theorem asks_deployWallet (pipeline : Pipeline) (counter : UInt64) (paymaster : Option Address) :
    (pipeline.deployWallet counter paymaster).Asks (ServiceRequest.IsFor (Salt.ofCounter counter)) := by
  have sends (request : Request) (derived : request.wallet = .derived (Salt.ofCounter counter)) :
      (pipeline.send request).Asks (ServiceRequest.IsFor (Salt.ofCounter counter)) := by
    have locked : (pipeline.sendLocked request).Asks
        (ServiceRequest.IsFor (Salt.ofCounter counter)) := by
      rw [sendLocked_eq, derived]
      have resolves : (pipeline.resolver.resolve (.derived (Salt.ofCounter counter))).Asks
          (ServiceRequest.IsFor (Salt.ofCounter counter)) :=
        pipeline.resolver.asks_resolve _ (fun _ => trivial)
          (fun _ same => ⟨(WalletChoice.derived.inj same).symm, trivial⟩) fun _ _ => trivial
      refine resolves.bind fun wallet => ?_
      exact pipeline.asks_sendResolved request trivial (fun _ building => building.isFor _)
        fun _ _ => trivial
    unfold send
    rw [derived]
    refine Dialogue.Asks.bind ⟨rfl, .ofExcept⟩ fun sender => ?_
    exact Services.asks_holding trivial trivial locked
  refine Dialogue.Asks.bind ⟨rfl, .ofExcept⟩ fun address => ?_
  refine (sends _ rfl).bind fun hash => ?_
  exact (Services.asks_now trivial).bind fun _ => trivial

/-- An attempt that succeeds has had the bundler take an operation. -/
theorem exists_accepted_of_sendResolved {pipeline : Pipeline} {request : Request} {wallet : Resolution}
    {exchanges : List (Exchange Services)} {hash : Hash}
    (sent : (pipeline.sendResolved request wallet).Ends exchanges (.ok hash)) :
    ∃ operation entryPoint accepted, ⟨.send operation entryPoint, .ok accepted⟩ ∈ exchanges := by
  obtain ⟨_, _, nonce, rfl, -, sent⟩ := sent.bind_ok
  obtain ⟨_, _, estimated, rfl, -, sent⟩ := sent.bind_ok
  obtain ⟨_, _, settled, rfl, -, sent⟩ := sent.bind_ok
  obtain ⟨_, _, signed, rfl, -, sent⟩ := sent.bind_ok
  obtain ⟨_, _, _, rfl, -, sent⟩ := sent.bind_ok
  obtain ⟨_, _, accepted, rfl, submitted, -⟩ := sent.bind_ok
  obtain ⟨reply, _, rfl, accepts⟩ := submitted
  obtain ⟨rfl, rfl⟩ := Dialogue.Ends.ofExcept accepts
  exact ⟨signed.operation, pipeline.deployment.entryPoint, accepted, by simp⟩

/-- An attempt that succeeds has had the bundler take an operation. -/
theorem exists_accepted_of_send {pipeline : Pipeline} {request : Request}
    {exchanges : List (Exchange Services)} {hash : Hash}
    (sent : (pipeline.send request).Ends exchanges (.ok hash)) :
    ∃ operation entryPoint accepted, ⟨.send operation entryPoint, .ok accepted⟩ ∈ exchanges := by
  obtain ⟨_, _, sender, rfl, -, held_sent⟩ := sent.bind_ok
  obtain ⟨_, own, _, rfl, locked_sent⟩ := Services.ends_holding held_sent
  rw [sendLocked_eq] at locked_sent
  obtain ⟨_, _, wallet, rfl, -, sent⟩ := locked_sent.bind_ok
  obtain ⟨operation, entryPoint, accepted, member⟩ := exists_accepted_of_sendResolved sent
  exact ⟨operation, entryPoint, accepted, by simp [member]⟩

/-- A wallet that was deployed has its salt from the counter, and the bundler has taken an operation
for it. -/
theorem ends_deployWallet {pipeline : Pipeline} {counter : UInt64} {paymaster : Option Address}
    {exchanges : List (Exchange Services)} {record : WalletRecord}
    (deploys : (pipeline.deployWallet counter paymaster).Ends exchanges (.ok record)) :
    record.salt = counter ∧
      (∃ owner reply, ⟨.counterfactualAddress owner (Salt.ofCounter counter), reply⟩ ∈ exchanges) ∧
      ∃ operation entryPoint hash, ⟨.send operation entryPoint, .ok hash⟩ ∈ exchanges := by
  obtain ⟨_, _, address, rfl, derived, deploys⟩ := deploys.bind_ok
  obtain ⟨sending, _, hash, rfl, sent, deploys⟩ := deploys.bind_ok
  obtain ⟨_, _, createdAt, rfl, -, -, ⟨⟩⟩ := deploys.bind_ok
  obtain ⟨reply, _, rfl, -⟩ := derived
  obtain ⟨operation, entryPoint, accepted, member⟩ := exists_accepted_of_send sent
  exact ⟨rfl, ⟨_, reply, List.mem_append_left _ List.mem_cons_self⟩, operation, entryPoint, accepted,
    by simp [member]⟩

end Pipeline

end AccountRelay
