import AccountRelay.Proofs.LocalNet.Building
import AccountRelay.Proofs.LocalNet.Placing
import AccountRelay.Proofs.Pipeline.Questions

/-! # Deploying a wallet on a net

Whatever the outages of a net, an attempt to send an operation for the wallet of a salt succeeds only
when the bundler has taken one operation of that wallet and has named it by the hash that comes out
(`Pipeline.places_send`). So the record of a wallet that was deployed tells of the operation that was
taken (`Pipeline.places_deployWallet`).
-/

namespace AccountRelay

open LocalNet (Ensures Places)

variable {net : LocalNet}

/-! ## Stages -/

namespace Resolver

/-- Undisturbed, a resolver derives from a salt the address the local factory gives. -/
theorem ensures_counterfactualAddress (resolver : Resolver) (salt : Salt) :
    net.Ensures (resolver.counterfactualAddress salt)
      (LocalNet.walletAddress resolver.owner salt = ·) :=
  .asking_ofExcept (.counterfactualAddress resolver.owner salt) trivial id (fun _ => Except.ok.inj)
    (by rintro _ _ ⟨⟩; exact nofun)

/-- A wallet resolved from its salt has the address the local factory gives. -/
theorem ensures_resolve (resolver : Resolver) (salt : Salt) :
    net.Ensures (resolver.resolve (.derived salt))
      (·.sender = LocalNet.walletAddress resolver.owner salt) := by
  have looks (sender : Address) : (isDeployed sender).Asks ServiceRequest.IsSteady :=
    Dialogue.Asks.bind ⟨trivial, .ofExcept⟩ fun _ => trivial
  have inspects : net.Ensures (resolver.inspect (.derived salt))
      (·.sender = LocalNet.walletAddress resolver.owner salt) := by
    apply (resolver.ensures_counterfactualAddress salt).bind
    rintro sender rfl
    apply (Ensures.of_asks (looks _)).bind
    intro deployed _
    split
    · exact .done rfl
    · have calls : (Services.createAccountCallData resolver.owner salt).Asks ServiceRequest.IsSteady :=
        ⟨trivial, .ofExcept⟩
      exact (Ensures.of_asks calls).bind fun _ _ => .done rfl
  apply inspects.bind
  intro resolution own
  have prepares : (resolver.prepare resolution).Asks ServiceRequest.IsSteady := by
    unfold prepare
    split
    · trivial
    · split
      · trivial
      · exact ⟨trivial, .ofExcept⟩
  exact (Ensures.of_asks prepares).bind fun _ _ => .done own

end Resolver

namespace Pipeline

/-- A draft acts for the wallet it was resolved from. -/
theorem sender_draft (pipeline : Pipeline) (request : Request) (wallet : Resolution)
    (nonce : Uint256) : (pipeline.draft request wallet nonce).operation.sender = wallet.sender := by
  unfold draft
  split
  · rfl
  · rfl

/-- Settling a draft changes nothing of its operation but the paymaster's data. -/
theorem ensures_settle (pipeline : Pipeline) (request : Request) (draft : Draft .estimated) :
    net.Ensures (pipeline.settle request draft) fun settled =>
      ∃ data, settled.operation = { draft.operation with paymasterData := data } := by
  have settles (settlement : Settlement) : net.Ensures (settlement.settle draft) fun settled =>
      ∃ data, settled.operation = { draft.operation with paymasterData := data } :=
    (settlement.ensures_settle draft).congr fun _ settled => settled.exists_eq
  unfold settle
  split
  · apply (Ensures.of_asks (Services.asks_now trivial)).bind
    intro now _
    exact settles (.authorized pipeline.deployment.paymasterValidity now)
  · exact settles .unpaid

/-- The cross-check asks nothing that moves the net. -/
theorem ensures_crossCheck (pipeline : Pipeline) (signed : SignedOperation) :
    net.Ensures (pipeline.crossCheck signed) fun _ => True := by
  apply (LocalNet.ensures_pack signed.operation).bind
  intro packed _
  split
  · exact .of_asks ⟨trivial, fun _ => trivial⟩
  · exact .done trivial

/-! ## Sending -/

/-- Whether the bundler of a net names an operation of a sender by a hash. -/
def Accepts (pipeline : Pipeline) (net : LocalNet) (sender : Address) (hash : Hash)
    (operation : Operation) : Prop :=
  operation.sender = sender ∧ (net.take operation pipeline.deployment.entryPoint).1 = .ok hash

/-- A send under the lock places an operation that the pipeline accepts for its wallet. -/
theorem places_sendResolved (pipeline : Pipeline) (request : Request) (wallet : Resolution) :
    net.Places (pipeline.sendResolved request wallet) (pipeline.Accepts net wallet.sender) := by
  have reads : (Services.nonce wallet.sender).Asks ServiceRequest.IsSteady := ⟨trivial, .ofExcept⟩
  apply (Ensures.of_asks reads).places
  intro nonce _
  apply (Draft.ensures_estimate _ _ _).places
  rintro estimated ⟨gas, fees, -, -, estimated_eq⟩
  apply (pipeline.ensures_settle request estimated).places
  rintro settled ⟨data, settled_eq⟩
  apply (Draft.ensures_sign settled).places
  rintro signed ⟨unsigned, hash, -, -, signed_eq⟩
  apply (pipeline.ensures_crossCheck signed).places
  intro _ _
  apply (LocalNet.places_submit pipeline.deployment.entryPoint signed).congr
  rintro own operation ⟨rfl, accepted⟩
  refine ⟨?_, accepted⟩
  rw [signed_eq, settled_eq, estimated_eq]
  exact pipeline.sender_draft request wallet nonce

/-- The wallet of a salt that sends an operation is the one of that salt. -/
theorem places_send (pipeline : Pipeline) {request : Request} {salt : Salt}
    (derived : request.wallet = .derived salt) : net.Places (pipeline.send request)
      (pipeline.Accepts net (LocalNet.walletAddress pipeline.owner salt)) := by
  unfold send
  rw [derived]
  apply (pipeline.resolver.ensures_counterfactualAddress salt).places
  intro sender _
  apply LocalNet.Places.holding
  rw [sendLocked_eq, derived]
  apply (pipeline.resolver.ensures_resolve salt).places
  intro wallet own
  rw [show LocalNet.walletAddress pipeline.owner salt = wallet.sender from own.symm]
  exact pipeline.places_sendResolved request wallet

/-- Whether a record is that of the wallet of a counter, and of an operation that the bundler of a net
takes for it. -/
structure Deploys (pipeline : Pipeline) (net : LocalNet) (counter : UInt64) (record : WalletRecord)
    (operation : Operation) : Prop where
  salt : record.salt = counter
  address : record.address = LocalNet.walletAddress pipeline.owner (Salt.ofCounter counter)
  sender : operation.sender = record.address
  hash : ∃ hash, record.operationHash = some hash ∧
    (net.take operation pipeline.deployment.entryPoint).1 = .ok hash

/-- A deployment places the operation that deploys the wallet of its counter. -/
theorem places_deployWallet (pipeline : Pipeline) (counter : UInt64) (paymaster : Option Address) :
    net.Places (pipeline.deployWallet counter paymaster) (pipeline.Deploys net counter) := by
  apply (pipeline.resolver.ensures_counterfactualAddress (Salt.ofCounter counter)).places
  rintro address rfl
  apply (pipeline.places_send rfl).bind
  rintro hash operation ⟨sender, accepted⟩
  apply (Ensures.of_asks (Services.asks_now trivial)).bind
  intro createdAt _
  exact .done ⟨rfl, rfl, sender, hash, rfl, accepted⟩

end Pipeline

end AccountRelay
