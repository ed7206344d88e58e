import AccountRelay.Pipeline
import AccountRelay.Proofs.LocalNet.Consultation
import AccountRelay.Proofs.Outcome

/-! # The stages of a run on a net in memory

What each stage of `Pipeline.send` finds on a net without outages, and when. A stage finds one thing
at most, so the conditions say both when the stage succeeds and with what.
-/

namespace AccountRelay

namespace LocalNet

/-- What a choice of a wallet is resolved to on a net. -/
def resolution (net : LocalNet) (resolver : Resolver) (wallet : WalletChoice) : Resolution :=
  let sender := wallet.sender walletAddress resolver.owner
  { sender
    deployed := sender ∈ net.code
    init := match wallet with
      | .derived salt =>
        if sender ∈ net.code then none else some (resolver.factory, walletCallData resolver.owner salt)
      | .existing _ => none }

/-- The time of a net in seconds, which there is from the epoch on. -/
def clock? (net : LocalNet) : Option UInt64 :=
  if net.time < 0 then none else some (UInt64.ofNat net.time.toNat)

end LocalNet

/-- The paymaster that a request names; the zero address pays for nothing. -/
def Request.sponsor (request : Request) : Option Address :=
  request.paymaster.filter fun paymaster => !paymaster.isZero

/-- What an operation of a request becomes when its payment is settled: with a paymaster it gets an
authorization from the time of the net on. -/
def LocalNet.Settles (net : LocalNet) (pipeline : Pipeline) (request : Request)
    (operation settled : Operation) : Prop :=
  match request.sponsor with
  | some paymaster =>
    ∃ now, net.clock? = some now ∧
      ∃ window, ValidityWindow.startingAt now pipeline.deployment.paymasterValidity = .ok window ∧
        ∃ packed, operation.pack = .ok packed ∧
          settled = { operation with
            paymasterData := Sponsorship.encode window
              (net.paymasterKey.signHash (sponsoredHash paymaster packed window)) }
  | none => settled = operation

/-- An operation with an authorization of the paymaster's signer, and its window; or what stands in the
way. -/
def LocalNet.authorization (net : LocalNet) (validity now : UInt64) (operation : Operation) :
    Except Failure (Operation × ValidityWindow) :=
  match operation.activePaymaster with
  | none => .error .nothingToAuthorize
  | some paymaster => do
    let window ← ValidityWindow.startingAt now validity
    let packed ← operation.pack.mapError .tooWide
    return ({ operation with
      paymasterData := Sponsorship.encode window
        (net.paymasterKey.signHash (sponsoredHash paymaster packed window)) }, window)

/-- The operation that a run on a net starts with. -/
def LocalNet.started (net : LocalNet) (pipeline : Pipeline) (request : Request) : Operation :=
  let wallet := net.resolution pipeline.resolver request.wallet
  (pipeline.draft request wallet (found net.nonces wallet.sender 0)).operation

/-- What a run hands to the bundler, and the hash that it gets. -/
def LocalNet.Delivers (net : LocalNet) (pipeline : Pipeline) (request : Request) (hash : Hash)
    (operation : Operation) : Prop :=
  (net.failCode = false ∧ ∀ address, request.wallet = .existing address → address ∈ net.code) ∧
  ∃ gas fees settled unsigned packed,
    (net.failEstimate = false ∧ pipeline.deployment.gasPolicy.limits net.estimate = .ok gas) ∧
    Gas.fees net.gasPrice net.priorityFee = .ok fees ∧
    net.Settles pipeline request { net.started pipeline request with gas, fees } settled ∧
    { settled with signature := [] }.pack = .ok unsigned ∧
    operation = { settled with
      signature := net.ownerKey.signHash (unsigned.hash entryPoint localChain) } ∧
    operation.pack = .ok packed ∧
    hash = packed.hash pipeline.deployment.entryPoint localChain ∧
    net.rejectSend = none

variable {net : LocalNet} (clear : net.outages = [])

/-! ## Resolving the wallet -/

namespace Resolver

include clear

/-- The sender that is found is the wallet of the request. -/
theorem finds_senderAddress (resolver : Resolver) (wallet : WalletChoice) :
    net.Finds (resolver.senderAddress wallet)
      (wallet.sender LocalNet.walletAddress resolver.owner = ·) := by
  cases wallet with
  | existing address => exact .done address
  | derived salt =>
      exact .asking clear (.counterfactualAddress resolver.owner salt) trivial (.done _)

/-- Whether there is code at an address is found by the settings, unless looking for code fails. -/
theorem finds_isDeployed (address : Address) :
    net.Finds (isDeployed address)
      fun deployed => net.failCode = false ∧ decide (address ∈ net.code) = deployed := by
  have code : net.Finds (Services.codeAt address) fun code =>
      net.failCode = false ∧ (if address ∈ net.code then [0x60, 0x80] else []) = code := by
    apply LocalNet.Finds.asking clear (.codeAt address) trivial
    simp only [LocalNet.respond]
    cases failed : net.failCode with
    | true => exact (LocalNet.Finds.fail _).congr fun _ => by simp
    | false => exact (LocalNet.Finds.done _).congr fun _ => by simp
  have found : net.Finds (isDeployed address) fun deployed =>
      net.failCode = false ∧
        (!(if address ∈ net.code then [0x60, 0x80] else [] : Bytes).isEmpty) = deployed :=
    code.bind_if fun _ => .done _
  apply found.congr
  intro deployed
  by_cases has : address ∈ net.code
  · simp [has]
  · simp [has]

/-- An inspection finds the resolution of the settings, unless looking for code fails. -/
theorem finds_inspect (resolver : Resolver) (wallet : WalletChoice) :
    net.Finds (resolver.inspect wallet)
      fun found => net.failCode = false ∧ net.resolution resolver wallet = found := by
  cases wallet with
  | existing address =>
      exact (finds_isDeployed clear address).bind_if fun _ => .done _
  | derived salt =>
      have address := finds_senderAddress clear resolver (.derived salt)
      apply address.bind_eq
      apply (finds_isDeployed clear _).bind_if
      intro _
      by_cases has : LocalNet.walletAddress resolver.owner salt ∈ net.code
      · have resolved : net.resolution resolver (.derived salt) =
            { sender := LocalNet.walletAddress resolver.owner salt, deployed := true,
              init := none } := by
          simp [LocalNet.resolution, WalletChoice.sender, has]
        rw [resolved]
        simp only [WalletChoice.sender, has, decide_true]
        exact .done _
      · have resolved : net.resolution resolver (.derived salt) =
            { sender := LocalNet.walletAddress resolver.owner salt, deployed := false,
              init := some (resolver.factory, LocalNet.walletCallData resolver.owner salt) } := by
          simp [LocalNet.resolution, WalletChoice.sender, has]
        have data : net.Finds (Services.createAccountCallData resolver.owner salt)
            (LocalNet.walletCallData resolver.owner salt = ·) :=
          .asking clear (.createAccountCallData resolver.owner salt) trivial (.done _)
        rw [resolved]
        simp only [WalletChoice.sender, has, decide_false]
        exact data.bind_eq (.done _)

/-- A wallet can be prepared when it has code or a way to get it. -/
theorem finds_prepare (resolver : Resolver) (resolution : Resolution) :
    net.Finds (resolver.prepare resolution)
      fun found => (resolution.deployed = true ∨ resolution.init.isSome = true) ∧ () = found := by
  unfold prepare
  cases deployed : resolution.deployed with
  | true => exact (LocalNet.Finds.done ()).congr fun _ => by simp
  | false =>
      cases init : resolution.init with
      | none => exact (LocalNet.Finds.fail _).congr fun _ => by simp
      | some _ =>
          have funded : net.Finds (Services.fund resolution.sender resolver.initialFunding)
              (() = ·) :=
            .asking clear (.fund resolution.sender resolver.initialFunding) trivial (.done _)
          exact funded.congr fun _ => by simp

/-- Resolving finds the wallet when code can be looked up and an existing wallet has some. -/
theorem finds_resolve (resolver : Resolver) (wallet : WalletChoice) :
    net.Finds (resolver.resolve wallet) fun found =>
      (net.failCode = false ∧ ∀ address, wallet = .existing address → address ∈ net.code) ∧
        net.resolution resolver wallet = found := by
  have resolved : net.Finds (resolver.resolve wallet) fun found =>
      net.failCode = false ∧
        ((net.resolution resolver wallet).deployed = true ∨
          (net.resolution resolver wallet).init.isSome = true) ∧
        net.resolution resolver wallet = found := by
    apply (finds_inspect clear resolver wallet).bind_if
    intro _
    have prepared := finds_prepare clear resolver (net.resolution resolver wallet)
    exact prepared.bind_if fun _ => .done _
  apply resolved.congr
  intro found
  rw [← and_assoc]
  apply and_congr_left
  intro _
  apply and_congr_right
  intro _
  cases wallet with
  | existing address =>
      by_cases has : address ∈ net.code
      · simp [LocalNet.resolution, WalletChoice.sender, has]
      · simp [LocalNet.resolution, WalletChoice.sender, has]
  | derived salt =>
      by_cases has : LocalNet.walletAddress resolver.owner salt ∈ net.code
      · simp [LocalNet.resolution, WalletChoice.sender, has]
      · simp [LocalNet.resolution, WalletChoice.sender, has]

end Resolver

section

include clear

/-- The nonce that is found is that of the settings. -/
theorem Services.finds_nonce (sender : Address) :
    net.Finds (Services.nonce sender) (LocalNet.found net.nonces sender 0 = ·) :=
  .asking clear (.nonce sender) trivial (.done _)

/-- The time is found if the clock tells one. -/
theorem Services.finds_now : net.Finds Services.now (net.clock? = some ·) := by
  apply LocalNet.Finds.asking clear .now trivial
  change net.Finds (if net.time < 0 then .fail .clockBeforeEpoch
    else .done (UInt64.ofNat net.time.toNat)) _
  unfold LocalNet.clock?
  split
  · exact (LocalNet.Finds.fail _).congr fun _ => by simp
  · exact (LocalNet.Finds.done _).congr fun _ => by simp

/-! ## Estimating -/

/-- Limits are found when the estimate does not fail and can be raised. -/
theorem Estimation.finds_limits (policy : GasPolicy) (entryPoint : Address) (operation : Operation) :
    net.Finds (limits policy entryPoint operation) fun gas =>
      net.failEstimate = false ∧ policy.limits net.estimate = .ok gas := by
  have estimated : net.Finds (estimate entryPoint operation) fun found =>
      net.failEstimate = false ∧ net.estimate = found := by
    apply LocalNet.Finds.within
    apply LocalNet.Finds.asking clear (.estimate _ entryPoint) trivial
    change net.Finds (.ofExcept (if net.failEstimate then _ else _)) _
    cases failed : net.failEstimate with
    | true => exact (LocalNet.Finds.fail _).congr fun _ => by simp
    | false => exact (LocalNet.Finds.done _).congr fun _ => by simp
  exact estimated.bind_if fun _ => .ofExcept _

/-- Fees are found when the price and the tip can be added up. -/
theorem Estimation.finds_fees :
    net.Finds fees (Gas.fees net.gasPrice net.priorityFee = .ok ·) := by
  have priority : net.Finds Services.priorityFee (net.priorityFee = ·) :=
    .asking clear .priorityFee trivial (.done _)
  have price : net.Finds Services.gasPrice (net.gasPrice = ·) :=
    .asking clear .gasPrice trivial (.done _)
  exact (priority.within .priorityFee).bind_eq (price.bind_eq (.ofExcept _))

/-- Estimating finds the operation with limits and fees when there are both. -/
theorem Draft.finds_estimate (draft : Draft .started) (policy : GasPolicy) (entryPoint : Address) :
    net.Finds (draft.estimate policy entryPoint) fun estimated =>
      ∃ gas fees, (net.failEstimate = false ∧ policy.limits net.estimate = .ok gas) ∧
        Gas.fees net.gasPrice net.priorityFee = .ok fees ∧
        estimated = ⟨{ draft.operation with gas, fees }⟩ := by
  obtain ⟨limits, limits_yield, limits_hold⟩ :=
    Estimation.finds_limits clear policy entryPoint draft.operation
  obtain ⟨fees, fees_yield, fees_hold⟩ := Estimation.finds_fees clear
  cases limits with
  | error failure =>
      have applied : net.Yields (Estimation.apply policy entryPoint draft.operation)
          (.ok { operation := draft.operation, outcome := .error failure }) net :=
        limits_yield.attempt.bind (.done _)
      refine ⟨.error failure, applied.bind (.ofExcept (.error failure)), ?_⟩
      intro estimated
      refine ⟨nofun, ?_⟩
      rintro ⟨gas, fees, raised, -⟩
      cases (limits_hold gas).mpr raised
  | ok gas =>
      have raised := (limits_hold gas).mp rfl
      cases fees with
      | error failure =>
          have applied : net.Yields (Estimation.apply policy entryPoint draft.operation)
              (.ok { operation := { draft.operation with gas }, outcome := .error failure }) net :=
            limits_yield.attempt.bind (fees_yield.attempt.bind (.done _))
          refine ⟨.error failure, applied.bind (.ofExcept (.error failure)), ?_⟩
          intro estimated
          refine ⟨nofun, ?_⟩
          rintro ⟨_, fees, -, priced, -⟩
          cases (fees_hold fees).mpr priced
      | ok fees =>
          have priced := (fees_hold fees).mp rfl
          have applied : net.Yields (Estimation.apply policy entryPoint draft.operation)
              (.ok { operation := { draft.operation with gas, fees }, outcome := .ok () }) net :=
            limits_yield.attempt.bind (fees_yield.attempt.bind (.done _))
          refine ⟨.ok ⟨{ draft.operation with gas, fees }⟩, applied.bind (.ofExcept (.ok _)), ?_⟩
          intro estimated
          constructor
          · intro same
            exact ⟨gas, fees, raised, priced, (Except.ok.inj same).symm⟩
          · rintro ⟨other_gas, other_fees, other_raised, other_priced, rfl⟩
            rw [Except.ok.inj ((limits_hold other_gas).mpr other_raised),
              Except.ok.inj ((fees_hold other_fees).mpr other_priced)]

/-! ## Settling the payment -/

omit clear in
/-- A packed form is found when there is one. -/
theorem finds_pack (operation : Operation) :
    net.Finds (.ofExcept (operation.pack.mapError .tooWide)) (operation.pack = .ok ·) :=
  (LocalNet.Finds.ofExcept _).congr fun _ => Outcome.mapError_eq_ok_iff

omit clear in
/-- An operation is authorized when it has a paymaster, its window can be opened and it packs: the
window and the signature replace the paymaster's data. -/
theorem LocalNet.authorization_eq_ok_iff {validity now : UInt64} {operation : Operation}
    {authorized : Operation × ValidityWindow} :
    net.authorization validity now operation = .ok authorized ↔
      ∃ paymaster, operation.activePaymaster = some paymaster ∧
        ∃ window, ValidityWindow.startingAt now validity = .ok window ∧
          ∃ packed, operation.pack = .ok packed ∧
            ({ operation with
              paymasterData := Sponsorship.encode window
                (net.paymasterKey.signHash (sponsoredHash paymaster packed window)) },
              window) = authorized := by
  unfold authorization
  cases operation.activePaymaster with
  | none => exact ⟨nofun, nofun⟩
  | some paymaster =>
      simp only [Outcome.bind_eq_ok_iff, Outcome.mapError_eq_ok_iff, Outcome.pure_eq_ok_iff,
        Option.some.injEq, exists_eq_left']

/-- An authorization is the signature of the paymaster for a window and the packed operation. -/
theorem Authorization.yields_authorize (validity now : UInt64) (operation : Operation) :
    net.Yields (authorize validity now operation) (net.authorization validity now operation) net := by
  unfold authorize LocalNet.authorization
  cases operation.activePaymaster with
  | none => exact .fail _
  | some paymaster =>
      simp only
      cases ValidityWindow.startingAt now validity with
      | error failure => exact .fail failure
      | ok window =>
          cases operation.pack with
          | error fault => exact .fail (.tooWide fault)
          | ok packed =>
              have hash : net.Yields (Services.paymasterHash paymaster packed window)
                  (.ok (LocalNet.sponsoredHash paymaster packed window)) net :=
                .asking clear (.paymasterHash paymaster packed window) trivial (.done _)
              have signature : net.Yields
                  (Services.paymasterSign (LocalNet.sponsoredHash paymaster packed window))
                  (.ok (net.paymasterKey.signHash
                    (LocalNet.sponsoredHash paymaster packed window))) net :=
                .asking clear (.paymasterSign _) trivial (.done _)
              exact hash.bind ((signature.within .paymasterSigner).bind (.done _))

/-- An authorization is found when the window can be opened and the operation packs. -/
theorem Authorization.finds_authorize (validity now : UInt64) {operation : Operation}
    {paymaster : Address} (active : operation.activePaymaster = some paymaster) :
    net.Finds (authorize validity now operation) fun authorized =>
      ∃ window, ValidityWindow.startingAt now validity = .ok window ∧
        ∃ packed, operation.pack = .ok packed ∧
          ({ operation with
            paymasterData := Sponsorship.encode window
              (net.paymasterKey.signHash (LocalNet.sponsoredHash paymaster packed window)) },
            window) = authorized := by
  refine ⟨_, yields_authorize clear validity now operation, fun authorized => ?_⟩
  rw [LocalNet.authorization_eq_ok_iff, active]
  simp only [Option.some.injEq, exists_eq_left']

/-- A draft whose payment is authorized has an authorization in place of the paymaster's data. -/
theorem Draft.finds_authorized (validity now : UInt64) {draft : Draft .estimated}
    {paymaster : Address} (active : draft.operation.activePaymaster = some paymaster) :
    net.Finds
      (do
        let (settled, _) ← draft.authorize validity now
        return settled : Consultation (Draft .settled))
      fun settled => ∃ window, ValidityWindow.startingAt now validity = .ok window ∧
        ∃ packed, draft.operation.pack = .ok packed ∧
          settled.operation = { draft.operation with
            paymasterData := Sponsorship.encode window
              (net.paymasterKey.signHash (LocalNet.sponsoredHash paymaster packed window)) } := by
  have authorized := Authorization.finds_authorize clear validity now active
  have drafted := authorized.bind fun found _ =>
    LocalNet.Finds.done ((⟨found.1⟩, found.2) : Draft .settled × ValidityWindow)
  apply (drafted.bind fun found _ => LocalNet.Finds.done found.1).congr
  intro settled
  constructor
  · rintro ⟨_, ⟨_, ⟨window, timely, packed, packs, rfl⟩, rfl⟩, rfl⟩
    exact ⟨window, timely, packed, packs, rfl⟩
  · rintro ⟨window, timely, packed, packs, same⟩
    refine ⟨_, ⟨_, ⟨window, timely, packed, packs, rfl⟩, rfl⟩, ?_⟩
    exact congrArg Draft.mk same.symm

omit clear in
/-- Doing without a paymaster leaves an operation that has none as it is. -/
theorem Draft.withoutPaymaster_eq_ok_iff {draft : Draft .estimated} {settled : Draft .settled} :
    draft.withoutPaymaster = .ok settled ↔
      draft.operation.activePaymaster = none ∧ settled.operation = draft.operation := by
  unfold withoutPaymaster
  cases active : draft.operation.activePaymaster with
  | none =>
      constructor
      · rintro ⟨⟩
        exact ⟨rfl, rfl⟩
      · rintro ⟨-, same⟩
        exact congrArg Except.ok (congrArg Draft.mk same.symm)
  | some paymaster => exact ⟨nofun, nofun⟩

/-- What is settled is what the net settles. -/
theorem Pipeline.finds_settle (pipeline : Pipeline) {request : Request} {draft : Draft .estimated}
    (active : draft.operation.activePaymaster = request.sponsor) :
    net.Finds (pipeline.settle request draft) fun settled =>
      net.Settles pipeline request draft.operation settled.operation := by
  unfold settle LocalNet.Settles
  change net.Finds (match request.sponsor with | some _ => _ | none => _) _
  cases sponsor : request.sponsor with
  | some paymaster =>
      apply (Services.finds_now clear).bind
      intro now _
      exact Draft.finds_authorized clear _ now (active.trans sponsor)
  | none =>
      apply (LocalNet.Finds.ofExcept draft.withoutPaymaster).congr
      intro settled
      rw [Draft.withoutPaymaster_eq_ok_iff]
      exact and_iff_right (active.trans sponsor)

/-! ## Signing and sending -/

/-- The owner signs the hash of the packed operation. -/
theorem Draft.finds_sign (draft : Draft .settled) :
    net.Finds draft.sign fun signed =>
      ∃ packed, { draft.operation with signature := [] }.pack = .ok packed ∧
        ({ operation := { draft.operation with
            signature := net.ownerKey.signHash
              (packed.hash LocalNet.entryPoint LocalNet.localChain) }
           hash := packed.hash LocalNet.entryPoint LocalNet.localChain } : SignedOperation) =
          signed := by
  unfold sign
  apply (finds_pack _).bind
  intro packed _
  have hash : net.Finds (Services.operationHash packed)
      (packed.hash LocalNet.entryPoint LocalNet.localChain = ·) :=
    .asking clear (.operationHash packed) trivial (.done _)
  have signature : net.Finds
      (Services.ownerSign (packed.hash LocalNet.entryPoint LocalNet.localChain))
      (net.ownerKey.signHash (packed.hash LocalNet.entryPoint LocalNet.localChain) = ·) :=
    .asking clear (.ownerSign _) trivial (.done _)
  exact hash.bind_eq ((signature.within .ownerSigner).bind_eq (.done _))

/-- A warning finds nothing out. -/
theorem Services.finds_warn (warning : Warning) : net.Finds (Services.warn warning) (() = ·) :=
  .asking clear (.warn warning) trivial (.done _)

/-- The cross-check finds fault with no operation that packs. -/
theorem Pipeline.finds_crossCheck (pipeline : Pipeline) (signed : SignedOperation) :
    net.Finds (pipeline.crossCheck signed) fun found =>
      (∃ packed, signed.operation.pack = .ok packed) ∧ () = found := by
  have checked : net.Finds (pipeline.crossCheck signed) fun found =>
      ∃ packed, signed.operation.pack = .ok packed ∧ () = found := by
    unfold crossCheck
    apply (finds_pack _).bind
    intro packed _
    split
    · exact Services.finds_warn clear .localHash
    · exact .done ()
  exact checked.congr fun _ => exists_and_right

omit clear in
/-- A bundler that takes what it gets takes an operation that packs, for its hash. -/
theorem LocalNet.take_of_rejectSend_eq_none (net : LocalNet) {operation : Operation}
    {packed : PackedOperation} (accepts : net.rejectSend = none)
    (packs : operation.pack = .ok packed) (entryPoint : Address) :
    net.take operation entryPoint = (.ok (packed.hash entryPoint localChain), net.taking operation) := by
  unfold take
  split
  · rename_i message rejects
    rw [accepts] at rejects
    cases rejects
  · rw [packs]
    rfl

/-- To send an operation is to have the bundler take it, which the net has written down. -/
theorem LocalNet.consult_send (operation : Operation) (entryPoint : Address) (log : Log) :
    (net.logged log).consult (Services.send operation entryPoint) =
      (net.logged { log with asked := .send operation entryPoint :: log.asked }).take operation
        entryPoint := by
  rw [consult_send_eq_answer, answer_eq (by exact clear)]
  rfl

/-- The bundler takes an operation that packs, unless it turns down all of them. -/
theorem Submission.sends_submit (entryPoint : Address) {signed : SignedOperation}
    (packs : ∃ packed, signed.operation.pack = .ok packed) :
    net.Sends (submit entryPoint signed) fun hash operation =>
      net.rejectSend = none ∧ operation = signed.operation ∧
        ∃ packed, signed.operation.pack = .ok packed ∧
          hash = packed.hash entryPoint LocalNet.localChain := by
  obtain ⟨packed, packs⟩ := packs
  cases rejects : net.rejectSend with
  | some message =>
      have refused : net.Yields (Services.send signed.operation entryPoint)
          (.error (.rejected (LocalNet.sendRejection message))) net := by
        intro log
        refine ⟨{ log with asked := .send signed.operation entryPoint :: log.asked }, ?_⟩
        rw [LocalNet.consult_send clear]
        simp only [LocalNet.take, LocalNet.logged, rejects]
      exact .inr ⟨by simp, _, refused.bind_error⟩
  | none =>
      have taken : net.Yields (Services.send signed.operation entryPoint)
          (.ok (packed.hash entryPoint LocalNet.localChain)) (net.taking signed.operation) := by
        intro log
        refine ⟨{ log with asked := .send signed.operation entryPoint :: log.asked }, ?_⟩
        rw [LocalNet.consult_send clear]
        exact (net.logged _).take_of_rejectSend_eq_none rejects packs entryPoint
      have still : (net.taking signed.operation).outages = [] := clear
      have told : (net.taking signed.operation).Finds
          (do
            if packed.hash entryPoint LocalNet.localChain ≠ signed.hash then
              Services.warn .bundlerHash
            return packed.hash entryPoint LocalNet.localChain : Consultation Hash)
          (packed.hash entryPoint LocalNet.localChain = ·) := by
        split
        · exact (Services.finds_warn still .bundlerHash).bind_eq (.done _)
        · exact .done _
      obtain ⟨outcome, yields, ends⟩ := told
      rw [(ends _).mpr rfl] at yields
      exact .inl ⟨_, _, ⟨rfl, rfl, packed, packs, rfl⟩, taken.bind yields⟩

/-! ## The whole run -/

omit clear in
/-- The paymaster of the operation that a run starts with is the one that the request names. -/
theorem LocalNet.activePaymaster_started (net : LocalNet) (pipeline : Pipeline)
    (request : Request) : (net.started pipeline request).activePaymaster = request.sponsor := by
  have idle : ∀ paymaster, request.sponsor = some paymaster →
      (some paymaster : Option Address).filter (fun paymaster => !paymaster.isZero) =
        some paymaster := by
    intro paymaster sponsored
    rw [← sponsored, Request.sponsor, Option.filter_filter]
    simp
  unfold started Pipeline.draft Operation.activePaymaster
  change Option.filter _ (match request.sponsor with | some _ => _ | none => _ :
    Draft .started).operation.paymaster = _
  cases sponsor : request.sponsor with
  | some paymaster => exact idle paymaster sponsor
  | none => rfl

/-- Under its lock an attempt sends the operation that the net is to be delivered, exactly if there is
one. -/
theorem Pipeline.sends_sendLocked (pipeline : Pipeline) (request : Request) :
    net.Sends (pipeline.sendLocked request) (net.Delivers pipeline request) := by
  have run : net.Sends (pipeline.sendLocked request) fun hash operation =>
      (net.failCode = false ∧
        ∀ address, request.wallet = .existing address → address ∈ net.code) ∧
      ∃ estimated : Draft .estimated, (∃ gas fees,
        (net.failEstimate = false ∧
          pipeline.deployment.gasPolicy.limits net.estimate = .ok gas) ∧
        Gas.fees net.gasPrice net.priorityFee = .ok fees ∧
        estimated = ⟨{ net.started pipeline request with gas, fees }⟩) ∧
      ∃ settled : Draft .settled,
        net.Settles pipeline request estimated.operation settled.operation ∧
      ∃ signed : SignedOperation, (∃ unsigned,
        { settled.operation with signature := [] }.pack = .ok unsigned ∧
        ({ operation := { settled.operation with
            signature := net.ownerKey.signHash
              (unsigned.hash LocalNet.entryPoint LocalNet.localChain) }
           hash := unsigned.hash LocalNet.entryPoint LocalNet.localChain } : SignedOperation) =
          signed) ∧
      (∃ packed, signed.operation.pack = .ok packed) ∧
      net.rejectSend = none ∧ operation = signed.operation ∧
        ∃ packed, signed.operation.pack = .ok packed ∧
          hash = packed.hash pipeline.deployment.entryPoint LocalNet.localChain := by
    apply (pipeline.resolver.finds_resolve clear request.wallet).sends_if
    intro _
    apply (Services.finds_nonce clear _).sends_eq
    apply (Draft.finds_estimate clear _ _ _).sends
    rintro estimated ⟨gas, fees, -, -, rfl⟩
    apply (pipeline.finds_settle clear (net.activePaymaster_started pipeline request)).sends
    intro settled _
    apply (Draft.finds_sign clear settled).sends
    intro signed _
    apply (pipeline.finds_crossCheck clear signed).sends_if
    intro packs
    exact Submission.sends_submit clear _ packs
  apply run.congr
  intro hash operation
  constructor
  · rintro ⟨code, _, ⟨gas, fees, limits, priced, rfl⟩, settled, settles, _, ⟨unsigned, packs, rfl⟩,
      -, accepts, rfl, packed, signed_packs, rfl⟩
    exact ⟨code, gas, fees, settled.operation, unsigned, packed, limits, priced, settles, packs,
      rfl, signed_packs, rfl, accepts⟩
  · rintro ⟨code, gas, fees, settled, unsigned, packed, limits, priced, settles, packs, rfl,
      signed_packs, rfl, accepts⟩
    exact ⟨code, _, ⟨gas, fees, limits, priced, rfl⟩, ⟨settled⟩, settles, _,
      ⟨unsigned, packs, rfl⟩, ⟨packed, signed_packs⟩, accepts, rfl, packed, signed_packs, rfl⟩

/-- A run on a net without outages delivers an operation, or fails and sends nothing. -/
theorem Pipeline.sends_send (pipeline : Pipeline) (request : Request) :
    net.Sends (pipeline.send request) (net.Delivers pipeline request) := by
  apply (pipeline.resolver.finds_senderAddress clear request.wallet).sends_eq
  exact (pipeline.sends_sendLocked clear request).holding clear _

end

end AccountRelay
