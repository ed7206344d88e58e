import AccountRelay.Proofs.Amounts
import AccountRelay.Proofs.LocalNet.Stages
import AccountRelay.Proofs.Operation.Packing

/-! # What a run sends

On a net without outages a run of `Pipeline.send` succeeds exactly when a list of conditions is met
(`Sendable`), and it sends one operation then, whose every field is known from the request, the
deployment and the net (`IsReference`). Else it sends nothing (`Pipeline.sends_reference`). Neither
placeholders nor the data that stand in for an authorization are part of what is sent.
-/

namespace AccountRelay

/-- What has to be so for a run to succeed. -/
structure Sendable (pipeline : Pipeline) (net : LocalNet) (request : Request) : Prop where
  code_found : net.failCode = false
  has_code : ∀ wallet, request.wallet = .existing wallet → wallet ∈ net.code
  estimated : net.failEstimate = false
  preVerification_raises :
    net.estimate.preVerification.toNat * pipeline.deployment.gasPolicy.markup.toNat < 2 ^ 256
  call_raises : net.estimate.call.toNat * pipeline.deployment.gasPolicy.markup.toNat < 2 ^ 256
  verification_raises :
    net.estimate.verification.toNat * pipeline.deployment.gasPolicy.markup.toNat < 2 ^ 256
  fee_fits : net.gasPrice.toNat + net.priorityFee.toNat < 2 ^ 256
  /-- A clock that is set to a time before the epoch reads no time. -/
  window_fits : ∀ paymaster, request.sponsor = some paymaster → ∃ now, net.clock? = some now ∧
    now.toNat + pipeline.deployment.paymasterValidity.toNat ≤ 2 ^ 48 - 1
  verification_packs :
    net.estimate.verification.toNat * pipeline.deployment.gasPolicy.markup.toNat / 10000 < 2 ^ 128
  call_packs :
    net.estimate.call.toNat * pipeline.deployment.gasPolicy.markup.toNat / 10000 < 2 ^ 128
  priority_packs : net.priorityFee.toNat < 2 ^ 128
  fee_packs : net.gasPrice.toNat + net.priorityFee.toNat < 2 ^ 128
  paymaster_packs : ∀ paymaster, request.sponsor = some paymaster →
    pipeline.deployment.paymasterGas.verification.toNat < 2 ^ 128 ∧
      pipeline.deployment.paymasterGas.postOp.toNat < 2 ^ 128
  accepted : net.rejectSend = none

/-- The operation that a run is to send, with its packed form. -/
structure IsReference (pipeline : Pipeline) (net : LocalNet) (request : Request)
    (operation : Operation) (packed : PackedOperation) : Prop where
  packs : operation.pack = .ok packed
  sender : operation.sender = request.wallet.sender LocalNet.walletAddress pipeline.owner
  nonce : operation.nonce = LocalNet.found net.nonces operation.sender 0
  /-- A new wallet without code is deployed. -/
  deploys : ∀ salt, request.wallet = .derived salt → operation.sender ∉ net.code →
    operation.factory = some pipeline.deployment.accountFactory ∧
      operation.factoryData = LocalNet.walletCallData pipeline.owner salt
  deployed : operation.sender ∈ net.code → operation.factory = none ∧ operation.factoryData = []
  callData : operation.callData = request.callData
  preVerification : operation.gas.preVerification.toNat =
    net.estimate.preVerification.toNat * pipeline.deployment.gasPolicy.markup.toNat / 10000
  call : operation.gas.call.toNat =
    net.estimate.call.toNat * pipeline.deployment.gasPolicy.markup.toNat / 10000
  verification : operation.gas.verification.toNat =
    net.estimate.verification.toNat * pipeline.deployment.gasPolicy.markup.toNat / 10000
  fee : operation.fees.max.toNat = net.gasPrice.toNat + net.priorityFee.toNat
  priority : operation.fees.priority = net.priorityFee
  paymaster : operation.paymaster = request.sponsor
  unsponsored : request.sponsor = none →
    operation.paymasterGas = ⟨0, 0⟩ ∧ operation.paymasterData = []
  /-- The paymaster authorizes the operation as it is without any data of the paymaster. -/
  sponsored : ∀ paymaster, request.sponsor = some paymaster →
    operation.paymasterGas = pipeline.deployment.paymasterGas ∧
    ∃ now window bare, net.clock? = some now ∧
      window.validUntil.toNat = now.toNat + pipeline.deployment.paymasterValidity.toNat ∧
      window.validAfter = now ∧
      { operation with paymasterData := [], signature := [] }.pack = .ok bare ∧
      operation.paymasterData = Sponsorship.encode window
        (net.paymasterKey.signHash (LocalNet.sponsoredHash paymaster bare window))
  signature : operation.signature =
    net.ownerKey.signHash (packed.hash LocalNet.entryPoint LocalNet.localChain)

variable {net : LocalNet} {pipeline : Pipeline} {request : Request}

/-- The operation that a run starts from has the wallet's sender and nonce, what deploys it, and the
call data. -/
theorem LocalNet.started_eq : net.started pipeline request = {
    sender := request.wallet.sender walletAddress pipeline.owner
    nonce := found net.nonces (request.wallet.sender walletAddress pipeline.owner) 0
    factory := (net.resolution pipeline.resolver request.wallet).init.map (·.1)
    factoryData := ((net.resolution pipeline.resolver request.wallet).init.map (·.2)).getD []
    callData := request.callData
    gas := Gas.placeholderLimits
    fees := Gas.placeholderFees
    paymaster := request.sponsor
    paymasterGas := if request.sponsor.isSome then pipeline.deployment.paymasterGas else ⟨0, 0⟩
    paymasterData := if request.sponsor.isSome then request.paymasterData else [] } := by
  unfold started Pipeline.draft
  rw [← Request.sponsor]
  cases sponsor : request.sponsor with
  | some paymaster => rfl
  | none => rfl

/-- A derived wallet without code has what deploys it. -/
theorem LocalNet.resolution_init_of_derived (resolver : Resolver) {salt : Salt}
    {wallet : WalletChoice} (derived : wallet = .derived salt)
    (absent : wallet.sender walletAddress resolver.owner ∉ net.code) :
    (net.resolution resolver wallet).init =
      some (resolver.factory, walletCallData resolver.owner salt) := by
  subst derived
  exact if_neg absent

/-- A wallet with code has nothing that deploys it. -/
theorem LocalNet.resolution_init_of_mem (resolver : Resolver) {wallet : WalletChoice}
    (present : wallet.sender walletAddress resolver.owner ∈ net.code) :
    (net.resolution resolver wallet).init = none := by
  cases wallet with
  | derived salt => exact if_pos present
  | existing address => rfl

/-- A run starts from an operation without a signature. -/
theorem LocalNet.signature_started : (net.started pipeline request).signature = [] := by
  rw [started_eq]

/-- A sponsored run starts from an operation with the paymaster gas of the deployment. -/
theorem LocalNet.paymasterGas_started {paymaster : Address}
    (sponsored : request.sponsor = some paymaster) :
    (net.started pipeline request).paymasterGas = pipeline.deployment.paymasterGas := by
  rw [started_eq]
  simp [sponsored]

namespace LocalNet.Settles

variable {operation settled : Operation}

/-- Settling changes the data of the paymaster only. -/
theorem exists_eq (settles : net.Settles pipeline request operation settled) :
    ∃ data, settled = { operation with paymasterData := data } := by
  unfold Settles at settles
  split at settles
  · obtain ⟨_, _, _, _, _, _, rfl⟩ := settles
    exact ⟨_, rfl⟩
  · subst settles
    exact ⟨_, rfl⟩

/-- Without a paymaster, settling changes nothing. -/
theorem eq_of_unsponsored (settles : net.Settles pipeline request operation settled)
    (unsponsored : request.sponsor = none) : settled = operation := by
  unfold Settles at settles
  rw [unsponsored] at settles
  exact settles

/-- A paymaster authorizes an operation without data of its own. -/
theorem exists_of_sponsored (settles : net.Settles pipeline request operation settled)
    {paymaster : Address} (sponsored : request.sponsor = some paymaster)
    (active : operation.activePaymaster = some paymaster) :
    ∃ now window bare, net.clock? = some now ∧
      now.toNat + pipeline.deployment.paymasterValidity.toNat ≤ 2 ^ 48 - 1 ∧
      window.validUntil.toNat = now.toNat + pipeline.deployment.paymasterValidity.toNat ∧
      window.validAfter = now ∧
      { operation with paymasterData := [] }.pack = .ok bare ∧
      settled.paymasterData = Sponsorship.encode window
        (net.paymasterKey.signHash (sponsoredHash paymaster bare window)) := by
  unfold Settles at settles
  rw [sponsored] at settles
  obtain ⟨now, clock, window, timely, packed, packs, rfl⟩ := settles
  obtain ⟨fits, until_sum, after_now⟩ := ValidityWindow.startingAt_eq_ok_iff.mp timely
  obtain ⟨bare, bare_packs, same⟩ := Operation.sponsoredHash_paymasterData active packs []
  refine ⟨now, window, bare, clock, fits, until_sum, after_now, bare_packs, ?_⟩
  rw [same]

end LocalNet.Settles

namespace LocalNet.Delivers

variable {hash : Hash} {operation : Operation}

/-- What is delivered is the reference. -/
theorem isReference (delivers : net.Delivers pipeline request hash operation) :
    ∃ packed, IsReference pipeline net request operation packed ∧
      hash = packed.hash pipeline.deployment.entryPoint localChain := by
  obtain ⟨⟨-, has_code⟩, gas, fees, settled, unsigned, packed, ⟨-, limits⟩, priced, settles, packs,
    rfl, signed_packs, hashes, -⟩ := delivers
  obtain ⟨preVerification, call, verification⟩ := GasPolicy.limits_eq_ok_iff.mp limits
  obtain ⟨max, priority⟩ := Gas.fees_eq_ok_iff.mp priced
  -- The signature is no part of what is signed, so the signed operation packs as the unsigned did.
  have repacked := Operation.pack_signature packs
    (net.ownerKey.signHash (unsigned.hash entryPoint localChain))
  have same : packed = { unsigned with
      signature := net.ownerKey.signHash (unsigned.hash entryPoint localChain) } :=
    Except.ok.inj (signed_packs.symm.trans repacked)
  have active : { net.started pipeline request with gas, fees }.activePaymaster =
      request.sponsor :=
    net.activePaymaster_started pipeline request
  obtain ⟨data, rfl⟩ := settles.exists_eq
  have sender : (net.started pipeline request).sender =
      request.wallet.sender walletAddress pipeline.owner :=
    congrArg Operation.sender started_eq
  exact ⟨packed, {
    packs := signed_packs
    sender := sender
    nonce := by
      change (net.started pipeline request).nonce = found net.nonces (net.started pipeline request).sender 0
      rw [started_eq]
    deploys := by
      intro salt derived absent
      have init := resolution_init_of_derived pipeline.resolver derived (sender ▸ absent)
      refine ⟨(congrArg Operation.factory started_eq).trans ?_,
        (congrArg Operation.factoryData started_eq).trans ?_⟩
      · simp only [init]
        rfl
      · simp only [init]
        rfl
    deployed := by
      intro present
      have init := resolution_init_of_mem pipeline.resolver (sender ▸ present)
      refine ⟨(congrArg Operation.factory started_eq).trans ?_,
        (congrArg Operation.factoryData started_eq).trans ?_⟩
      · simp only [init]
        rfl
      · simp only [init]
        rfl
    callData := congrArg Operation.callData started_eq
    preVerification := (Gas.raised_eq_ok_iff.mp preVerification).2
    call := (Gas.raised_eq_ok_iff.mp call).2
    verification := (Gas.raised_eq_ok_iff.mp verification).2
    fee := max
    priority := priority
    paymaster := congrArg Operation.paymaster started_eq
    unsponsored := by
      intro unsponsored
      have unpaid := settles.eq_of_unsponsored unsponsored
      refine ⟨(congrArg Operation.paymasterGas started_eq).trans ?_,
        (congrArg Operation.paymasterData unpaid).trans
          ((congrArg Operation.paymasterData started_eq).trans ?_)⟩
      · simp [unsponsored]
      · simp [unsponsored]
    sponsored := by
      intro paymaster sponsored
      obtain ⟨now, window, bare, clock, -, until_sum, after_now, bare_packs, authorized⟩ :=
        settles.exists_of_sponsored sponsored (active.trans sponsored)
      refine ⟨paymasterGas_started sponsored, now, window, bare, clock, until_sum, after_now, ?_,
        authorized⟩
      simpa only [signature_started] using bare_packs
    signature := by
      subst same
      exact congrArg net.ownerKey.signHash (Operation.hash_signature _ _ _ _).symm }, hashes⟩

/-- What is delivered could be sent. -/
theorem sendable (delivers : net.Delivers pipeline request hash operation) :
    Sendable pipeline net request := by
  obtain ⟨⟨code_found, has_code⟩, gas, fees, settled, unsigned, packed, ⟨estimated, limits⟩, priced,
    settles, packs, -, -, -, accepted⟩ := delivers
  obtain ⟨preVerification, call, verification⟩ := GasPolicy.limits_eq_ok_iff.mp limits
  obtain ⟨max, priority⟩ := Gas.fees_eq_ok_iff.mp priced
  have active : { net.started pipeline request with gas, fees }.activePaymaster =
      request.sponsor :=
    net.activePaymaster_started pipeline request
  have fits := Operation.exists_pack_iff.mp ⟨unsigned, packs⟩
  obtain ⟨data, rfl⟩ := settles.exists_eq
  obtain ⟨call_raises, call_value⟩ := Gas.raised_eq_ok_iff.mp call
  obtain ⟨verification_raises, verification_value⟩ := Gas.raised_eq_ok_iff.mp verification
  exact {
    code_found
    has_code
    estimated
    preVerification_raises := (Gas.raised_eq_ok_iff.mp preVerification).1
    call_raises
    verification_raises
    fee_fits := by
      rw [← max]
      exact fees.max.isLt
    window_fits := by
      intro paymaster sponsored
      obtain ⟨now, _, _, clock, timely, -⟩ :=
        settles.exists_of_sponsored sponsored (active.trans sponsored)
      exact ⟨now, clock, timely⟩
    verification_packs := by
      rw [← verification_value]
      exact fits.verification
    call_packs := by
      rw [← call_value]
      exact fits.call
    priority_packs := by
      rw [← priority]
      exact fits.priority
    fee_packs := by
      rw [← max]
      exact fits.max
    paymaster_packs := by
      intro paymaster sponsored
      rw [← paymasterGas_started sponsored]
      exact fits.paymaster paymaster (active.trans sponsored)
    accepted }

end LocalNet.Delivers

/-- An operation whose numbers fit into their halves can be settled, if the paymaster's window can be
opened where there is one. -/
theorem LocalNet.exists_settles {operation : Operation} (fits : operation.FitsHalves)
    (timely : ∀ paymaster, request.sponsor = some paymaster → ∃ now, net.clock? = some now ∧
      now.toNat + pipeline.deployment.paymasterValidity.toNat ≤ 2 ^ 48 - 1) :
    ∃ settled, net.Settles pipeline request operation settled := by
  unfold Settles
  cases sponsor : request.sponsor with
  | none => exact ⟨operation, rfl⟩
  | some paymaster =>
      obtain ⟨now, clock, time⟩ := timely paymaster sponsor
      obtain ⟨window, starts⟩ := ValidityWindow.exists_startingAt time
      obtain ⟨packed, packs⟩ := Operation.exists_pack_iff.mpr fits
      exact ⟨_, now, clock, window, starts, packed, packs, rfl⟩

/-- In a run that is to succeed the gas and the fees fit into their halves. -/
theorem Sendable.fitsHalves (sendable : Sendable pipeline net request) {gas : GasLimits}
    {fees : Fees} (limits : pipeline.deployment.gasPolicy.limits net.estimate = .ok gas)
    (priced : Gas.fees net.gasPrice net.priorityFee = .ok fees) :
    { net.started pipeline request with gas, fees }.FitsHalves := by
  obtain ⟨-, call, verification⟩ := GasPolicy.limits_eq_ok_iff.mp limits
  obtain ⟨max, priority⟩ := Gas.fees_eq_ok_iff.mp priced
  exact {
    verification := by
      rw [(Gas.raised_eq_ok_iff.mp verification).2]
      exact sendable.verification_packs
    call := by
      rw [(Gas.raised_eq_ok_iff.mp call).2]
      exact sendable.call_packs
    priority := by
      rw [priority]
      exact sendable.priority_packs
    max := by
      rw [max]
      exact sendable.fee_packs
    paymaster := by
      intro paymaster chosen
      have sponsored := (net.activePaymaster_started pipeline request).symm.trans chosen
      change (net.started pipeline request).paymasterGas.verification.toNat < _ ∧
        (net.started pipeline request).paymasterGas.postOp.toNat < _
      rw [LocalNet.paymasterGas_started sponsored]
      exact sendable.paymaster_packs paymaster sponsored }

/-- What can be sent is delivered. -/
theorem Sendable.exists_delivers (sendable : Sendable pipeline net request) :
    ∃ hash operation, net.Delivers pipeline request hash operation := by
  obtain ⟨gas, limits⟩ := GasPolicy.exists_limits sendable.preVerification_raises
    sendable.call_raises sendable.verification_raises
  obtain ⟨fees, priced⟩ := Gas.exists_fees sendable.fee_fits
  have fits := sendable.fitsHalves limits priced
  obtain ⟨settled, settles⟩ := LocalNet.exists_settles fits sendable.window_fits
  obtain ⟨data, rfl⟩ := settles.exists_eq
  obtain ⟨unsigned, packs⟩ := Operation.exists_pack_iff.mpr (fits.of_settled data [])
  exact ⟨_, _, ⟨sendable.code_found, sendable.has_code⟩, gas, fees, _, unsigned, _,
    ⟨sendable.estimated, limits⟩, priced, settles, packs, rfl, Operation.pack_signature packs _,
    rfl, sendable.accepted⟩

namespace IsReference

variable {first second : Operation} {one two : PackedOperation}

/-- Operations that are to be sent for the same request are deployed in the same way. -/
theorem factory_eq (left : IsReference pipeline net request first one)
    (right : IsReference pipeline net request second two)
    (has_code : ∀ wallet, request.wallet = .existing wallet → wallet ∈ net.code) :
    first.factory = second.factory ∧ first.factoryData = second.factoryData := by
  have sender : first.sender = second.sender := left.sender.trans right.sender.symm
  by_cases present : second.sender ∈ net.code
  · have known := left.deployed (sender ▸ present)
    have same := right.deployed present
    exact ⟨known.1.trans same.1.symm, known.2.trans same.2.symm⟩
  · cases wallet : request.wallet with
    | existing address =>
        have here := right.sender
        rw [wallet] at here
        exact absurd (here ▸ has_code address wallet) present
    | derived salt =>
        have known := left.deploys salt wallet (sender ▸ present)
        have same := right.deploys salt wallet present
        exact ⟨known.1.trans same.1.symm, known.2.trans same.2.symm⟩

/-- Operations that are to be sent for the same request have the same paymaster gas. -/
theorem paymasterGas_eq (left : IsReference pipeline net request first one)
    (right : IsReference pipeline net request second two) :
    first.paymasterGas = second.paymasterGas := by
  cases sponsor : request.sponsor with
  | none => exact (left.unsponsored sponsor).1.trans (right.unsponsored sponsor).1.symm
  | some paymaster =>
      exact (left.sponsored paymaster sponsor).1.trans (right.sponsored paymaster sponsor).1.symm

/-- What is signed later does not matter yet. -/
theorem with_eq_with (left : IsReference pipeline net request first one)
    (right : IsReference pipeline net request second two)
    (has_code : ∀ wallet, request.wallet = .existing wallet → wallet ∈ net.code)
    (data signature : Bytes) :
    { first with paymasterData := data, signature } =
      { second with paymasterData := data, signature } := by
  have sender : first.sender = second.sender := left.sender.trans right.sender.symm
  have nonce : first.nonce = second.nonce := by
    rw [left.nonce, right.nonce, sender]
  obtain ⟨factory, factoryData⟩ := left.factory_eq right has_code
  have gas : first.gas = second.gas :=
    GasLimits.eq_of_toNat_eq (left.preVerification.trans right.preVerification.symm)
      (left.call.trans right.call.symm) (left.verification.trans right.verification.symm)
  have fees : first.fees = second.fees :=
    Fees.eq_of_max_eq (left.fee.trans right.fee.symm) (left.priority.trans right.priority.symm)
  rw [Operation.mk.injEq]
  exact ⟨sender, nonce, factory, factoryData, left.callData.trans right.callData.symm, gas, fees,
    left.paymaster.trans right.paymaster.symm, left.paymasterGas_eq right, rfl, rfl⟩

/-- Operations that are to be sent for the same request have the same data of the paymaster. -/
theorem paymasterData_eq (left : IsReference pipeline net request first one)
    (right : IsReference pipeline net request second two)
    (has_code : ∀ wallet, request.wallet = .existing wallet → wallet ∈ net.code) :
    first.paymasterData = second.paymasterData := by
  cases sponsor : request.sponsor with
  | none => exact (left.unsponsored sponsor).2.trans (right.unsponsored sponsor).2.symm
  | some paymaster =>
      obtain ⟨-, now, window, bare, clock, until_sum, after_now, packs, authorized⟩ :=
        left.sponsored paymaster sponsor
      obtain ⟨-, now', window', bare', clock', until_sum', after_now', packs', authorized'⟩ :=
        right.sponsored paymaster sponsor
      obtain rfl := Option.some.inj (clock.symm.trans clock')
      obtain rfl := ValidityWindow.eq_of_bounds_eq (until_sum.trans until_sum'.symm)
        (after_now.trans after_now'.symm)
      rw [left.with_eq_with right has_code] at packs
      obtain rfl := Except.ok.inj (packs.symm.trans packs')
      exact authorized.trans authorized'.symm

/-- There is one reference at most, when an existing wallet has code. -/
theorem eq_of_isReference (left : IsReference pipeline net request first one)
    (right : IsReference pipeline net request second two)
    (has_code : ∀ wallet, request.wallet = .existing wallet → wallet ∈ net.code) :
    first = second := by
  have unsigned : ∀ signature, { first with signature } = { second with signature } := by
    intro signature
    calc { first with signature }
      _ = { second with paymasterData := first.paymasterData, signature } :=
          left.with_eq_with right has_code first.paymasterData signature
      _ = { second with signature } := by rw [left.paymasterData_eq right has_code]
  have signature : first.signature = second.signature := by
    have packs := Operation.pack_signature left.packs []
    rw [unsigned] at packs
    have same := Except.ok.inj (packs.symm.trans (Operation.pack_signature right.packs []))
    rw [left.signature, right.signature, ← Operation.hash_signature one [], same,
      Operation.hash_signature]
  calc first
    _ = { second with signature := first.signature } := unsigned first.signature
    _ = second := by rw [signature]

end IsReference

/-- **A run sends the reference operation or nothing.** On a net without outages a run succeeds
exactly when a request is sendable. It sends one operation then, which is the only reference, and is
told the hash of that; else it sends none. -/
theorem Pipeline.sends_reference (clear : net.outages = []) (pipeline : Pipeline)
    (request : Request) :
    let ended := net.consult (pipeline.send request)
    ((∃ hash, ended.1 = .ok hash) ↔ Sendable pipeline net request) ∧
    (∀ hash, ended.1 = .ok hash → ∃ operation packed,
      IsReference pipeline net request operation packed ∧
      (∀ other repacked, IsReference pipeline net request other repacked → other = operation) ∧
      ended.2.sent = operation :: net.sent ∧
      hash = packed.hash pipeline.deployment.entryPoint LocalNet.localChain) ∧
    ∀ failure, ended.1 = .error failure → ended.2.sent = net.sent := by
  intro ended
  rcases pipeline.sends_send clear request with
    ⟨hash, operation, delivers, yields⟩ | ⟨never, failure, yields⟩
  · obtain ⟨later, run⟩ := yields net.log
    have ended_eq : ended = (.ok hash, (net.taking operation).logged later) := run
    rw [ended_eq]
    refine ⟨⟨fun _ => delivers.sendable, fun _ => ⟨hash, rfl⟩⟩, ?_, nofun⟩
    rintro _ ⟨⟩
    obtain ⟨packed, reference, hashed⟩ := delivers.isReference
    refine ⟨operation, packed, reference, ?_, rfl, hashed⟩
    intro other repacked also
    exact also.eq_of_isReference reference delivers.sendable.has_code
  · obtain ⟨later, run⟩ := yields net.log
    have ended_eq : ended = (.error failure, net.logged later) := run
    rw [ended_eq]
    refine ⟨⟨?_, ?_⟩, nofun, fun _ _ => rfl⟩
    · rintro ⟨hash, succeeds⟩
      cases succeeds
    · intro sendable
      obtain ⟨hash, operation, delivers⟩ := sendable.exists_delivers
      exact absurd delivers (never hash operation)

/-- Without outages what can be sent is sent, and the bundler has one operation more. -/
theorem Sendable.exists_yields {pipeline : Pipeline} {net : LocalNet} {request : Request}
    (sendable : Sendable pipeline net request) (clear : net.outages = []) :
    ∃ hash operation, net.Yields (pipeline.send request) (.ok hash) (net.taking operation) := by
  obtain ⟨_, _, delivers⟩ := sendable.exists_delivers
  rcases pipeline.sends_send clear request with ⟨hash, operation, -, sends⟩ | ⟨never, -⟩
  · exact ⟨hash, operation, sends⟩
  · exact absurd delivers (never _ _)

/-- One is the scalar of a key. -/
theorem SecretKey.one_in_range : 0 < 1 ∧ 1 < Secp256k1.order := by
  decide

/-- Two is the scalar of a key. -/
theorem SecretKey.two_in_range : 0 < 2 ∧ 2 < Secp256k1.order := by
  decide

/-- A net whose clock reads a time and whose bundler takes what it gets. -/
def LocalNet.obliging : LocalNet where
  ownerKey := { scalar := 1, in_range := SecretKey.one_in_range }
  paymasterKey := { scalar := 2, in_range := SecretKey.two_in_range }

/-- A deployment that the net in memory serves. -/
def Deployment.onLocalNet : Deployment where
  chainId := LocalNet.localChain
  entryPoint := LocalNet.entryPoint
  accountFactory := .filled 20 0xfa
  paymaster := .filled 20 0xaa

/-- A pipeline of that deployment. -/
def Pipeline.onLocalNet : Pipeline where
  deployment := .onLocalNet
  owner := .filled 20 0x22

/-- Any request of a wallet that is named by its salt can be sent on the obliging net. -/
theorem Sendable.of_derived {pipeline : Pipeline} {request : Request} {salt : Salt}
    (deployed : pipeline.deployment = .onLocalNet) (derived : request.wallet = .derived salt) :
    Sendable pipeline .obliging request where
  code_found := rfl
  has_code wallet existing := by cases derived.symm.trans existing
  estimated := rfl
  preVerification_raises := by
    rw [deployed]
    decide
  call_raises := by
    rw [deployed]
    decide
  verification_raises := by
    rw [deployed]
    decide
  fee_fits := by decide
  window_fits _ _ := by
    rw [deployed]
    exact ⟨1700000000, rfl, by decide⟩
  verification_packs := by
    rw [deployed]
    decide
  call_packs := by
    rw [deployed]
    decide
  priority_packs := by decide
  fee_packs := by decide
  paymaster_packs _ _ := by
    rw [deployed]
    decide
  accepted := rfl

/-- A sponsored request of a new wallet is sent. -/
theorem Pipeline.sends_reference_sponsored :
    let pipeline : Pipeline := { deployment := .onLocalNet, owner := .filled 20 0x22 }
    let request : Request := {
      wallet := .derived (.filled 32 0x01)
      paymaster := some (.filled 20 0xaa) }
    LocalNet.obliging.outages = [] ∧ Sendable pipeline .obliging request ∧
      ∃ hash operation packed, IsReference pipeline .obliging request operation packed ∧
        (LocalNet.obliging.consult (pipeline.send request)).1 = .ok hash ∧
        (LocalNet.obliging.consult (pipeline.send request)).2.sent = [operation] := by
  intro pipeline request
  have sendable : Sendable pipeline .obliging request := .of_derived rfl rfl
  have clear : LocalNet.obliging.outages = [] := rfl
  obtain ⟨succeeds, sends, -⟩ := Pipeline.sends_reference clear pipeline request
  obtain ⟨hash, sent⟩ := succeeds.mpr sendable
  obtain ⟨operation, packed, reference, -, grown, -⟩ := sends hash sent
  exact ⟨clear, sendable, hash, operation, packed, reference, sent, grown⟩

/-- A request of a new wallet for which a paymaster pays. -/
def Request.ofNewWallet (data : Bytes) : Request where
  wallet := .derived (.filled 32 0x01)
  paymaster := some (.filled 20 0xaa)
  paymasterData := data

/-- The request of a new wallet is sent, whatever data of the paymaster it brings along. -/
theorem Pipeline.yields_ofNewWallet (data : Bytes) : ∃ hash operation,
    LocalNet.Yields .obliging (onLocalNet.send (.ofNewWallet data)) (.ok hash)
      (LocalNet.obliging.taking operation) := by
  have sendable : Sendable onLocalNet .obliging (.ofNewWallet data) := .of_derived rfl rfl
  exact sendable.exists_yields rfl

end AccountRelay
