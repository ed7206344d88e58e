import AccountRelay.Proofs.Amounts
import AccountRelay.Proofs.LocalNet.Outages
import AccountRelay.Proofs.LocalNet.Reference
import AccountRelay.Proofs.Operation.Packing
import AccountRelay.Proofs.Sponsorship

/-! # Building an operation on a net

A `Building` goes through all stages of a draft: from its start through any choices of who pays, an
estimate of gas and the settlement of payment to the owner's signature. Whatever comes out signed is
coherent (`Building.coherent_of_consult`): both signatures cover the operation as it is sent, with
the limits and fees that were found out, and neither covers a placeholder.
-/

namespace AccountRelay

/-- A choice of who pays, with data that stand in for the authorization. -/
structure PaymasterChoice where
  paymaster : Address
  gas : PaymasterGas
  data : Bytes

/-- A way to settle payment. -/
inductive Settlement
  /-- With an authorization that is valid from `now` on for `validity` seconds. -/
  | authorized (validity now : UInt64)
  /-- By doing without one. -/
  | unpaid

/-- A way to build an operation. -/
structure Building where
  wallet : Resolution
  nonce : Uint256
  callData : Bytes
  /-- The choices of who pays, in their order. -/
  choices : List PaymasterChoice
  policy : GasPolicy
  entryPoint : Address
  settlement : Settlement

/-- Settles the payment of a draft. -/
def Settlement.settle (settlement : Settlement) (draft : Draft .estimated) :
    Consultation (Draft .settled) :=
  match settlement with
  | .authorized validity now => do
    let (settled, _) ← draft.authorize validity now
    return settled
  | .unpaid => .ofExcept draft.withoutPaymaster

namespace Building

/-- The draft when all choices are made. -/
def started (building : Building) : Draft .started :=
  building.choices.foldl
    (fun draft choice => draft.withPaymaster choice.paymaster choice.gas choice.data)
    (.start building.wallet building.nonce building.callData)

/-- Goes through the stages. -/
def consultation (building : Building) : Consultation SignedOperation := do
  let estimated ← building.started.estimate building.policy building.entryPoint
  let settled ← building.settlement.settle estimated
  settled.sign

end Building

variable {net : LocalNet}

/-! ## The stages -/

/-- An estimated draft carries the limits the policy sets and the fees of the net's prices, and is
otherwise unchanged. -/
theorem Draft.ensures_estimate (draft : Draft .started) (policy : GasPolicy)
    (entryPoint : Address) :
    net.Ensures (draft.estimate policy entryPoint) fun estimated =>
      ∃ gas fees, policy.limits net.estimate = .ok gas ∧
        Gas.fees net.gasPrice net.priorityFee = .ok fees ∧
        estimated.operation = { draft.operation with gas, fees } := by
  have estimate : net.Ensures (Estimation.estimate entryPoint draft.operation)
      (net.estimate = ·) :=
    (LocalNet.ensures_estimate _ entryPoint).within .gasEstimate
  have limits : net.Ensures (Estimation.limits policy entryPoint draft.operation)
      (policy.limits net.estimate = .ok ·) := by
    apply estimate.bind
    rintro _ rfl
    exact .ofExcept _
  have fees : net.Ensures Estimation.fees (Gas.fees net.gasPrice net.priorityFee = .ok ·) := by
    apply (LocalNet.ensures_priorityFee.within .priorityFee).bind
    rintro _ rfl
    apply LocalNet.ensures_gasPrice.bind
    rintro _ rfl
    exact .ofExcept _
  have applied : net.Ensures (Estimation.apply policy entryPoint draft.operation) fun result =>
      ∀ estimated, result.outcome = .ok estimated →
        ∃ gas fees, policy.limits net.estimate = .ok gas ∧
          Gas.fees net.gasPrice net.priorityFee = .ok fees ∧
          result.operation = { draft.operation with gas, fees } := by
    apply limits.attempt.bind
    intro limits raised
    cases limits with
    | error failure => exact .done nofun
    | ok gas =>
        apply fees.attempt.bind
        intro fees priced
        cases fees with
        | error failure => exact .done nofun
        | ok fees => exact .done fun _ _ => ⟨gas, fees, raised gas rfl, priced fees rfl, rfl⟩
  apply applied.bind
  intro result known
  apply (LocalNet.Ensures.ofExcept _).congr
  intro estimated same
  cases ended : result.outcome with
  | error failure =>
      rw [ended] at same
      cases same
  | ok _ =>
      rw [ended] at same
      rw [← Except.ok.inj same]
      exact known _ ended

/-- An operation whose packing goes through is the packed one. -/
theorem LocalNet.ensures_pack (operation : Operation) :
    net.Ensures (.ofExcept (operation.pack.mapError .tooWide)) (operation.pack = .ok ·) :=
  (LocalNet.Ensures.ofExcept _).congr fun _ => Outcome.mapError_eq_ok_iff.mp

/-- An authorization is for an operation with a paymaster: the paymaster's signature for a window
and the packed operation. -/
theorem Authorization.ensures_authorize (validity now : UInt64) (operation : Operation) :
    net.Ensures (authorize validity now operation) fun authorized =>
      ∃ paymaster window packed, operation.activePaymaster = some paymaster ∧
        ValidityWindow.startingAt now validity = .ok window ∧ operation.pack = .ok packed ∧
        authorized.1 = { operation with
          paymasterData := Sponsorship.encode window
            (net.paymasterKey.signHash (LocalNet.sponsoredHash paymaster packed window)) } := by
  unfold authorize
  cases active : operation.activePaymaster with
  | none => exact .fail _
  | some paymaster =>
      apply (LocalNet.Ensures.ofExcept (ValidityWindow.startingAt now validity)).bind
      intro window timely
      apply (LocalNet.ensures_pack operation).bind
      intro packed packs
      apply (LocalNet.ensures_paymasterHash paymaster packed window).bind
      rintro _ rfl
      apply ((LocalNet.ensures_paymasterSign _).within .paymasterSigner).bind
      rintro _ rfl
      exact .done ⟨paymaster, window, packed, rfl, timely, packs, rfl⟩

/-- What becomes of an operation when its payment is settled. -/
def Settlement.Settles (settlement : Settlement) (net : LocalNet)
    (operation settled : Operation) : Prop :=
  match settlement with
  | .authorized validity now =>
    ∃ paymaster window packed, operation.activePaymaster = some paymaster ∧
      ValidityWindow.startingAt now validity = .ok window ∧ operation.pack = .ok packed ∧
      settled = { operation with
        paymasterData := Sponsorship.encode window
          (net.paymasterKey.signHash (LocalNet.sponsoredHash paymaster packed window)) }
  | .unpaid => operation.activePaymaster = none ∧ settled = operation

/-- A settled draft carries what its settlement asks for. -/
theorem Settlement.ensures_settle (settlement : Settlement) (draft : Draft .estimated) :
    net.Ensures (settlement.settle draft) fun settled =>
      settlement.Settles net draft.operation settled.operation := by
  cases settlement with
  | authorized validity now =>
      have drafted : net.Ensures (draft.authorize validity now) fun settled =>
          (authorized validity now).Settles net draft.operation settled.1.operation :=
        (Authorization.ensures_authorize validity now draft.operation).bind
          fun _ found => .done found
      exact drafted.bind fun _ found => .done found
  | unpaid =>
      exact (LocalNet.Ensures.ofExcept draft.withoutPaymaster).congr
        fun _ => Draft.withoutPaymaster_eq_ok_iff.mp

/-- On a net without outages payment is settled whenever it can be. -/
theorem Settlement.finds_settle (clear : net.outages = []) (settlement : Settlement)
    (draft : Draft .estimated) :
    net.Finds (settlement.settle draft) fun settled =>
      settlement.Settles net draft.operation settled.operation := by
  cases settlement with
  | authorized validity now =>
      cases active : draft.operation.activePaymaster with
      | none =>
          have refused : draft.authorize validity now = .fail .nothingToAuthorize := by
            simp only [Draft.authorize, Authorization.authorize, active]
            rfl
          simp only [settle, refused]
          apply (LocalNet.Finds.fail _).congr
          intro settled
          refine ⟨False.elim, ?_⟩
          rintro ⟨paymaster, -, -, chosen, -⟩
          rw [active] at chosen
          cases chosen
      | some paymaster =>
          apply (Draft.finds_authorized clear validity now active).congr
          intro settled
          constructor
          · rintro ⟨window, timely, packed, packs, same⟩
            exact ⟨paymaster, window, packed, active, timely, packs, same⟩
          · rintro ⟨other, window, packed, chosen, timely, packs, same⟩
            cases active.symm.trans chosen
            exact ⟨window, timely, packed, packs, same⟩
  | unpaid =>
      exact (LocalNet.Finds.ofExcept draft.withoutPaymaster).congr
        fun _ => Draft.withoutPaymaster_eq_ok_iff

/-- The owner signs the hash of the packed operation. -/
theorem Draft.ensures_sign (draft : Draft .settled) :
    net.Ensures draft.sign fun signed =>
      ∃ unsigned hash, { draft.operation with signature := [] }.pack = .ok unsigned ∧
        unsigned.hash LocalNet.entryPoint LocalNet.localChain = hash ∧
        signed = ⟨{ draft.operation with signature := net.ownerKey.signHash hash }, hash⟩ := by
  unfold sign
  apply (LocalNet.ensures_pack _).bind
  intro unsigned packs
  apply (LocalNet.ensures_operationHash unsigned).bind
  rintro _ rfl
  apply ((LocalNet.ensures_ownerSign _).within .ownerSigner).bind
  rintro _ rfl
  exact .done ⟨unsigned, _, packs, rfl, rfl⟩

/-! ## The whole way -/

namespace Settlement

/-- How the packed form of an operation shows that its payment was settled: it holds nothing of a
paymaster, or behind the paymaster and its limits it holds an authorization of that very form, which
is valid from the given time on. -/
def IsPaid (settlement : Settlement) (net : LocalNet) (operation : Operation)
    (packed : PackedOperation) : Prop :=
  match settlement with
  | .authorized validity now =>
    ∃ paymaster window, operation.activePaymaster = some paymaster ∧
      window.validAfter = now ∧ window.validUntil.toNat = now.toNat + validity.toNat ∧
      Sponsorship.decode (packed.paymasterAndData.drop paymasterDataOffset) =
        some (window, net.paymasterKey.signHash (LocalNet.sponsoredHash paymaster packed window))
  | .unpaid => packed.paymasterAndData = []

variable {settlement : Settlement} {operation settled : Operation}

/-- Settling changes the data of the paymaster only. -/
theorem Settles.exists_eq (settles : settlement.Settles net operation settled) :
    ∃ data, settled = { operation with paymasterData := data } := by
  cases settlement with
  | authorized validity now =>
      obtain ⟨_, _, _, -, -, -, rfl⟩ := settles
      exact ⟨_, rfl⟩
  | unpaid =>
      obtain ⟨-, rfl⟩ := settles
      exact ⟨_, rfl⟩

/-- The paymaster has signed the operation as it is when it is signed. -/
theorem Settles.isPaid (settles : settlement.Settles net operation settled) {signature : Bytes}
    {packed : PackedOperation} (packs : { settled with signature }.pack = .ok packed) :
    settlement.IsPaid net { settled with signature } packed := by
  cases settlement with
  | authorized validity now =>
      obtain ⟨paymaster, window, before, active, timely, before_packs, rfl⟩ := settles
      obtain ⟨in_range, until_eq, after_eq⟩ := ValidityWindow.startingAt_eq_ok_iff.mp timely
      -- The data are opaque from here on: what the paymaster has signed does not depend on them.
      generalize encoded : Sponsorship.encode window (net.paymasterKey.signHash
        (LocalNet.sponsoredHash paymaster before window)) = data at packs ⊢
      obtain ⟨bare, bare_packs, same⟩ :=
        Operation.sponsoredHash_paymasterData active before_packs data
      have packed_eq : { bare with signature } = packed :=
        Except.ok.inj ((Operation.pack_signature bare_packs signature).symm.trans packs)
      have hash_eq : LocalNet.sponsoredHash paymaster packed window =
          LocalNet.sponsoredHash paymaster before window := by
        rw [← packed_eq, ← same window]
        rfl
      refine ⟨paymaster, window, active, after_eq, until_eq, ?_⟩
      rw [Operation.drop_paymasterAndData packs active, hash_eq]
      change Sponsorship.decode data = _
      rw [← encoded]
      apply Sponsorship.decode_encode
      · rw [until_eq]
        exact in_range
      · rw [after_eq]
        exact Nat.le_trans (Nat.le_add_right _ _) in_range
  | unpaid =>
      obtain ⟨idle, rfl⟩ := settles
      exact Operation.paymasterAndData_eq_nil packs idle

end Settlement

namespace Building

/-- A signed operation, with its packed form, as the way in which it was built and the net on which
it was built want it. -/
structure IsCoherent (building : Building) (net : LocalNet) (signed : SignedOperation)
    (packed : PackedOperation) : Prop where
  packs : signed.operation.pack = .ok packed
  hash : signed.hash = packed.hash LocalNet.entryPoint LocalNet.localChain
  signature : signed.operation.signature = net.ownerKey.signHash signed.hash
  gas : building.policy.limits net.estimate = .ok signed.operation.gas
  fees : Gas.fees net.gasPrice net.priorityFee = .ok signed.operation.fees
  /-- Besides these only the paymaster's data are not those of the draft. -/
  rest : signed.operation = { building.started.operation with
    gas := signed.operation.gas
    fees := signed.operation.fees
    paymasterData := signed.operation.paymasterData
    signature := signed.operation.signature }
  payment : building.settlement.IsPaid net signed.operation packed

/-- Whatever its outages, a net ensures that what comes out signed is coherent. -/
theorem ensures_isCoherent (building : Building) :
    net.Ensures building.consultation fun signed =>
      ∃ packed, building.IsCoherent net signed packed := by
  apply (Draft.ensures_estimate building.started building.policy building.entryPoint).bind
  rintro estimated ⟨gas, fees, raised, priced, estimated_eq⟩
  apply (Settlement.ensures_settle building.settlement estimated).bind
  intro settled settles
  apply (Draft.ensures_sign settled).congr
  rintro _ ⟨unsigned, hash, unsigned_packs, hashed, rfl⟩
  generalize sealed : net.ownerKey.signHash hash = signature
  have packs := Operation.pack_signature unsigned_packs signature
  obtain ⟨data, settled_eq⟩ := settles.exists_eq
  rw [estimated_eq] at settled_eq
  exact ⟨_, {
    packs
    hash := hashed.symm
    signature := sealed.symm
    gas := by
      rw [settled_eq]
      exact raised
    fees := by
      rw [settled_eq]
      exact priced
    rest := by rw [settled_eq]
    payment := settles.isPaid packs }⟩

/-- **Coherence of what is signed.** Whatever way an operation is built on a net, and whatever the
net's outages, if it comes out signed then the hash is that of the operation itself and the owner's
signature is of that hash; limits and fees are those that were found out, never placeholders; and
either the packed form holds nothing of a paymaster, or payment was authorized and the data hold
exactly the window and the paymaster's signature of the operation as it came out. -/
theorem coherent_of_consult (building : Building) (net : LocalNet) {signed : SignedOperation}
    {after : LocalNet} (ends : net.consult building.consultation = (.ok signed, after)) :
    ∃ packed, building.IsCoherent net signed packed :=
  building.ensures_isCoherent.holds_of_consult net.log net.outages ends

/-- On a net without outages an operation comes out signed whenever gas and fees can be found out,
payment can be settled, and the operation packs. -/
theorem exists_consult (clear : net.outages = []) (building : Building) {gas : GasLimits}
    {fees : Fees} {settled : Operation} {unsigned : PackedOperation}
    (estimated : net.failEstimate = false) (raised : building.policy.limits net.estimate = .ok gas)
    (priced : Gas.fees net.gasPrice net.priorityFee = .ok fees)
    (settles : building.settlement.Settles net
      { building.started.operation with gas, fees } settled)
    (packs : { settled with signature := [] }.pack = .ok unsigned) :
    ∃ signed after, net.consult building.consultation = (.ok signed, after) := by
  have way := (Draft.finds_estimate clear building.started building.policy building.entryPoint).bind
    fun estimated _ => (Settlement.finds_settle clear building.settlement estimated).bind
      fun settled _ => Draft.finds_sign clear settled
  obtain ⟨after, ends⟩ := LocalNet.Finds.exists_consult way
    ⟨_, ⟨gas, fees, ⟨estimated, raised⟩, priced, rfl⟩, ⟨settled⟩, settles, unsigned, packs, rfl⟩
  exact ⟨_, after, ends⟩

/-- An operation is built for a paymaster that is chosen after another one, and is coherent. -/
theorem coherent_of_consult_sponsored :
    let building : Building := {
      wallet := { sender := .filled 20 0x5e, deployed := true, init := none }
      nonce := 3
      callData := [0x01]
      choices := [⟨.filled 20 0x00, {}, [0xff]⟩, ⟨.filled 20 0x22, {}, [0x00]⟩]
      policy := {}
      entryPoint := LocalNet.entryPoint
      settlement := .authorized 3600 1700000000 }
    ∃ signed after packed, LocalNet.obliging.consult building.consultation = (.ok signed, after) ∧
      building.IsCoherent .obliging signed packed := by
  intro building
  let gas : GasLimits := ⟨220000, 110000, 110000⟩
  let fees : Fees := ⟨3500000000, 1500000000⟩
  let estimated : Operation := { building.started.operation with gas, fees }
  have clear : LocalNet.obliging.outages = [] := rfl
  have raised : building.policy.limits LocalNet.obliging.estimate = .ok gas := by
    simp only [GasPolicy.limits_eq_ok_iff, Gas.raised_eq_ok_iff]
    decide
  have priced : Gas.fees LocalNet.obliging.gasPrice LocalNet.obliging.priorityFee = .ok fees := rfl
  have fits : estimated.FitsHalves := {
    verification := by decide
    call := by decide
    priority := by decide
    max := by decide
    paymaster := fun _ _ => by decide }
  obtain ⟨before, before_packs⟩ := Operation.exists_pack_iff.mpr fits
  obtain ⟨window, timely⟩ : ∃ window, ValidityWindow.startingAt 1700000000 3600 = .ok window :=
    ValidityWindow.exists_startingAt (by decide)
  let data := Sponsorship.encode window (LocalNet.obliging.paymasterKey.signHash
    (LocalNet.sponsoredHash (.filled 20 0x22) before window))
  have settles : building.settlement.Settles .obliging estimated
      { estimated with paymasterData := data } :=
    ⟨.filled 20 0x22, window, before, by decide, timely, before_packs, rfl⟩
  obtain ⟨unsigned, packs⟩ := Operation.exists_pack_iff.mpr (fits.of_settled data [])
  obtain ⟨signed, after, ends⟩ := building.exists_consult clear rfl raised priced settles packs
  obtain ⟨packed, coherent⟩ := building.coherent_of_consult .obliging ends
  exact ⟨signed, after, packed, ends, coherent⟩

end Building

end AccountRelay
