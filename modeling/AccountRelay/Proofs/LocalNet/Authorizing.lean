import AccountRelay.Proofs.Authorization
import AccountRelay.Proofs.LocalNet.Reference

/-! # Authorizing an operation again

An authorization takes the place of the paymaster's data. Neither whether there is one nor what it holds
depends on the data that it replaces (`LocalNet.authorization_withData`). So an operation that carries
one already can be authorized again as if it had none, and the signature in it is one for the operation
that it is part of (`Authorization.replaces_data`).
-/

namespace AccountRelay

namespace LocalNet

variable {net : LocalNet} {validity now : UInt64} {operation : Operation}

/-- An authorization is not about the data that it replaces. -/
theorem authorization_withData (net : LocalNet) (validity now : UInt64) (operation : Operation)
    (data : Bytes) :
    net.authorization validity now { operation with paymasterData := data } =
      net.authorization validity now operation := by
  have still : { operation with paymasterData := data }.activePaymaster = operation.activePaymaster :=
    rfl
  unfold authorization
  rw [still]
  cases active : operation.activePaymaster with
  | none => rfl
  | some paymaster =>
      refine congrArg (ValidityWindow.startingAt now validity >>= ·) (funext fun window => ?_)
      rw [Operation.pack_withData active]
      cases packs : operation.pack with
      | error fault => exact Eq.refl (Except.error (Failure.tooWide fault))
      | ok packed =>
          obtain ⟨bare, bare_packs, same⟩ :=
            Operation.sponsoredHash_paymasterData active packs data
          rw [Operation.pack_withData active, packs] at bare_packs
          obtain rfl := Except.ok.inj bare_packs
          simp only [Except.map, Outcome.mapError_ok, Bind.bind, Except.bind]
          rw [same window]

/-- What stands in the way of an authorization: the want of a paymaster first, then the time, and then
the width of a number. -/
theorem authorization_eq_error_iff {failure : Failure} :
    net.authorization validity now operation = .error failure ↔
      operation.activePaymaster = none ∧ failure = .nothingToAuthorize ∨
      operation.activePaymaster.isSome ∧
        (2 ^ 48 - 1 < now.toNat + validity.toNat ∧ failure = .windowTooLate ∨
          now.toNat + validity.toNat ≤ 2 ^ 48 - 1 ∧
            ∃ fault, operation.pack = .error fault ∧ failure = .tooWide fault) := by
  unfold authorization
  cases operation.activePaymaster with
  | none => simp [eq_comm]
  | some paymaster =>
      simp only [reduceCtorEq, false_and, Option.isSome_some, true_and, false_or]
      cases timely : ValidityWindow.startingAt now validity with
      | error late =>
          obtain ⟨rfl, late⟩ := ValidityWindow.startingAt_eq_error_iff.mp timely
          have late : 2 ^ 48 - 1 < now.toNat + validity.toNat := late
          simp [Bind.bind, Except.bind, late, Nat.not_le.mpr late, eq_comm]
      | ok window =>
          obtain ⟨fits, -, -⟩ := ValidityWindow.startingAt_eq_ok_iff.mp timely
          have fits : now.toNat + validity.toNat ≤ 2 ^ 48 - 1 := fits
          cases operation.pack with
          | error fault =>
              simp [Bind.bind, Except.bind, Outcome.mapError_error, fits, Nat.not_lt.mpr fits, eq_comm]
          | ok packed =>
              simp [Bind.bind, Except.bind, Outcome.mapError_ok, Pure.pure, Except.pure,
                Nat.not_lt.mpr fits]

/-- What becomes of an operation that is authorized in place. -/
def inPlace (operation : Operation) :
    Except Failure (Operation × ValidityWindow) → Authorization.Result
  | .error failure => { operation, outcome := .error failure }
  | .ok (operation, window) => { operation, outcome := .ok window }

section

variable {authorized : Except Failure (Operation × ValidityWindow)}

/-- Authorizing in place ends as the authorization does. -/
theorem outcome_inPlace (operation : Operation) :
    (inPlace operation authorized).outcome = authorized.map (·.2) := by
  cases authorized with
  | error failure => rfl
  | ok found => rfl

/-- Authorizing in place fails exactly when the authorization does, with its failure. -/
theorem inPlace_eq_error_iff {failure : Failure} :
    (inPlace operation authorized).outcome = .error failure ↔ authorized = .error failure := by
  cases authorized with
  | error own => simp [inPlace]
  | ok found => exact ⟨nofun, nofun⟩

/-- Authorizing in place gives the window of the authorization, and its operation stands in the place.
-/
theorem inPlace_eq_ok_iff {window : ValidityWindow} :
    (inPlace operation authorized).outcome = .ok window ↔
      authorized = .ok ((inPlace operation authorized).operation, window) := by
  cases authorized with
  | error failure => exact ⟨nofun, nofun⟩
  | ok found => simp [inPlace, Prod.ext_iff]

/-- Whatever is authorized in place, a success puts the same operation there. -/
theorem operation_inPlace {other : Operation} {window : ValidityWindow}
    (succeeds : (inPlace operation authorized).outcome = .ok window) :
    (inPlace other authorized).operation = (inPlace operation authorized).operation := by
  rw [inPlace_eq_ok_iff.mp succeeds]
  rfl

end

/-- Without outages an authorization moves nothing on the net. -/
theorem yields_apply (clear : net.outages = []) (validity now : UInt64) (operation : Operation) :
    net.Yields (Authorization.apply validity now operation)
      (.ok (inPlace operation (net.authorization validity now operation))) net := by
  apply (Authorization.yields_authorize clear validity now operation).attempt.bind
  cases net.authorization validity now operation with
  | error failure => exact .done _
  | ok found => exact .done _

/-- An authorized operation holds a signature for itself. -/
theorem signs_authorized {authorized : Operation} {window : ValidityWindow}
    (authorizes : net.authorization validity now operation = .ok (authorized, window)) :
    window.validAfter = now ∧ window.validUntil.toNat = now.toNat + validity.toNat ∧
      authorized = { operation with paymasterData := authorized.paymasterData } ∧
      ∃ paymaster packed, operation.activePaymaster = some paymaster ∧
        authorized.pack = .ok packed ∧
        Sponsorship.decode authorized.paymasterData =
          some (window, net.paymasterKey.signHash (sponsoredHash paymaster packed window)) := by
  obtain ⟨paymaster, active, own, timely, packed, packs, same⟩ := authorization_eq_ok_iff.mp authorizes
  obtain ⟨-, until_sum, after_now⟩ := ValidityWindow.startingAt_eq_ok_iff.mp timely
  obtain ⟨until_in_range, after_in_range⟩ := ValidityWindow.in_range_of_startingAt timely
  obtain ⟨replaced, rfl⟩ := Prod.mk.inj same
  generalize signed : net.paymasterKey.signHash (sponsoredHash paymaster packed own) = signature
    at replaced
  obtain ⟨later, later_packs, hash_eq⟩ := Operation.sponsoredHash_paymasterData active packs
    (Sponsorship.encode own signature)
  rw [← hash_eq own] at signed
  subst replaced
  refine ⟨after_now, until_sum, rfl, paymaster, later, active, later_packs, ?_⟩
  rw [signed]
  exact Sponsorship.decode_encode until_in_range after_in_range signature

end LocalNet

/-- **An authorization replaces the data of the paymaster and nothing else.** It fails for want of a
paymaster, or because it would end too late, or because a number is too wide, the first of these being
the reason, and leaves the operation as it was. Otherwise only the data change, and the signature in
them is one for the operation that they are part of. An operation that has been authorized is authorized
again as it would have been at first. -/
theorem Authorization.replaces_data (verifies : Address → Hash → Bytes → Prop) (net : LocalNet)
    (clear : net.outages = [])
    (verifies_signHash : ∀ hash,
      verifies net.paymasterKey.address hash (net.paymasterKey.signHash hash))
    (validity now : UInt64) (operation : Operation) :
    ∃ result after, net.consult (apply validity now operation) = (.ok result, after) ∧
      (∀ failure, result.outcome = .error failure ↔
        operation.activePaymaster = none ∧ failure = .nothingToAuthorize ∨
        operation.activePaymaster.isSome ∧
          (2 ^ 48 - 1 < now.toNat + validity.toNat ∧ failure = .windowTooLate ∨
            now.toNat + validity.toNat ≤ 2 ^ 48 - 1 ∧
              ∃ fault, operation.pack = .error fault ∧ failure = .tooWide fault)) ∧
      (∀ failure, result.outcome = .error failure → result.operation = operation) ∧
      (∀ window, result.outcome = .ok window →
        window.validAfter = now ∧ window.validUntil.toNat = now.toNat + validity.toNat ∧
        result.operation = { operation with paymasterData := result.operation.paymasterData } ∧
        ∃ paymaster packed signature, operation.activePaymaster = some paymaster ∧
          result.operation.pack = .ok packed ∧
          Sponsorship.decode result.operation.paymasterData = some (window, signature) ∧
          signature = net.paymasterKey.signHash
            (LocalNet.sponsoredHash paymaster packed window) ∧
          verifies net.paymasterKey.address (LocalNet.sponsoredHash paymaster packed window)
            signature) ∧
      ∀ validity' later, ∃ again once,
        (after.consult (apply validity' later result.operation)).1 = .ok again ∧
        (net.consult (apply validity' later operation)).1 = .ok once ∧
        again.outcome = once.outcome ∧
        ∀ window, once.outcome = .ok window → again.operation = once.operation := by
  obtain ⟨log, run⟩ := (LocalNet.yields_apply clear validity now operation).exists_consult
  have again_eq (validity' later : UInt64) :
      net.authorization validity' later
          (LocalNet.inPlace operation (net.authorization validity now operation)).operation =
        net.authorization validity' later operation := by
    cases authorizes : net.authorization validity now operation with
    | error failure => rfl
    | ok found =>
        obtain ⟨authorized, window⟩ := found
        obtain ⟨-, -, replaced, -⟩ := LocalNet.signs_authorized authorizes
        change net.authorization validity' later authorized = _
        rw [replaced, LocalNet.authorization_withData]
  refine ⟨_, _, run, ?errors, ?kept, ?authorizes, ?again⟩
  case errors =>
    intro failure
    rw [LocalNet.inPlace_eq_error_iff, LocalNet.authorization_eq_error_iff]
  case kept =>
    intro failure fails
    rw [LocalNet.inPlace_eq_error_iff.mp fails]
    rfl
  case authorizes =>
    intro window succeeds
    obtain ⟨after_now, until_sum, replaced, paymaster, packed, active, packs, decodes⟩ :=
      LocalNet.signs_authorized (LocalNet.inPlace_eq_ok_iff.mp succeeds)
    exact ⟨after_now, until_sum, replaced, paymaster, packed, _, active, packs, decodes, rfl,
      verifies_signHash _⟩
  case again =>
    intro validity' later
    obtain ⟨_, again⟩ := LocalNet.yields_apply clear validity' later
      (LocalNet.inPlace operation (net.authorization validity now operation)).operation log
    obtain ⟨_, once⟩ := (LocalNet.yields_apply clear validity' later operation).exists_consult
    rw [again_eq] at again
    refine ⟨_, _, congrArg Prod.fst again, congrArg Prod.fst once, ?_, ?_⟩
    · rw [LocalNet.outcome_inPlace, LocalNet.outcome_inPlace]
    · exact fun _ => LocalNet.operation_inPlace

/-- An operation that a paymaster is to pay for, with data that are no authorization. -/
def Operation.ofSponsor : Operation where
  sender := .filled 20 0x11
  nonce := 0
  callData := []
  gas := Gas.placeholderLimits
  fees := Gas.placeholderFees
  paymaster := some (.filled 20 0xaa)
  paymasterGas := ⟨300000, 100000⟩
  paymasterData := [0x01, 0x02]

/-- An operation is authorized, and authorized again a day later. -/
theorem Authorization.replaces_data_twice :
    let verifies (signer : Address) (hash : Hash) (signature : Bytes) : Prop :=
      ∃ key : SecretKey, key.address = signer ∧ key.signHash hash = signature
    let key := LocalNet.obliging.paymasterKey
    LocalNet.obliging.outages = [] ∧ (∀ hash, verifies key.address hash (key.signHash hash)) ∧
      ∃ first second : Result, ∃ after,
        LocalNet.obliging.consult (apply 3600 1700000000 .ofSponsor) = (.ok first, after) ∧
        first.outcome = .ok ⟨1700003600, 1700000000⟩ ∧
        (after.consult (apply 3600 1700086400 first.operation)).1 = .ok second ∧
        second.outcome = .ok ⟨1700090000, 1700086400⟩ ∧
        second.operation = { Operation.ofSponsor with
          paymasterData := second.operation.paymasterData } ∧
        ∃ paymaster packed signature, second.operation.pack = .ok packed ∧
          verifies key.address
            (LocalNet.sponsoredHash paymaster packed ⟨1700090000, 1700086400⟩) signature := by
  intro verifies key
  have signs : ∀ hash, verifies key.address hash (key.signHash hash) := fun _ => ⟨key, rfl, rfl⟩
  have clear : LocalNet.obliging.outages = [] := rfl
  obtain ⟨first, after, run, -, -, -, renews⟩ :=
    replaces_data verifies .obliging clear signs 3600 1700000000 .ofSponsor
  obtain ⟨once, later, run', -, -, authorizes, -⟩ :=
    replaces_data verifies .obliging clear signs 3600 1700086400 .ofSponsor
  obtain ⟨second, other, again, alone, outcome_eq, operation_eq⟩ := renews 3600 1700086400
  rw [run'] at alone
  obtain rfl := Except.ok.inj alone
  have at_first : (LocalNet.obliging.consult (apply 3600 1700000000 .ofSponsor)).1.map
      (·.outcome) = .ok (.ok ⟨1700003600, 1700000000⟩) := rfl
  have at_second : (LocalNet.obliging.consult (apply 3600 1700086400 .ofSponsor)).1.map
      (·.outcome) = .ok (.ok ⟨1700090000, 1700086400⟩) := rfl
  rw [run] at at_first
  rw [run'] at at_second
  have succeeds : once.outcome = .ok ⟨1700090000, 1700086400⟩ := Except.ok.inj at_second
  obtain ⟨-, -, replaced, paymaster, packed, signature, -, packs, -, -, verified⟩ :=
    authorizes _ succeeds
  have same := operation_eq _ succeeds
  rw [← same] at replaced packs
  exact ⟨clear, signs, first, second, after, run, Except.ok.inj at_first, again,
    outcome_eq.trans succeeds, replaced, paymaster, packed, signature, packs, verified⟩

end AccountRelay
