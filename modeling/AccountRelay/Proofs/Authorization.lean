import AccountRelay.Authorization
import AccountRelay.Proofs.Amounts
import AccountRelay.Proofs.Dialogue.Exchanges
import AccountRelay.Proofs.Outcome
import AccountRelay.Proofs.Sponsorship

/-! # What an authorization holds

An authorization asks for the hash of the packed operation and for a signature of that, and for nothing
else (`Authorization.ends_authorize_iff`). Its data are read back as the window and the signature that
they were made of, and no other data are read as these (`Sponsorship.exact_codec`).
-/

namespace AccountRelay

/-- A paymaster's hash is got in one question and by no other course. -/
theorem Services.ends_paymasterHash_iff {paymaster : Address} {packed : PackedOperation}
    {window : ValidityWindow} {exchanges : List (Exchange Services)} {hash : Hash} :
    (Services.paymasterHash paymaster packed window).Ends exchanges (.ok hash) ↔
      exchanges = [⟨.paymasterHash paymaster packed window, .ok hash⟩] := by
  constructor
  · rintro ⟨reply, _, rfl, ends⟩
    obtain ⟨rfl, rfl⟩ := Dialogue.Ends.ofExcept ends
    rfl
  · rintro rfl
    exact ⟨.ok hash, [], rfl, rfl, rfl⟩

/-- A paymaster's signature is got in one question and by no other course. -/
theorem Services.ends_paymasterSign_iff {hash : Hash} {context : Context}
    {exchanges : List (Exchange Services)} {signature : Bytes} :
    (Services.within context (Services.paymasterSign hash)).Ends exchanges (.ok signature) ↔
      exchanges = [⟨.paymasterSign hash, .ok signature⟩] := by
  constructor
  · rintro ⟨reply, _, rfl, ends⟩
    cases reply with
    | error failure => cases ends.2
    | ok answer =>
        obtain ⟨rfl, ⟨⟩⟩ := ends
        rfl
  · rintro rfl
    exact ⟨.ok signature, [], rfl, rfl, rfl⟩

namespace Authorization

variable {validity now : UInt64} {operation authorized : Operation} {window : ValidityWindow}
  {exchanges : List (Exchange Services)}

/-- An operation is authorized when it has a paymaster, the window fits and the operation packs, and
both questions are answered. -/
theorem ends_authorize_iff :
    (authorize validity now operation).Ends exchanges (.ok (authorized, window)) ↔
      ∃ paymaster packed hash signature, operation.activePaymaster = some paymaster ∧
        ValidityWindow.startingAt now validity = .ok window ∧ operation.pack = .ok packed ∧
        exchanges = [⟨.paymasterHash paymaster packed window, .ok hash⟩,
          ⟨.paymasterSign hash, .ok signature⟩] ∧
        authorized = { operation with paymasterData := Sponsorship.encode window signature } := by
  constructor
  · intro ends
    unfold authorize at ends
    cases active : operation.activePaymaster with
    | none =>
        rw [active] at ends
        cases ends.2
    | some paymaster =>
        rw [active] at ends
        obtain ⟨_, _, own, rfl, starts, started⟩ := ends.bind_ok
        obtain ⟨rfl, timely⟩ := Dialogue.Ends.ofExcept starts
        obtain ⟨_, _, packed, rfl, packing, packs⟩ := started.bind_ok
        obtain ⟨rfl, packed_eq⟩ := Dialogue.Ends.ofExcept packing
        obtain ⟨_, _, hash, rfl, hashed, covered⟩ := packs.bind_ok
        obtain ⟨_, _, signature, rfl, signed, rfl, ⟨⟩⟩ := covered.bind_ok
        rw [Services.ends_paymasterHash_iff.mp hashed, Services.ends_paymasterSign_iff.mp signed]
        exact ⟨paymaster, packed, hash, signature, rfl, timely.symm,
          Outcome.mapError_eq_ok_iff.mp packed_eq.symm, rfl, rfl⟩
  · rintro ⟨paymaster, packed, hash, signature, active, timely, packs, rfl, rfl⟩
    unfold authorize
    rw [active, timely, packs]
    exact ⟨.ok hash, _, rfl, .ok signature, _, rfl, rfl, rfl⟩

end Authorization

/-- A window that starts at some time can be read back from data. -/
theorem ValidityWindow.in_range_of_startingAt {now validity : UInt64} {window : ValidityWindow}
    (timely : startingAt now validity = .ok window) :
    window.validUntil.toNat ≤ lastTime ∧ window.validAfter.toNat ≤ lastTime := by
  obtain ⟨fits, until_sum, after_now⟩ := startingAt_eq_ok_iff.mp timely
  rw [until_sum, after_now]
  exact ⟨fits, Nat.le_trans (Nat.le_add_right _ _) fits⟩

/-- **Sponsorship data are read exactly.** Data are read as a window and a signature when they are the
data of these and both bounds have 48 bits, and only then. The window from now on starts now, ends
when its time is over, and is refused when that is too late. So an authorization holds the window it
was made for and the signature that was given for it. -/
theorem Sponsorship.exact_codec :
    (∀ data window signature, decode data = some (window, signature) ↔
      data = encode window signature ∧
        window.validUntil.toNat ≤ 2 ^ 48 - 1 ∧ window.validAfter.toNat ≤ 2 ^ 48 - 1) ∧
    (∀ now validity window, ValidityWindow.startingAt now validity = .ok window ↔
      now.toNat + validity.toNat ≤ 2 ^ 48 - 1 ∧ window.validAfter = now ∧
        window.validUntil.toNat = now.toNat + validity.toNat ∧
        window.validAfter ≤ window.validUntil) ∧
    (∀ now validity failure, ValidityWindow.startingAt now validity = .error failure ↔
      failure = .windowTooLate ∧ 2 ^ 48 - 1 < now.toNat + validity.toNat) ∧
    ∀ validity now operation exchanges authorized window,
      (Authorization.authorize validity now operation).Ends exchanges (.ok (authorized, window)) ↔
        ∃ paymaster packed hash signature, operation.activePaymaster = some paymaster ∧
          ValidityWindow.startingAt now validity = .ok window ∧ operation.pack = .ok packed ∧
          exchanges = [⟨.paymasterHash paymaster packed window, .ok hash⟩,
            ⟨.paymasterSign hash, .ok signature⟩] ∧
          authorized = { operation with paymasterData := authorized.paymasterData } ∧
          decode authorized.paymasterData = some (window, signature) := by
  refine ⟨fun data window signature => decode_eq_some_iff, ?_,
    fun now validity failure => ValidityWindow.startingAt_eq_error_iff, ?_⟩
  · intro now validity window
    rw [ValidityWindow.startingAt_eq_ok_iff]
    constructor
    · rintro ⟨fits, until_sum, after_now⟩
      refine ⟨fits, after_now, until_sum, ?_⟩
      rw [UInt64.le_iff_toNat_le, until_sum, after_now]
      exact Nat.le_add_right _ _
    · rintro ⟨fits, after_now, until_sum, -⟩
      exact ⟨fits, until_sum, after_now⟩
  · intro validity now operation exchanges authorized window
    rw [Authorization.ends_authorize_iff]
    constructor
    · rintro ⟨paymaster, packed, hash, signature, active, timely, packs, asked, rfl⟩
      obtain ⟨until_in_range, after_in_range⟩ := ValidityWindow.in_range_of_startingAt timely
      exact ⟨paymaster, packed, hash, signature, active, timely, packs, asked, rfl,
        decode_encode until_in_range after_in_range signature⟩
    · rintro ⟨paymaster, packed, hash, signature, active, timely, packs, asked, rest, reads⟩
      refine ⟨paymaster, packed, hash, signature, active, timely, packs, asked, ?_⟩
      rw [rest, (decode_eq_some_iff.mp reads).1]

end AccountRelay
