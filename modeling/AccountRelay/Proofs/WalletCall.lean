import AccountRelay.Proofs.Abi
import AccountRelay.WalletCall

/-! # The call data of transfers

A `Transfer` is what a wallet is told to move. Its call data is written out byte by byte in
`Transfer.callData`, which is what the wallet's methods are called with
(`WalletCall.withdrawEth_eq`, `WalletCall.withdrawToken_eq`). The number of words tells the two kinds
apart, and the words tell tokens, recipients and amounts apart, so a transfer is known by its call
data (`Transfer.callData_injective`).
-/

namespace AccountRelay

/-- What moves, and to whom. -/
inductive Transfer
  | eth (recipient : Address) (amount : Uint256)
  | token (contract recipient : Address) (amount : Uint256)
deriving DecidableEq

namespace Transfer

/-- The four bytes of the method, the addresses with twelve zeros in front of each, and the amount in
32 bytes, most significant byte first. -/
def callData : Transfer → Bytes
  | .eth recipient amount =>
    Abi.selector "withdrawETH(address,uint256)" ++
      (List.replicate 12 0 ++ recipient.toList) ++ BigEndian.encode 32 amount.toNat
  | .token contract recipient amount =>
    Abi.selector "withdrawERC20(address,address,uint256)" ++
      (List.replicate 12 0 ++ contract.toList) ++ (List.replicate 12 0 ++ recipient.toList) ++
        BigEndian.encode 32 amount.toNat

/-- The words behind the selector. -/
def words : Transfer → List Word
  | .eth recipient amount => [.ofAddress recipient, amount.toWord]
  | .token contract recipient amount => [.ofAddress contract, .ofAddress recipient, amount.toWord]

/-- The method that is called. -/
def signature : Transfer → String
  | .eth _ _ => "withdrawETH(address,uint256)"
  | .token _ _ _ => "withdrawERC20(address,address,uint256)"

/-- A transfer's call data is its selector followed by its words. -/
theorem callData_eq (transfer : Transfer) :
    transfer.callData = Abi.selector transfer.signature ++ transfer.words.flatMap (·.toList) := by
  cases transfer with
  | eth recipient amount =>
    simp [callData, signature, words, Word.ofAddress, Uint256.toWord, Octets.ofNat]
  | token contract recipient amount =>
    simp [callData, signature, words, Word.ofAddress, Uint256.toWord, Octets.ofNat]

/-- A transfer is known by its words: by how many there are, and which. -/
theorem words_injective {first second : Transfer} (same : first.words = second.words) :
    first = second := by
  cases first with
  | eth recipient amount =>
    cases second with
    | eth other_recipient other_amount =>
      simp only [words, List.cons.injEq, Word.ofAddress_inj, Uint256.toWord_inj] at same
      rw [same.1, same.2.1]
    | token contract other_recipient other_amount =>
      exact absurd (congrArg List.length same) (by simp [words])
  | token contract recipient amount =>
    cases second with
    | eth other_recipient other_amount => exact absurd (congrArg List.length same) (by simp [words])
    | token other_contract other_recipient other_amount =>
      simp only [words, List.cons.injEq, Word.ofAddress_inj, Uint256.toWord_inj] at same
      rw [same.1, same.2.1, same.2.2.1]

end Transfer

/-- A transfer is known by its call data. -/
theorem Transfer.callData_injective {first second : Transfer}
    (same : first.callData = second.callData) : first = second := by
  rw [callData_eq, callData_eq] at same
  have behind := (List.append_inj same
    ((Abi.length_selector _).trans (Abi.length_selector _).symm)).2
  exact words_injective (Abi.words_inj behind)

namespace WalletCall

/-- A withdrawal in the native currency is the call of that transfer. -/
theorem withdrawEth_eq (recipient : Address) (amount : Uint256) :
    withdrawEth recipient amount = (Transfer.eth recipient amount).callData := by
  rw [Transfer.callData_eq]
  exact Abi.callData_words _ [.ofAddress recipient, amount.toWord]

/-- A withdrawal of tokens is the call of that transfer. -/
theorem withdrawToken_eq (token recipient : Address) (amount : Uint256) :
    withdrawToken token recipient amount = (Transfer.token token recipient amount).callData := by
  rw [Transfer.callData_eq]
  exact Abi.callData_words _ [.ofAddress token, .ofAddress recipient, amount.toWord]

end WalletCall

end AccountRelay
