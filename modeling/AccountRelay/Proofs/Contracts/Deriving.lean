import AccountRelay.Contracts
import AccountRelay.Proofs.Abi
import AccountRelay.Proofs.Dialogue.Histories

/-! # The call that derives a wallet

The address of a wallet is what the factory answers to a call, and the data of that call are what the
wallet is deployed with (`Contracts.ends_counterfactualAddress_iff`). They are the selector of the
method, the owner, the salt and the entry point, so a wallet's owner and salt are known by them
(`Contracts.createAccountCallData_inj`).
-/

namespace AccountRelay

namespace ChainNode

variable {α : Type} {layer : Layer} {context : Context} {read : Json.Value → Option α}
  {query : NodeQuery} {exchanges : List (Exchange ChainNode)}

/-- A lookup succeeds with what is read in the reply to its one question. -/
theorem ends_lookUp_iff {value : α} :
    (lookUp layer context read query).Ends exchanges (.ok value) ↔ ∃ reply, read reply = some value ∧
      exchanges = [⟨.query query, (.ok reply : Except String Json.Value)⟩] := by
  constructor
  · rintro ⟨answer, rest, rfl, ended⟩
    change Except String Json.Value at answer
    cases answer with
    | error text => exact nomatch ended.2
    | ok reply =>
      cases found : read reply with
      | none => simp [Except.map, found, Dialogue.Ends] at ended
      | some own =>
        simp only [Except.map, found, Dialogue.Ends, Except.ok.injEq] at ended
        obtain ⟨rfl, rfl⟩ := ended
        exact ⟨reply, found, rfl⟩
  · rintro ⟨reply, found, rfl⟩
    refine ⟨.ok reply, [], rfl, ?_⟩
    simp [Except.map, found, Dialogue.Ends]

/-- Whatever comes of a lookup, it is one question. -/
theorem requests_of_lookUp {outcome : Except Failure α}
    (ends : (lookUp layer context read query).Ends exchanges outcome) :
    exchanges.map (·.request) = [.query query] := by
  obtain ⟨answer, rest, rfl, ended⟩ := ends
  change Except String Json.Value at answer
  have finished : rest = [] := by
    dsimp only at ended
    split at ended
    · exact ended.1
    · exact ended.1
    · exact ended.1
  rw [finished]
  rfl

/-- To look something up puts that one query to the node. -/
theorem asks_lookUp : (lookUp layer context read query).Asks (· = NodeRequest.query query) := by
  refine ⟨rfl, ?_⟩
  intro (answer : Except String Json.Value)
  dsimp only
  split
  · trivial
  · trivial
  · trivial

end ChainNode

namespace Contracts

variable {contracts other : Contracts} {owner other_owner : Address} {salt other_salt : Salt}

/-- The words with which a wallet is created. -/
def creationWords (contracts : Contracts) (owner : Address) (salt : Salt) : List Word :=
  [.ofAddress owner, salt, .ofAddress contracts.entryPoint]

/-- The call that creates an account has its three words for arguments. -/
theorem createAccountCallData_eq_words (contracts : Contracts) (owner : Address) (salt : Salt) :
    contracts.createAccountCallData owner salt =
      Abi.callData "createAccount(address,bytes32,address)"
        ((contracts.creationWords owner salt).map .word) :=
  rfl

/-- A creation is known by its call data. -/
theorem createAccountCallData_inj :
    contracts.createAccountCallData owner salt =
        other.createAccountCallData other_owner other_salt ↔
      owner = other_owner ∧ salt = other_salt ∧ contracts.entryPoint = other.entryPoint := by
  rw [createAccountCallData_eq_words, createAccountCallData_eq_words, Abi.callData_words_inj]
  simp only [creationWords, List.cons.injEq, Word.ofAddress_inj, and_true]

/-- An address is derived by one call of the factory. -/
theorem asks_counterfactualAddress (contracts : Contracts) (owner : Address) (salt : Salt) :
    (contracts.counterfactualAddress owner salt).Asks (· = NodeRequest.query (.call {
      target := contracts.factory
      data := contracts.createAccountCallData owner salt })) :=
  ChainNode.asks_lookUp.bind fun _ => trivial

/-- The address of a wallet is in the word that its factory answers to the call that creates it. -/
theorem ends_counterfactualAddress_iff {address : Address} {exchanges : List (Exchange ChainNode)} :
    (contracts.counterfactualAddress owner salt).Ends exchanges (.ok address) ↔
      ∃ reply word, Word.ofReply? reply = some word ∧ word.toAddress = address ∧
        exchanges = [⟨.query (.call {
          target := contracts.factory
          data := contracts.createAccountCallData owner salt }),
          (.ok reply : Except String Json.Value)⟩] := by
  constructor
  · intro ends
    obtain ⟨_, _, word, rfl, asked, rfl, same⟩ := ends.bind_ok
    obtain ⟨reply, found, rfl⟩ := ChainNode.ends_lookUp_iff.mp asked
    exact ⟨reply, word, found, (Except.ok.inj same).symm, rfl⟩
  · rintro ⟨reply, word, found, rfl, rfl⟩
    have asked : (ChainNode.lookUp .contract .deriveAddress Word.ofReply?
        (.call (contracts.derivation owner salt))).Ends _ (.ok word) :=
      ChainNode.ends_lookUp_iff.mpr ⟨reply, found, rfl⟩
    exact asked.of_bind ⟨rfl, rfl⟩

end Contracts

end AccountRelay
