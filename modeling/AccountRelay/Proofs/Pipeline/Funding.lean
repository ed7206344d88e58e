import AccountRelay.Proofs.LocalNet.Reference
import AccountRelay.Proofs.Pipeline.Questions

/-! # Funding of wallets

A wallet is funded when an attempt finds that it has no code and gets the call data that deploys it,
and only then. Nothing else is looked at, so a wallet is funded as often as it is found in that state
(`Pipeline.fundings_eq_replicate`): an attempt that fails behind the funding leaves the wallet
without code, and the next one funds it again (`Pipeline.funded_again`).
-/

namespace AccountRelay

/-- Whether a question has nothing to do with bringing a wallet onto the chain. -/
def ServiceRequest.IsAside : ServiceRequest → Prop
  | .codeAt _ | .createAccountCallData _ _ | .fund _ _ => False
  | _ => True

/-- A question for building an operation neither funds a wallet nor looks for its code. -/
theorem ServiceRequest.IsBuilding.isAside {request : ServiceRequest} (building : request.IsBuilding) :
    request.IsAside := by
  cases request with
  | codeAt _ | createAccountCallData _ _ | fund _ _ => exact building.elim
  | _ => trivial

namespace Exchange

/-- Whether a wallet is found to have no code. -/
def findsBare (wallet : Address) : Exchange Services → Bool
  | ⟨.codeAt account, .ok []⟩ => account = wallet
  | _ => false

/-- Whether there is call data that deploys a wallet. -/
def givesCallData : Exchange Services → Bool
  | ⟨.createAccountCallData _ _, .ok _⟩ => true
  | _ => false

/-- The amount with which a wallet is to be funded. -/
def funding? (wallet : Address) : Exchange Services → Option Uint256
  | ⟨.fund account amount, _⟩ => if account = wallet then some amount else none
  | _ => none

end Exchange

open Exchange (findsBare givesCallData funding?)

/-- Whether exchanges find that a wallet has no code but can be deployed. -/
def findDeployable (wallet : Address) (heard : List (Exchange Services)) : Bool :=
  heard.any (findsBare wallet) && heard.any givesCallData

/-- Exchanges that fund exactly the wallets that they find without code and deployable, with one
amount each. -/
def FundsWhatIsFound (amount : Uint256) (heard : List (Exchange Services)) : Prop :=
  ∀ wallet, heard.filterMap (funding? wallet) = if findDeployable wallet heard then [amount] else []

namespace FundsWhatIsFound

variable {amount : Uint256} {aside heard : List (Exchange Services)}

/-- Exchanges aside find no wallet bare, give no call data and fund nothing. -/
theorem of_aside (are_aside : ∀ exchange ∈ aside, exchange.request.IsAside) (wallet : Address) :
    aside.any (findsBare wallet) = false ∧ aside.any givesCallData = false ∧
      aside.filterMap (funding? wallet) = [] := by
  induction aside with
  | nil => exact ⟨rfl, rfl, rfl⟩
  | cons exchange rest ih =>
      obtain ⟨is_aside, rest_aside⟩ := List.forall_mem_cons.mp are_aside
      obtain ⟨not_bare, not_given, not_funded⟩ := ih rest_aside
      obtain ⟨request, reply⟩ := exchange
      cases request with
      | codeAt _ | createAccountCallData _ _ | fund _ _ => exact is_aside.elim
      | _ => exact ⟨not_bare, not_given, not_funded⟩

/-- Exchanges aside may follow what was heard. -/
theorem append_aside (funds : FundsWhatIsFound amount heard)
    (are_aside : ∀ exchange ∈ aside, exchange.request.IsAside) :
    FundsWhatIsFound amount (heard ++ aside) := by
  intro wallet
  obtain ⟨not_bare, not_given, not_funded⟩ := of_aside are_aside wallet
  simp only [findDeployable, List.any_append, List.filterMap_append, not_bare, not_given,
    not_funded, Bool.or_false, List.append_nil]
  exact funds wallet

/-- An exchange aside may come before what was heard. -/
theorem aside_cons {exchange : Exchange Services} (is_aside : exchange.request.IsAside)
    (funds : FundsWhatIsFound amount heard) : FundsWhatIsFound amount (exchange :: heard) := by
  intro wallet
  obtain ⟨not_bare, not_given, not_funded⟩ :=
    of_aside (List.forall_mem_singleton.mpr is_aside) wallet
  change ([exchange] ++ heard).filterMap _ = if findDeployable wallet ([exchange] ++ heard) then _ else _
  simp only [findDeployable, List.any_append, List.filterMap_append, not_bare, not_given,
    not_funded, Bool.false_or, List.nil_append]
  exact funds wallet

/-- Where nothing was heard, nothing was funded. -/
theorem nil : FundsWhatIsFound amount [] :=
  fun _ => rfl

end FundsWhatIsFound

/-! ## What an attempt asks -/

/-- Resolving a wallet funds it when it is found without code, and not otherwise. -/
theorem Resolver.fundsWhatIsFound_of_resolve (resolver : Resolver) (choice : WalletChoice)
    {heard : List (Exchange Services)} {outcome : Except Failure Resolution}
    (ends : (resolver.resolve choice).Ends heard outcome) :
    FundsWhatIsFound resolver.initialFunding heard := by
  intro wallet
  cases choice with
  | derived salt =>
      obtain ⟨derived, _, rfl, ends⟩ := ends
      cases derived with
      | error failure =>
          obtain ⟨rfl, -⟩ := ends
          rfl
      | ok sender =>
          obtain ⟨found, _, rfl, ends⟩ := ends
          rcases found with failure | (_ | ⟨byte, code⟩)
          · obtain ⟨rfl, -⟩ := ends
            rfl
          · obtain ⟨data, _, rfl, ends⟩ := ends
            cases data with
            | error failure =>
                obtain ⟨rfl, -⟩ := ends
                simp [findDeployable, givesCallData, funding?]
            | ok data =>
                obtain ⟨reply, rest, rfl, ends⟩ := ends
                have silent : rest = [] := by
                  cases reply with
                  | error failure => exact ends.1
                  | ok _ => exact ends.1
                subst silent
                by_cases own : sender = wallet
                · subst own
                  simp [findDeployable, findsBare, givesCallData, List.filterMap_cons, funding?]
                · simp [findDeployable, findsBare, givesCallData, funding?, own]
          · obtain ⟨rfl, -⟩ := ends
            rfl
  | existing sender =>
      obtain ⟨found, _, rfl, ends⟩ := ends
      rcases found with failure | (_ | ⟨byte, code⟩)
      · obtain ⟨rfl, -⟩ := ends
        rfl
      · obtain ⟨rfl, -⟩ := ends
        simp [findDeployable, givesCallData, funding?]
      · obtain ⟨rfl, -⟩ := ends
        rfl

namespace Pipeline

variable (pipeline : Pipeline) {heard : List (Exchange Services)}

/-- A send that holds the sender's lock funds what it finds without code. -/
theorem fundsWhatIsFound_of_sendLocked (request : Request) {outcome : Except Failure Hash}
    (ends : (pipeline.sendLocked request).Ends heard outcome) :
    FundsWhatIsFound pipeline.deployment.initialFunding heard := by
  rw [sendLocked_eq] at ends
  rcases ends.bind with ⟨_, -, failed⟩ | ⟨resolving, sending, wallet, rfl, resolved, sent⟩
  · exact pipeline.resolver.fundsWhatIsFound_of_resolve request.wallet failed
  · have resolving_funds : FundsWhatIsFound pipeline.deployment.initialFunding resolving :=
      pipeline.resolver.fundsWhatIsFound_of_resolve request.wallet resolved
    have asks : (pipeline.sendResolved request wallet).Asks ServiceRequest.IsAside :=
      pipeline.asks_sendResolved request trivial (fun _ => (·.isAside)) fun _ _ => trivial
    exact resolving_funds.append_aside (asks.of_ends sent)

/-- Waiting for the lock and leaving it funds nothing. -/
theorem fundsWhatIsFound_of_holding {α : Type} {sender : Address} {action : Consultation α}
    {amount : Uint256} {outcome : Except Failure α}
    (funds : ∀ {heard outcome}, action.Ends heard outcome → FundsWhatIsFound amount heard)
    (ends : (Services.holding sender action).Ends heard outcome) : FundsWhatIsFound amount heard := by
  obtain ⟨_, own, given, rfl, acted⟩ := Services.ends_holding ends
  have releasing : ∀ exchange ∈ [(⟨.release sender, given⟩ : Exchange Services)],
      exchange.request.IsAside := List.forall_mem_singleton.mpr trivial
  exact ((funds acted).append_aside releasing).aside_cons trivial

/-- A send funds what it finds without code. -/
theorem fundsWhatIsFound_of_send (request : Request) {outcome : Except Failure Hash}
    (ends : (pipeline.send request).Ends heard outcome) :
    FundsWhatIsFound pipeline.deployment.initialFunding heard := by
  have holding {sender heard outcome}
      (ends : (Services.holding sender (pipeline.sendLocked request)).Ends heard outcome) :
      FundsWhatIsFound pipeline.deployment.initialFunding heard :=
    fundsWhatIsFound_of_holding (pipeline.fundsWhatIsFound_of_sendLocked request) ends
  unfold send at ends
  cases chosen : request.wallet with
  | derived salt =>
      rw [chosen] at ends
      obtain ⟨derived, rest, rfl, ends⟩ := ends
      cases derived with
      | error failure =>
          obtain ⟨rfl, -⟩ := ends
          exact FundsWhatIsFound.nil.aside_cons trivial
      | ok sender => exact (holding ends).aside_cons trivial
  | existing wallet =>
      rw [chosen] at ends
      exact holding ends

/-- Deploying a wallet funds what it finds without code. -/
theorem fundsWhatIsFound_of_deployWallet (counter : UInt64) (paymaster : Option Address)
    {outcome : Except Failure WalletRecord}
    (ends : (pipeline.deployWallet counter paymaster).Ends heard outcome) :
    FundsWhatIsFound pipeline.deployment.initialFunding heard := by
  obtain ⟨derived, rest, rfl, ends⟩ := ends
  cases derived with
  | error failure =>
      obtain ⟨rfl, -⟩ := ends
      exact FundsWhatIsFound.nil.aside_cons trivial
  | ok address =>
      refine FundsWhatIsFound.aside_cons ?_ ?_
      · trivial
      change (pipeline.send _ >>= fun hash => _).Ends _ _ at ends
      rcases ends.bind with ⟨_, -, failed⟩ | ⟨sending, rest, hash, rfl, sent, ends⟩
      · exact pipeline.fundsWhatIsFound_of_send _ failed
      · have asks : (Services.now >>= fun createdAt => (pure ⟨address, counter, createdAt, some hash⟩ :
            Consultation WalletRecord)).Asks ServiceRequest.IsAside :=
          (Services.asks_now trivial).bind fun _ => trivial
        exact (pipeline.fundsWhatIsFound_of_send _ sent).append_aside (asks.of_ends ends)

/-- Creating a wallet funds what it finds without code, whatever the files do. -/
theorem fundsWhatIsFound_of_createWallet (registry : Registry) (paymaster : Option Address)
    {exchanges : List (Exchange (Services.sum Files))} {outcome : Except Failure Creation}
    (ends : (pipeline.createWallet registry paymaster).Ends exchanges outcome) :
    FundsWhatIsFound pipeline.deployment.initialFunding (exchanges.filterMap Exchange.left?) := by
  obtain ⟨asked, filing, attempted, rfl, deploys, -⟩ := ends_createWallet ends
  rw [List.filterMap_append, Exchange.filterMap_left?_inl, Exchange.filterMap_left?_inr,
    List.append_nil]
  exact pipeline.fundsWhatIsFound_of_deployWallet _ paymaster deploys

/-! ## Sequences of attempts -/

/-- An attempt that can be made on a pipeline. -/
inductive Attempt
  | send (request : Request)
  | create (registry : Registry) (paymaster : Option Address)

/-- What is done in an attempt, whatever comes of it. -/
def Attempt.work (pipeline : Pipeline) : Attempt → RecordedWork Unit
  | .send request => (pipeline.send request).inl >>= fun _ => .done ()
  | .create registry paymaster => pipeline.createWallet registry paymaster >>= fun _ => .done ()

/-- An attempt that has ended, with all that was asked and answered. -/
structure Turn (pipeline : Pipeline) where
  attempt : Attempt
  exchanges : List (Exchange (Services.sum Files))
  outcome : Except Failure Unit
  ended : (attempt.work pipeline).Ends exchanges outcome

namespace Turn

variable {pipeline : Pipeline}

/-- The exchanges with the services. -/
def consultation (turn : Turn pipeline) : List (Exchange Services) :=
  turn.exchanges.filterMap Exchange.left?

/-- The amounts with which a wallet is to be funded. -/
def fundings (wallet : Address) (turn : Turn pipeline) : List Uint256 :=
  turn.consultation.filterMap (funding? wallet)

/-- Whether it turns out that a wallet has no code but can be deployed. -/
def finds (wallet : Address) (turn : Turn pipeline) : Bool :=
  findDeployable wallet turn.consultation

/-- Each turn of a run funds what it finds without code. -/
theorem fundsWhatIsFound (turn : Turn pipeline) :
    FundsWhatIsFound pipeline.deployment.initialFunding turn.consultation := by
  obtain ⟨attempt, exchanges, outcome, ended⟩ := turn
  cases attempt with
  | send request =>
      obtain ⟨_, sent⟩ := Dialogue.Ends.of_bind_done ended
      obtain ⟨asked, rfl, sends⟩ := sent.inl
      unfold consultation
      rw [Exchange.filterMap_left?_inl]
      exact pipeline.fundsWhatIsFound_of_send request sends
  | create registry paymaster =>
      obtain ⟨_, created⟩ := Dialogue.Ends.of_bind_done ended
      exact pipeline.fundsWhatIsFound_of_createWallet registry paymaster created

end Turn

/-- **A wallet is funded as often as it is found without code.** Whatever the attempts on a pipeline
are and whatever their questions are answered, the fundings of a wallet are one of the initial amount
for each attempt that finds it without code and gets the call data that deploys it. -/
theorem fundings_eq_replicate (pipeline : Pipeline) (turns : List (Turn pipeline))
    (wallet : Address) :
    turns.flatMap (·.fundings wallet) =
      List.replicate (turns.countP (·.finds wallet)) pipeline.deployment.initialFunding := by
  induction turns with
  | nil => rfl
  | cons turn rest ih =>
      have funds : turn.fundings wallet =
          if turn.finds wallet then [pipeline.deployment.initialFunding] else [] :=
        turn.fundsWhatIsFound wallet
      rw [List.flatMap_cons, ih, funds, List.countP_cons]
      cases turn.finds wallet with
      | true => simp [List.replicate_succ]
      | false => simp

/-- The first operation of a wallet cannot be estimated, and the second attempt funds it again. -/
theorem funded_again :
    let pipeline : Pipeline := { deployment := .onLocalNet, owner := .filled 20 0x22 }
    let request : Request := { wallet := .derived (Salt.ofCounter 1) }
    let net : LocalNet := { LocalNet.obliging with failEstimate := true }
    let wallet := LocalNet.walletAddress pipeline.owner (Salt.ofCounter 1)
    let second := (net.consult (pipeline.send request)).2.consult (pipeline.send request)
    second.2.funded =
      [(wallet, pipeline.deployment.initialFunding), (wallet, pipeline.deployment.initialFunding)] :=
  rfl

end Pipeline

end AccountRelay
