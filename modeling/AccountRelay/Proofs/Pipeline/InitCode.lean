import AccountRelay.Proofs.Contracts.Deriving
import AccountRelay.Proofs.Program.Transferring
import AccountRelay.Proofs.Resolution

/-! # What a new wallet is deployed with

Through a relay the wallet of a salt is found by the call that creates it, to which the factory
answers with the wallet's address, and by the code at that address (`Relay.ends_inspect_derived`).
What is handed to the bundler afterwards acts for that address, and carries the factory and the very
call when there was no code (`Relay.handsAsFound_send`, `Relay.handsAsFound_createWallet`). So an
operation deploys the wallet that was derived (`Relay.deploys_what_is_derived`).
-/

namespace AccountRelay

variable {α : Type}

/-- An exchange with the node as one with the machine. -/
def Exchange.atNode (endpoint : NodeEndpoint) (exchange : Exchange ChainNode) : Exchange Machine :=
  ⟨.node endpoint exchange.request, exchange.reply⟩

/-- Work done on one node asks the machine for nothing but that node. -/
theorem Machine.ends_ofNode {ε : Type} {endpoint : NodeEndpoint} {work : Dialogue ChainNode ε α}
    {exchanges : List (Exchange Machine)} {outcome : Except ε α}
    (ends : (ofNode endpoint work).Ends exchanges outcome) :
    ∃ own, work.Ends own outcome ∧ exchanges = own.map (.atNode endpoint) := by
  induction work generalizing exchanges with
  | done value => exact ⟨[], ⟨rfl, ends.2⟩, ends.1⟩
  | fail error => exact ⟨[], ⟨rfl, ends.2⟩, ends.1⟩
  | ask request follow ih =>
      obtain ⟨reply, rest, rfl, follows⟩ := ends
      obtain ⟨own, ended, rfl⟩ := ih reply follows
      exact ⟨⟨request, reply⟩ :: own, ⟨reply, own, rfl, ended⟩, rfl⟩

/-- Sending under the lock looks the wallet up, prepares it and sends from what was found. -/
theorem Pipeline.sendLocked_eq_inspect (pipeline : Pipeline) (request : Request) :
    pipeline.sendLocked request = pipeline.resolver.inspect request.wallet >>= fun wallet =>
      pipeline.resolver.prepare wallet >>= fun _ => pipeline.sendResolved request wallet := by
  rw [sendLocked_eq, Resolver.resolve, Dialogue.bind_assoc]
  refine congrArg (Dialogue.andThen _) (funext fun wallet => ?_)
  rw [Dialogue.bind_assoc]
  rfl

namespace Relay

variable {relay : Relay} {owner sender : Address} {salt : Salt} {code : Bytes}
  {exchanges : List (Exchange Machine)}

/-- A question for the relay's node that is answered is work on that node, with that answer. -/
theorem ends_fromNode {work : NodeWork α} {found : Except Failure α}
    (ends : (relay.fromNode work).Ends exchanges (.ok found)) :
    ∃ own, work.Ends own found ∧ exchanges = own.map (.atNode relay.node) := by
  obtain ⟨_, ⟨⟩, ends⟩ := ends.attempt
  exact Machine.ends_ofNode ends

/-! ## Finding a wallet -/

/-- The wallet of an owner and a salt is found through the node: the factory answers to the call that
creates it with its address, and then its code is read. -/
def Finds (relay : Relay) (owner : Address) (salt : Salt) (sender : Address) (code : Bytes)
    (exchanges : List (Exchange Machine)) : Prop :=
  ∃ derived word read, Word.ofReply? derived = some word ∧ word.toAddress = sender ∧
    Bytes.ofReply? read = some code ∧
    exchanges =
      [⟨.node relay.node (.query (.call {
          target := relay.contracts.factory
          data := relay.contracts.createAccountCallData owner salt })),
        (.ok derived : Except String Json.Value)⟩,
      ⟨.node relay.node (.query (.codeAt sender)), (.ok read : Except String Json.Value)⟩]

/-- Code found at an address was read from the node's reply, in one exchange. -/
theorem exists_reply_of_codeAt
    (looks : (relay.answer (.codeAt sender)).Ends exchanges (.ok (.ok code : Except Failure Bytes))) :
    ∃ read, Bytes.ofReply? read = some code ∧ exchanges =
      [⟨.node relay.node (.query (.codeAt sender)), (.ok read : Except String Json.Value)⟩] := by
  obtain ⟨_, looked, rfl⟩ := ends_fromNode looks
  obtain ⟨read, found, rfl⟩ := ChainNode.ends_lookUp_iff.mp looked
  exact ⟨read, found, rfl⟩

/-- An address derived by the relay was read from the factory's answer to one call. -/
theorem exists_reply_of_derivation
    (asks : (relay.answer (.counterfactualAddress owner salt)).Ends exchanges
      (.ok (.ok sender : Except Failure Address))) :
    ∃ derived word, Word.ofReply? derived = some word ∧ word.toAddress = sender ∧ exchanges =
      [⟨.node relay.node (.query (.call {
          target := relay.contracts.factory
          data := relay.contracts.createAccountCallData owner salt })),
        (.ok derived : Except String Json.Value)⟩] := by
  obtain ⟨_, asked, rfl⟩ := ends_fromNode asks
  obtain ⟨derived, word, found, same, rfl⟩ := Contracts.ends_counterfactualAddress_iff.mp asked
  exact ⟨derived, word, found, same, rfl⟩

/-- An inspection through a relay finds the wallet, and what creates it if it has no code. -/
theorem ends_inspect_derived {resolver : Resolver} {resolution : Resolution}
    (ends : (relay.consult (resolver.inspect (.derived salt))).Ends exchanges (.ok resolution)) :
    ∃ code, relay.Finds resolver.owner salt resolution.sender code exchanges ∧
      resolution.init =
        if code = [] then
          some (resolver.factory, relay.contracts.createAccountCallData resolver.owner salt)
        else none := by
  obtain ⟨answered, inspects, serves⟩ := relay.serves_of_consult ends
  cases Resolver.ends_inspect_derived_iff.mp inspects with
  | deployed sender code some_code =>
      obtain ⟨_, _, rfl, asks, _, _, rfl, looks, rfl⟩ := serves
      obtain ⟨derived, word, found, same, rfl⟩ := exists_reply_of_derivation asks
      obtain ⟨read, code_read, rfl⟩ := exists_reply_of_codeAt looks
      exact ⟨code, ⟨derived, word, read, found, same, code_read, rfl⟩, (if_neg some_code).symm⟩
  | undeployed sender data =>
      obtain ⟨_, _, rfl, asks, _, _, rfl, looks, _, _, rfl, writes, rfl⟩ := serves
      obtain ⟨derived, word, found, same, rfl⟩ := exists_reply_of_derivation asks
      obtain ⟨read, code_read, rfl⟩ := exists_reply_of_codeAt looks
      obtain ⟨rfl, told⟩ := writes
      cases told
      exact ⟨[], ⟨derived, word, read, found, same, code_read, rfl⟩, rfl⟩

/-! ## Handing over what was found -/

/-- An exchange in which nothing is handed to the bundler. -/
def HandsNothing (exchange : Exchange Machine) : Prop :=
  exchange.request.Hands fun _ => False

/-- Whether an operation acts for a wallet that was found with some code, and creates it exactly if that
is none. -/
def ActsAsFound (contracts : Contracts) (owner : Address) (salt : Salt) (sender : Address)
    (code : Bytes) (operation : Operation) : Prop :=
  operation.sender = sender ∧ operation.initCode =
    if code = [] then contracts.factory.toList ++ contracts.createAccountCallData owner salt else []

/-- Exchanges in which nothing is handed to the bundler, or else the wallet of an owner and a salt is
found first and everything handed over acts for it. -/
inductive HandsAsFound (relay : Relay) (owner : Address) (salt : Salt) :
    List (Exchange Machine) → Prop
  | nothing {exchanges : List (Exchange Machine)}
    (quiet : ∀ exchange ∈ exchanges, HandsNothing exchange) :
    HandsAsFound relay owner salt exchanges
  | found {before found after : List (Exchange Machine)} {sender : Address} {code : Bytes}
    (quiet : ∀ exchange ∈ before ++ found, HandsNothing exchange)
    (finds : relay.Finds owner salt sender code found)
    (hands : ∀ exchange ∈ after,
      exchange.request.Hands (ActsAsFound relay.contracts owner salt sender code)) :
    HandsAsFound relay owner salt (before ++ found ++ after)

/-- Exchanges that hand nothing over may stand before and after a handing that follows what was found.
-/
theorem HandsAsFound.between {first last : List (Exchange Machine)}
    (hands : relay.HandsAsFound owner salt exchanges)
    (first_quiet : ∀ exchange ∈ first, HandsNothing exchange)
    (last_quiet : ∀ exchange ∈ last, HandsNothing exchange) :
    relay.HandsAsFound owner salt (first ++ exchanges ++ last) := by
  cases hands with
  | nothing quiet =>
      exact .nothing (List.forall_mem_append.mpr
        ⟨List.forall_mem_append.mpr ⟨first_quiet, quiet⟩, last_quiet⟩)
  | @found before found after sender code quiet finds hands =>
      have grouped : first ++ (before ++ found ++ after) ++ last =
          (first ++ before) ++ found ++ (after ++ last) := by
        simp only [List.append_assoc]
      rw [grouped]
      refine .found ?_ finds (List.forall_mem_append.mpr ⟨hands, fun exchange member => ?_⟩)
      · rw [List.append_assoc]
        exact List.forall_mem_append.mpr ⟨first_quiet, quiet⟩
      · exact MachineRequest.Hands.mono (last_quiet exchange member) fun _ => False.elim

/-- A consultation that hands nothing over posts nothing under the method for that. -/
theorem handsNothing_of_quiet {consultation : Consultation α} {outcome : Except Failure α}
    (quiet : consultation.Asks ServiceRequest.IsQuiet)
    (ends : (relay.consult consultation).Ends exchanges outcome) :
    ∀ exchange ∈ exchanges, HandsNothing exchange :=
  (relay.asks_consult_hands quiet).of_ends ends

variable {pipeline : Pipeline} {request : Request} {outcome : Except Failure Hash}

/-- The completed draft of a wallet that was found acts for it as it was found. -/
theorem actsAsFound_of_completes {contracts : Contracts} {operation : Operation}
    {wallet : Resolution}
    (completes : pipeline.Completes request wallet operation)
    (found : wallet.init = if code = [] then
      some (contracts.factory, contracts.createAccountCallData owner salt) else none) :
    ActsAsFound contracts owner salt wallet.sender code operation := by
  obtain ⟨nonce, gas, fees, data, signature, rfl⟩ := completes
  obtain ⟨sender, factory, factoryData, -⟩ := pipeline.draft_operation request wallet nonce
  refine ⟨sender, ?_⟩
  simp only [Operation.initCode, factory, factoryData, found]
  by_cases bare : code = []
  · simp only [bare, if_true, Option.map_some, Option.getD_some]
  · simp only [bare, if_false, Option.map_none]

/-- What is handed over for the wallet of a salt is for the wallet that was found. -/
theorem handsAsFound_send (agrees : relay.contracts = pipeline.deployment.contracts)
    (derived : request.wallet = .derived salt)
    (ends : (relay.consult (pipeline.send request)).Ends exchanges outcome) :
    relay.HandsAsFound pipeline.owner salt exchanges := by
  have derives : (pipeline.resolver.counterfactualAddress salt).Asks ServiceRequest.IsQuiet :=
    ⟨not_false, .ofExcept⟩
  have inspects : (pipeline.resolver.inspect (.derived salt)).Asks ServiceRequest.IsQuiet :=
    pipeline.resolver.asks_inspect _ (fun _ => not_false) fun _ _ => ⟨not_false, not_false⟩
  have prepares (wallet : Resolution) : (pipeline.resolver.prepare wallet).Asks
      ServiceRequest.IsQuiet :=
    pipeline.resolver.asks_prepare (fun _ _ => not_false) wallet
  rw [Pipeline.send, derived, consult_bind] at ends
  rcases ends.bind with ⟨failure, -, failed⟩ | ⟨lead, _, sender, rfl, led, held⟩
  · exact .nothing (handsNothing_of_quiet derives failed)
  have lead_quiet := handsNothing_of_quiet derives led
  have locked := ends_holding_iff.mp held
  rw [Pipeline.sendLocked_eq_inspect, derived, consult_bind] at locked
  rcases locked.bind with ⟨failure, -, failed⟩ | ⟨found, _, wallet, rfl, looked, prepared⟩
  · have found_quiet := handsNothing_of_quiet inspects failed
    exact .nothing (List.forall_mem_append.mpr ⟨lead_quiet, found_quiet⟩)
  have found_quiet := handsNothing_of_quiet inspects looked
  -- The look at the wallet's code comes before anything is handed over.
  obtain ⟨code, finds, creates⟩ := ends_inspect_derived looked
  have acts (own : List (Exchange Machine)) (sent : ∀ exchange ∈ own,
      exchange.request.Hands (pipeline.Completes request wallet)) : ∀ exchange ∈ own,
        exchange.request.Hands (ActsAsFound relay.contracts pipeline.owner salt wallet.sender code) :=
    fun exchange member => (sent exchange member).mono fun operation completes =>
      actsAsFound_of_completes completes (by rw [creates, agrees]; rfl)
  rw [← List.append_assoc]
  refine .found (List.forall_mem_append.mpr ⟨lead_quiet, found_quiet⟩) finds (acts _ ?_)
  have prepares_and_sends : (relay.consult (pipeline.resolver.prepare wallet >>= fun _ =>
      pipeline.sendResolved request wallet)).Ends _ _ := prepared
  refine relay.hands_of_consult prepares_and_sends fun exchanges ends => ?_
  exact hands_of_quiet_bind (prepares wallet) ends fun _ _ _ _ sent =>
    Pipeline.hands_sendResolved sent

/-- Deploying a wallet hands over the init code of the derivation it was found by. -/
theorem handsAsFound_deployWallet {counter : UInt64} {paymaster : Option Address}
    {outcome : Except Failure WalletRecord}
    (agrees : relay.contracts = pipeline.deployment.contracts)
    (ends : (relay.consult (pipeline.deployWallet counter paymaster)).Ends exchanges outcome) :
    relay.HandsAsFound pipeline.owner (Salt.ofCounter counter) exchanges := by
  have derives : (pipeline.resolver.counterfactualAddress (Salt.ofCounter counter)).Asks
      ServiceRequest.IsQuiet := ⟨not_false, .ofExcept⟩
  have clock : Services.now.Asks ServiceRequest.IsQuiet := Services.asks_now not_false
  rw [Pipeline.deployWallet, consult_bind] at ends
  rcases ends.bind with ⟨failure, -, failed⟩ | ⟨lead, _, address, rfl, led, ends⟩
  · exact .nothing (handsNothing_of_quiet derives failed)
  have lead_quiet := handsNothing_of_quiet derives led
  rw [consult_bind] at ends
  rcases ends.bind with ⟨failure, -, failed⟩ | ⟨sending, last, hash, rfl, sent, ends⟩
  · have sends := handsAsFound_send agrees rfl failed
    simpa using sends.between lead_quiet (List.forall_mem_nil _)
  have sends := handsAsFound_send agrees rfl sent
  rw [← List.append_assoc]
  refine sends.between lead_quiet (handsNothing_of_quiet ?_ ends)
  exact clock.bind fun _ => trivial

/-- What a creation hands over is for the wallet of the next salt as it was found. -/
theorem handsAsFound_createWallet {registry : Registry} {paymaster : Option Address}
    {outcome : Except Failure Creation}
    (agrees : relay.contracts = pipeline.deployment.contracts)
    (ends : (relay.record (pipeline.createWallet registry paymaster)).Ends exchanges outcome) :
    relay.HandsAsFound pipeline.owner (Salt.ofCounter registry.nextSalt) exchanges := by
  have deploys {own : List (Exchange Machine)} {attempted : Except Failure (Except Failure WalletRecord)}
      (ended : (relay.consult (pipeline.deployWallet registry.nextSalt paymaster).attempt).Ends own
        attempted) : relay.HandsAsFound pipeline.owner (Salt.ofCounter registry.nextSalt) own := by
    obtain ⟨answered, attempts, -⟩ := relay.serves_of_consult ended
    obtain ⟨outcome, rfl, -⟩ := attempts.attempt
    exact handsAsFound_deployWallet agrees ended.of_interpret_attempt
  rw [Program.record_createWallet] at ends
  rcases ends.bind with ⟨failure, -, failed⟩ | ⟨own, last, attempted, rfl, deployed, recorded⟩
  · exact deploys failed
  have last_quiet : ∀ exchange ∈ last, HandsNothing exchange := by
    cases attempted with
    | error failure =>
        obtain ⟨rfl, -⟩ := recorded
        exact nofun
    | ok record =>
        have files : (Machine.ofFiles (registry.create record)).Asks
            (MachineRequest.Hands fun _ => False) :=
          Machine.asks_ofFiles ((registry.create record).asks_any.mono fun _ _ => trivial)
        refine Dialogue.Asks.of_ends ?_ recorded
        exact files.bind fun _ => trivial
  exact (deploys deployed).between (List.forall_mem_nil _) last_quiet

/-- An operation that is posted acts for the wallet that was found before, as it was found. -/
theorem HandsAsFound.exists_of_post (hands : relay.HandsAsFound owner salt exchanges)
    {exchange : Exchange Machine} (member : exchange ∈ exchanges) {post : HttpRequest}
    (posted : exchange.request = .http post)
    (handing : post.body.get? "method" = some (.string Bundler.sendMethod)) :
    ∃ (operation : Operation) (entryPoint : Address) (before found after : List (Exchange Machine))
      (code : Bytes),
      post.body = Bundler.callBody Bundler.sendMethod
        [operation.toSendBody, .string entryPoint.toText] ∧
      exchanges = before ++ found ++ after ∧ exchange ∈ after ∧
      relay.Finds owner salt operation.sender code found ∧
      operation.initCode = if code = [] then
        relay.contracts.factory.toList ++ relay.contracts.createAccountCallData owner salt else [] := by
  have not_quiet (quiet : HandsNothing exchange) : False := by
    rw [HandsNothing, posted] at quiet
    obtain ⟨_, _, -, impossible⟩ := quiet handing
    exact impossible
  cases hands with
  | nothing quiet => exact (not_quiet (quiet exchange member)).elim
  | @found before found after sender code quiet finds hands =>
      rcases List.mem_append.mp member with early | late
      · exact (not_quiet (quiet exchange early)).elim
      · have acts := hands exchange late
        rw [posted] at acts
        obtain ⟨operation, entryPoint, same, rfl, creates⟩ := acts handing
        exact ⟨operation, entryPoint, before, found, after, code, same, rfl, late, finds, creates⟩

end Relay

/-- A session relays to the contracts that its wallets are derived with. -/
theorem Program.contracts_of_openSession {settings : Settings}
    {options : CommandLine.OperationOptions} {session : Session} {exchanges : List (Exchange Machine)}
    (opens : (openSession settings options).Ends exchanges (.ok session)) :
    session.relay.contracts = session.pipeline.deployment.contracts := by
  obtain ⟨_, _, deployment, rfl, -, opens⟩ := opens.bind_ok
  obtain ⟨_, _, owner, rfl, -, opens⟩ := opens.bind_ok
  obtain ⟨_, _, paymaster, rfl, -, -, same⟩ := opens.bind_ok
  cases same
  rfl

/-- The init code of a wallet tells what it is created with. -/
theorem Contracts.initCode_inj {contracts other : Contracts} {owner other_owner : Address}
    {salt other_salt : Salt} :
    contracts.factory.toList ++ contracts.createAccountCallData owner salt =
        other.factory.toList ++ other.createAccountCallData other_owner other_salt ↔
      contracts.factory = other.factory ∧ owner = other_owner ∧ salt = other_salt ∧
        contracts.entryPoint = other.entryPoint := by
  rw [← createAccountCallData_inj]
  constructor
  · intro same
    obtain ⟨factories, calls⟩ := List.append_inj same
      (contracts.factory.length_eq.trans other.factory.length_eq.symm)
    exact ⟨Octets.toList_injective factories, calls⟩
  · rintro ⟨factories, calls⟩
    rw [factories, calls]

/-- An inspection through a relay asks the node, and nothing but lookups. -/
theorem Relay.asks_inspect (relay : Relay) (resolver : Resolver) (wallet : WalletChoice) :
    (relay.consult (resolver.inspect wallet)).Asks
      fun request => ∃ query, request = MachineRequest.node relay.node (.query query) := by
  have looks {β : Type} {work : NodeWork β} {query : NodeQuery}
      (asks : work.Asks (· = NodeRequest.query query)) : (relay.fromNode work).Asks
        fun request => ∃ query, request = MachineRequest.node relay.node (.query query) :=
    (asks.interpret fun _ same => Machine.asks_request ⟨query, congrArg _ same⟩).attempt
  have inspects : (resolver.inspect wallet).Asks fun question => (relay.answer question).Asks
      fun request => ∃ query, request = MachineRequest.node relay.node (.query query) :=
    resolver.asks_inspect wallet (fun account => looks ChainNode.asks_lookUp)
      fun salt _ => ⟨looks (relay.contracts.asks_counterfactualAddress _ _), trivial⟩
  exact inspects.interpret fun _ permitted => permitted

/-- **The init code deploys the wallet that was derived.** The address of a wallet is what the factory
answers to the call that creates it. Whatever a machine answers, an operation that is posted for the
wallet of a salt acts for the address in such an answer, and its init code is the factory and the data
of that very call if the code at the address, which is read next, is none. No other wallet has the same
init code. What a wallet resolves to is what an inspection finds, which funds nothing. -/
theorem Relay.deploys_what_is_derived :
    (∀ (contracts : Contracts) (owner : Address) (salt : Salt),
      let call : NodeRequest := .query (.call {
        target := contracts.factory
        data := contracts.createAccountCallData owner salt })
      (contracts.counterfactualAddress owner salt).Asks (· = call) ∧
        ∀ exchanges address,
          (contracts.counterfactualAddress owner salt).Ends exchanges (.ok address) ↔
            ∃ reply word, Word.ofReply? reply = some word ∧ word.toAddress = address ∧
              exchanges = [⟨.query (.call {
                target := contracts.factory
                data := contracts.createAccountCallData owner salt }),
                (.ok reply : Except String Json.Value)⟩]) ∧
    (∀ settings options exchanges (session : Program.Session),
      (Program.openSession settings options).Ends exchanges (.ok session) →
        session.relay.contracts = session.pipeline.deployment.contracts) ∧
    (∀ (relay : Relay) (pipeline : Pipeline) (salt : Salt) (exchanges : List (Exchange Machine)),
      relay.contracts = pipeline.deployment.contracts →
      (∃ request outcome, request.wallet = .derived salt ∧
        (relay.consult (pipeline.send request)).Ends exchanges outcome) ∨
      (∃ registry paymaster outcome, salt = Salt.ofCounter registry.nextSalt ∧
        (relay.record (pipeline.createWallet registry paymaster)).Ends exchanges outcome) →
      ∀ exchange ∈ exchanges, ∀ post, exchange.request = .http post →
        post.body.get? "method" = some (.string "eth_sendUserOperation") →
        ∃ (operation : Operation) (entryPoint : Address)
          (before found after : List (Exchange Machine)) (code : Bytes),
          post.body = Bundler.callBody "eth_sendUserOperation"
            [operation.toSendBody, .string entryPoint.toText] ∧
          exchanges = before ++ found ++ after ∧ exchange ∈ after ∧
          relay.Finds pipeline.owner salt operation.sender code found ∧
          operation.initCode = if code = [] then
            relay.contracts.factory.toList ++
              relay.contracts.createAccountCallData pipeline.owner salt
            else []) ∧
    (∀ (contracts other : Contracts) owner other_owner salt other_salt,
      contracts.factory.toList ++ contracts.createAccountCallData owner salt =
          other.factory.toList ++ other.createAccountCallData other_owner other_salt ↔
        contracts.factory = other.factory ∧ owner = other_owner ∧ salt = other_salt ∧
          contracts.entryPoint = other.entryPoint) ∧
    ∀ (resolver : Resolver) (wallet : WalletChoice),
      (∀ exchanges resolution, (resolver.resolve wallet).Ends exchanges (.ok resolution) →
        ∃ looking funding, exchanges = looking ++ funding ∧
          (resolver.inspect wallet).Ends looking (.ok resolution)) ∧
      (∀ {σ : Type} (answer : (request : ServiceRequest) → σ → request.Answer × σ) state resolution,
        ((resolver.resolve wallet).run (I := Services) answer state).1 = .ok resolution →
          ((resolver.inspect wallet).run (I := Services) answer state).1 = .ok resolution) ∧
      ((resolver.inspect wallet).Asks fun request => ∀ account amount,
        request ≠ ServiceRequest.fund account amount) ∧
      ∀ relay : Relay, (relay.consult (resolver.inspect wallet)).Asks
        fun request => ∃ query, request = MachineRequest.node relay.node (.query query) := by
  refine ⟨fun contracts owner salt => ⟨contracts.asks_counterfactualAddress owner salt,
      fun _ _ => Contracts.ends_counterfactualAddress_iff⟩,
    fun _ _ _ _ => Program.contracts_of_openSession, ?posts,
    fun _ _ _ _ _ _ => Contracts.initCode_inj, fun resolver wallet => ⟨?_, ?_, ?_, ?_⟩⟩
  case posts =>
    intro relay pipeline salt exchanges agrees sends exchange member post posted handing
    have hands : relay.HandsAsFound pipeline.owner salt exchanges := by
      rcases sends with ⟨request, outcome, derived, ends⟩ | ⟨registry, paymaster, outcome, rfl, ends⟩
      · exact handsAsFound_send agrees derived ends
      · exact handsAsFound_createWallet agrees ends
    exact hands.exists_of_post member posted handing
  · intro exchanges resolution ends
    obtain ⟨looking, funding, same, inspects, -⟩ := Resolver.ends_inspect_of_resolve ends
    exact ⟨looking, funding, same, inspects⟩
  · exact fun _ _ _ => Resolver.run_inspect_of_resolve
  · exact resolver.asks_inspect wallet (fun _ => nofun) fun _ _ => ⟨nofun, nofun⟩
  · exact fun relay => relay.asks_inspect resolver wallet

/-! The first operation of a wallet, which has no code yet. -/

/-- Once an operation is signed, the node is asked no more. -/
theorem Relay.asks_finish (relay : Relay) (pipeline : Pipeline) (signed : SignedOperation) :
    (relay.consult (pipeline.finish signed)).Asks fun request =>
      ∀ endpoint question, request ≠ MachineRequest.node endpoint question := by
  have warns (warning : Warning) : (relay.answer (.warn warning)).Asks fun request =>
      ∀ endpoint question, request ≠ MachineRequest.node endpoint question :=
    Machine.asks_request nofun
  have sends (operation : Operation) (entryPoint : Address) :
      (relay.answer (.send operation entryPoint)).Asks fun request =>
        ∀ endpoint question, request ≠ MachineRequest.node endpoint question :=
    asks_fromBundler (Bundler.asks_asked _ _ _ _ nofun)
  have finishes : (pipeline.finish signed).Asks fun question => (relay.answer question).Asks
      fun request => ∀ endpoint question, request ≠ MachineRequest.node endpoint question := by
    unfold Pipeline.finish Pipeline.crossCheck Submission.submit
    refine Dialogue.Asks.bind ((Dialogue.Asks.ofExcept _).bind fun packed => ?_) fun _ =>
      Dialogue.Asks.bind ⟨sends _ _, .ofExcept⟩ fun hash => ?_
    · split
      · exact ⟨warns _, fun _ => trivial⟩
      · trivial
    · split
      · exact ⟨warns _, fun _ => trivial⟩
      · trivial
  exact finishes.interpret fun _ permitted => permitted

namespace LocalMachine

/-- A machine whose node has one reply to each method, which it gives again and again. -/
def Repeats (replies : List (String × List (Except String Json.Value))) (machine : LocalMachine) :
    Prop :=
  machine.replies = replies ∧ ∀ entry ∈ replies, entry.2.length ≤ 1

variable {replies : List (String × List (Except String Json.Value))} {machine : LocalMachine}

/-- A node that repeats its replies still does so after it gave one. -/
theorem Repeats.nextReply (repeats : machine.Repeats replies) (method : String) :
    (machine.nextReply method).2.Repeats replies := by
  obtain ⟨rfl, single⟩ := repeats
  unfold LocalMachine.nextReply
  split
  · exact ⟨rfl, single⟩
  · exact ⟨rfl, single⟩
  · exact ⟨rfl, single⟩
  · rename_i reply rest plural known
    cases rest with
    | nil => exact (plural rfl).elim
    | cons =>
        obtain ⟨_, _, listed, -⟩ := List.lookup_eq_some_iff.mp known
        have short := single _ (listed ▸ List.mem_append_right _ List.mem_cons_self)
        exact absurd short (by simp)

/-- A machine that repeats its replies still does so after any request. -/
theorem Repeats.answer (repeats : machine.Repeats replies) (request : MachineRequest) :
    (LocalMachine.answer request machine).2.Repeats replies := by
  have looked (query : NodeQuery) : (machine.lookUp query).2.Repeats replies := by
    unfold LocalMachine.lookUp
    split
    · have noted : { machine with asked := .query query :: machine.asked }.Repeats replies := repeats
      exact noted.nextReply query.method
    · exact repeats
  cases request with
  | file | environment | http => exact repeats
  | host request =>
      cases request with
      | now | uptime | pause | warn | print => exact repeats
  | node endpoint request =>
      cases request with
      | query query => exact looked query
      | settle transaction =>
          simp only [LocalMachine.answer, answerNode]
          split
          · exact repeats
          · exact repeats
      | send transaction =>
          simp only [LocalMachine.answer, answerNode, LocalMachine.send]
          split
          · split
            · exact looked .gasPrice
            · exact repeats
          · exact repeats

/-- What a repeating machine tells about a query is the only reply it knows for it. -/
theorem Repeats.reply_eq (repeats : machine.Repeats replies) {query : NodeQuery}
    {only : Except String Json.Value} {reply : Json.Value}
    (known : replies.lookup query.method = some [only])
    (answered : (machine.lookUp query).1 = .ok reply) : only = .ok reply := by
  unfold LocalMachine.lookUp at answered
  split at answered
  · unfold LocalMachine.nextReply at answered
    rw [repeats.1, known] at answered
    exact answered
  · cases answered

end LocalMachine

namespace Program

/-- A machine whose node knows no code, and where everybody is funded. -/
def newcomerMachine : LocalMachine where
  replies := [("eth_getCode", [.ok (.string "0x")]),
    ("eth_call", [.ok (.string (Octets.filled 32 0).toText)]), ("eth_gasPrice", [.ok (.string "0x1")])]
  fate := some (.included (some 1))
  serve := localReply

/-- A request of the wallet of the first salt. -/
def newcomerRequest : Request where
  wallet := .derived (Salt.ofCounter 1)

/-- An exchange in which no code is told of. -/
def TellsNoCode (exchange : Exchange Machine) : Prop :=
  ∀ endpoint account reply, exchange = ⟨.node endpoint (.query (.codeAt account)),
    (.ok reply : Except String Json.Value)⟩ → reply = .string "0x"

/-- The machine of a newcomer never tells of any code. -/
theorem tellsNoCode_of_follows {exchanges : List (Exchange Machine)} {after : LocalMachine}
    (follows : Dialogue.Follows LocalMachine.answer newcomerMachine exchanges after) :
    ∀ exchange ∈ exchanges, TellsNoCode exchange := by
  have repeats : newcomerMachine.Repeats newcomerMachine.replies := ⟨rfl, by decide⟩
  rintro exchange member endpoint account reply rfl
  obtain ⟨before, later, repeated, answered⟩ :=
    follows.exists_answer_of_keeps (LocalMachine.Repeats newcomerMachine.replies)
      (fun request _ repeats => repeats.answer request) repeats _ member
  have told : (before.lookUp (.codeAt account)).1 = .ok reply := congrArg Prod.fst answered
  exact (Except.ok.inj (repeated.reply_eq rfl told)).symm

/-- A newcomer's wallet is resolved and its operation signed and packed without any code being found.
-/
theorem exists_ends_newcomer : ∃ lead sender exchanges signed packed,
    (localSession.relay.consult (localSession.pipeline.resolver.senderAddress
      newcomerRequest.wallet)).Ends lead (.ok sender) ∧
    (localSession.relay.consult (localSession.pipeline.signLocked newcomerRequest)).Ends exchanges
      (.ok signed) ∧ signed.operation.pack = .ok packed ∧
    ∀ exchange ∈ lead ++ exchanges, TellsNoCode exchange := by
  have packs : (newcomerMachine.run (localSession.relay.consult
      (localSession.pipeline.resolver.senderAddress newcomerRequest.wallet) >>= fun _ =>
        localSession.relay.consult (localSession.pipeline.signLocked newcomerRequest) >>= fun signed =>
          .ofExcept (signed.operation.pack.mapError .tooWide))).1.isOk = true := by decide +kernel
  obtain ⟨_, packed, _, ends, follows⟩ := LocalMachine.exists_follows_of_isOk packs
  obtain ⟨lead, _, sender, rfl, derives, ends⟩ := ends.bind_ok
  obtain ⟨exchanges, _, signed, rfl, signs, packing⟩ := ends.bind_ok
  obtain ⟨rfl, same⟩ := Dialogue.Ends.ofExcept packing
  rw [List.append_nil] at follows
  exact ⟨lead, sender, exchanges, signed, packed, derives, signs,
    Outcome.mapError_eq_ok_iff.mp same.symm, tellsNoCode_of_follows follows⟩

/-- The first operation of a wallet carries what creates it, and the wallet resolves to what an
inspection finds. -/
theorem deploys_what_is_derived_first :
    (∃ looking resolution, (Pipeline.onLocalNet.resolver.inspect newcomerRequest.wallet).Ends looking
      (.ok resolution) ∧
      ((Pipeline.onLocalNet.resolver.inspect newcomerRequest.wallet).run LocalNet.answer
        .obliging).1 = .ok resolution) ∧
    ∃ exchanges outcome, (localSession.relay.consult
        (localSession.pipeline.send newcomerRequest)).Ends exchanges outcome ∧
      ∃ exchange ∈ exchanges, ∃ post, exchange.request = .http post ∧
        ∃ (operation : Operation) (entryPoint : Address),
          post.body = Bundler.callBody "eth_sendUserOperation"
            [operation.toSendBody, .string entryPoint.toText] ∧
          operation.initCode = localDeployment.accountFactory.toList ++
            localDeployment.contracts.createAccountCallData localKey.address (Salt.ofCounter 1) := by
  obtain ⟨-, sessions, posts, -, resolves⟩ := Relay.deploys_what_is_derived
  obtain ⟨by_exchanges, in_worlds, -⟩ :=
    resolves Pipeline.onLocalNet.resolver newcomerRequest.wallet
  obtain ⟨resolving, ends⟩ := Dialogue.exists_ends_run LocalNet.answer
    (Pipeline.onLocalNet.resolver.resolve newcomerRequest.wallet) .obliging
  obtain ⟨looking, _, -, inspects⟩ := by_exchanges resolving _ ends
  refine ⟨⟨looking, _, inspects, in_worlds LocalNet.answer .obliging _ rfl⟩, ?_⟩
  obtain ⟨_, opens, -⟩ := exists_ends_openSession_local
  obtain ⟨lead, sender, signing, signed, packed, derives, signs, packs, tells⟩ := exists_ends_newcomer
  obtain ⟨finishing, outcome, posted, finishes⟩ :=
    localSession.relay.exists_ends_finish localSession.pipeline packs (.error "not reached")
  have sends := Relay.ends_send derives signs finishes
  have handing := Bundler.get?_method_callBody Bundler.sendMethod
    [signed.operation.toSendBody, .string localDeployment.entryPoint.toText]
  have member : _ ∈ lead ++ (signing ++ finishing) :=
    List.mem_append_right _ (List.mem_append_right _ posted)
  refine ⟨_, outcome, sends, _, member, _, rfl, ?_⟩
  obtain ⟨operation, entryPoint, before, found, after, code, same, split, -, finds, creates⟩ :=
    posts localSession.relay localSession.pipeline (Salt.ofCounter 1) _ (sessions _ _ _ _ opens)
      (.inl ⟨newcomerRequest, outcome, rfl, sends⟩) _ member _ rfl handing
  obtain ⟨derived, word, read, -, -, code_read, rfl⟩ := finds
  have looked : (⟨.node localSession.relay.node (.query (.codeAt operation.sender)),
      (.ok read : Except String Json.Value)⟩ : Exchange Machine) ∈ lead ++ (signing ++ finishing) := by
    rw [split]
    simp
  rw [← List.append_assoc] at looked
  rcases List.mem_append.mp looked with early | late
  · obtain rfl := tells _ early _ _ _ rfl
    cases code_read
    exact ⟨operation, entryPoint, same, creates⟩
  · exact absurd rfl ((localSession.relay.asks_finish _ _).of_ends finishes _ late _ _)

end Program

end AccountRelay
