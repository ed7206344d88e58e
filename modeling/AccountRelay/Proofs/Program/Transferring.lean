import AccountRelay.Proofs.Addresses
import AccountRelay.Proofs.Deployment
import AccountRelay.Proofs.Operation.Reading
import AccountRelay.Proofs.Pipeline.Handing
import AccountRelay.Proofs.Program.Refusing
import AccountRelay.Proofs.Uint256.Decimal
import AccountRelay.Proofs.WalletCall

/-! # Transfers

A transfer command whose values parse orders a `Transfer` out of a wallet (`Program.Orders`), and
comes down to a look for the wallet in the registry and the submission of the transfer's call data
(`Program.runCommand_of_orders`); otherwise it does nothing. A submission posts no operation but one
of its wallet with its call data (`Program.hands_submit`), and what has been signed is posted
(`Program.exists_ends_of_signed`). So what a transfer command has the bundler do is what its caller
wrote (`Program.transfers_as_written`).
-/

namespace AccountRelay

open CommandLine (Command OperationOptions)

/-! ## What a caller writes -/

namespace Input

/-- The text is the digits of an address behind at most one mark. -/
def IsAddress (text : String) (address : Address) : Prop :=
  ∃ digits, Hex.IsBehind 1 text.toList digits ∧ Hex.Spells digits address.toList

/-- The text is the decimal digits of an amount, with blanks around them or without. -/
def IsAmount (text : String) (amount : Uint256) : Prop :=
  Numeral.Denotes 10 (Text.trimmed text.toList) amount.toNat

/-- The command line reads exactly the spellings of an address. -/
theorem isAddress_iff {field text : String} {address : Address} :
    Input.address field text = .ok address ↔ IsAddress text address :=
  (readsExactly_address field).finds text address

/-- The command line reads exactly the spellings of an amount. -/
theorem isAmount_iff {field text : String} {amount : Uint256} :
    Input.amount field text = .ok amount ↔ IsAmount text amount := by
  rw [amount_eq_ok_iff, Uint256.ofDecimal_eq_ok_iff, IsAmount]

/-- A text spells at most one address. -/
theorem IsAddress.unique {text : String} {one other : Address} (first : IsAddress text one)
    (second : IsAddress text other) : one = other := by
  have read : Input.address "" text = .ok one := isAddress_iff.mpr first
  rw [isAddress_iff.mpr second] at read
  exact (Except.ok.inj read).symm

/-- A text spells at most one amount. -/
theorem IsAmount.unique {text : String} {one other : Uint256} (first : IsAmount text one)
    (second : IsAmount text other) : one = other := by
  have read : Input.amount "" text = .ok one := isAmount_iff.mpr first
  rw [isAmount_iff.mpr second] at read
  exact (Except.ok.inj read).symm

end Input

namespace Program

variable {settings : Settings} {command : Command} {options : OperationOptions} {wallet : Address}
  {transfer : Transfer} {exchanges : List (Exchange Machine)} {outcome : Except Failure Unit}

/-- Whether a command is for a transfer. -/
def IsTransfer : Command → Prop
  | .transferEth _ _ _ _ | .transferToken _ _ _ _ _ => True
  | _ => False

/-- What a transfer command orders out of which wallet, by the texts of its caller. -/
inductive Orders : Command → OperationOptions → Address → Transfer → Prop
  | eth {options : OperationOptions} {walletText recipientText amountText : String}
      {wallet recipient : Address} {amount : Uint256} (from_wallet : Input.IsAddress walletText wallet)
      (to_recipient : Input.IsAddress recipientText recipient)
      (counted : Input.IsAmount amountText amount) :
      Orders (.transferEth options walletText recipientText amountText) options wallet
        (.eth recipient amount)
  | token {options : OperationOptions} {walletText contractText recipientText amountText : String}
      {wallet contract recipient : Address} {amount : Uint256}
      (from_wallet : Input.IsAddress walletText wallet)
      (of_contract : Input.IsAddress contractText contract)
      (to_recipient : Input.IsAddress recipientText recipient)
      (counted : Input.IsAmount amountText amount) :
      Orders (.transferToken options walletText contractText recipientText amountText) options wallet
        (.token contract recipient amount)

/-- A command orders one thing only. -/
theorem Orders.unique {other_options : OperationOptions} {other_wallet : Address}
    {other_transfer : Transfer} (one : Orders command options wallet transfer)
    (other : Orders command other_options other_wallet other_transfer) :
    options = other_options ∧ wallet = other_wallet ∧ transfer = other_transfer := by
  cases one with
  | eth from_wallet to_recipient counted =>
      cases other with | eth other_from other_to other_counted =>
      rw [from_wallet.unique other_from, to_recipient.unique other_to, counted.unique other_counted]
      exact ⟨rfl, rfl, rfl⟩
  | token from_wallet of_contract to_recipient counted =>
      cases other with | token other_from other_of other_to other_counted =>
      rw [from_wallet.unique other_from, of_contract.unique other_of,
        to_recipient.unique other_to, counted.unique other_counted]
      exact ⟨rfl, rfl, rfl⟩

/-- An order is carried out by looking for the wallet and submitting the call. -/
theorem runCommand_of_orders (settings : Settings) (orders : Orders command options wallet transfer) :
    runCommand settings command = Machine.ofFiles (Registry.requireRegistered options.registry wallet)
      >>= fun _ => submit settings options (.existing wallet) transfer.callData := by
  cases orders with
  | eth from_wallet to_recipient counted =>
      rw [runCommand, transferEth, Input.isAddress_iff.mpr from_wallet,
        Input.isAddress_iff.mpr to_recipient, Input.isAmount_iff.mpr counted,
        ← WalletCall.withdrawEth_eq]
      rfl
  | token from_wallet of_contract to_recipient counted =>
      rw [runCommand, transferToken, Input.isAddress_iff.mpr from_wallet,
        Input.isAddress_iff.mpr of_contract, Input.isAddress_iff.mpr to_recipient,
        Input.isAmount_iff.mpr counted, ← WalletCall.withdrawToken_eq]
      rfl

/-- A transfer command without faults orders a transfer. -/
theorem exists_orders (works : IsTransfer command) (sound : faults command = []) :
    ∃ options wallet transfer, Orders command options wallet transfer := by
  cases command with
  | transferEth options wallet recipient amount =>
      obtain ⟨⟨wallet, named⟩, sound⟩ := exists_ok_of_sound sound
      obtain ⟨⟨recipient, addressed⟩, sound⟩ := exists_ok_of_sound sound
      obtain ⟨⟨amount, counted⟩, -⟩ := exists_ok_of_sound sound
      exact ⟨options, wallet, .eth recipient amount, .eth (Input.isAddress_iff.mp named)
        (Input.isAddress_iff.mp addressed) (Input.isAmount_iff.mp counted)⟩
  | transferToken options wallet token recipient amount =>
      obtain ⟨⟨wallet, named⟩, sound⟩ := exists_ok_of_sound sound
      obtain ⟨⟨contract, chosen⟩, sound⟩ := exists_ok_of_sound sound
      obtain ⟨⟨recipient, addressed⟩, sound⟩ := exists_ok_of_sound sound
      obtain ⟨⟨amount, counted⟩, -⟩ := exists_ok_of_sound sound
      exact ⟨options, wallet, .token contract recipient amount, .token (Input.isAddress_iff.mp named)
        (Input.isAddress_iff.mp chosen) (Input.isAddress_iff.mp addressed)
        (Input.isAmount_iff.mp counted)⟩
  | account | createWallet | listWallets | send | balance | status => exact works.elim

/-! ## What a submission posts -/

/-- A question asked to connect hands no operation over. -/
theorem hands_of_connecting {holds : Operation → Prop} {request : MachineRequest}
    (connecting : request.IsConnecting) : request.Hands holds := by
  cases request with
  | http => exact connecting.elim
  | file | environment | node | host => trivial

/-- A submission for a wallet posts no operation but one of the wallet with the call data. -/
theorem hands_submit {callData : Bytes}
    (ends : (submit settings options (.existing wallet) callData).Ends exchanges outcome) :
    ∀ exchange ∈ exchanges, exchange.request.Hands (Pipeline.Acts wallet callData) := by
  have connects : (openSession settings options).Asks
      (MachineRequest.Hands (Pipeline.Acts wallet callData)) :=
    (asks_openSession settings options).mono fun _ => hands_of_connecting
  rcases ends.bind with ⟨failure, -, failed⟩ | ⟨opening, _, session, rfl, opens, ends⟩
  · exact connects.of_ends failed
  · refine List.forall_mem_append.mpr ⟨connects.of_ends opens, ?_⟩
    rcases ends.bind with ⟨failure, -, failed⟩ | ⟨sending, _, hash, rfl, sends, reports⟩
    · exact session.relay.hands_of_consult failed fun _ sends => Pipeline.hands_send rfl sends
    · refine List.forall_mem_append.mpr ⟨?_, ?_⟩
      · exact session.relay.hands_of_consult sends fun _ sends => Pipeline.hands_send rfl sends
      · have telling : (report session options hash).Asks
            (MachineRequest.Hands (Pipeline.Acts wallet callData)) :=
          asks_report options session hash (fun _ => trivial) fun interval timeout =>
            session.relay.asks_consult_hands (Submission.asks_wait hash interval timeout _)
        exact telling.of_ends reports

/-! ## What a transfer posts -/

/-- Whether a registry in which a wallet is recorded has been opened to begin with. -/
def IsRecorded (path : String) (wallet : Address) (exchanges : List (Exchange Machine)) : Prop :=
  ∃ opening registry, opening <+: exchanges ∧
    (Machine.ofFiles (Registry.load path)).Ends opening (.ok registry) ∧
      (registry.get? wallet).isSome

/-- A wallet that passes the check for registration was found among the records read. -/
theorem isRecorded_of_ends {path : String} {rest : List (Exchange Machine)}
    (ends : (Machine.ofFiles (Registry.requireRegistered path wallet)).Ends exchanges (.ok ())) :
    IsRecorded path wallet (exchanges ++ rest) := by
  rw [Registry.requireRegistered, Machine.ofFiles_bind] at ends
  obtain ⟨opening, more, registry, rfl, loads, passes⟩ := ends.bind_ok
  refine ⟨opening, registry, ?_, loads, ?_⟩
  · rw [List.append_assoc]
    exact List.prefix_append opening _
  · cases found : registry.get? wallet with
    | some record => rfl
    | none =>
        simp only [found] at passes
        cases passes.2

/-- An operation of a wallet that makes a transfer, as the object in which it is sent: its members name
the wallet and have the call data in hexadecimal digits, and reading the object back finds both. -/
structure IsTransferBody (wallet : Address) (transfer : Transfer) (body : Json.Value) : Prop where
  sender : body.get? "sender" = some (.string wallet.toText)
  callData : body.get? "callData" = some (.string (Hex.marked transfer.callData))
  reads_back : ∃ operation, Operation.ofSendBody body = .ok operation ∧ operation.sender = wallet ∧
    operation.callData = transfer.callData

/-- The body sent for an operation that carries the transfer's call data is the body of that transfer.
-/
theorem isTransferBody_of_acts {operation : Operation}
    (acts : Pipeline.Acts wallet transfer.callData operation) :
    IsTransferBody wallet transfer operation.toSendBody where
  sender := by
    rw [← acts.1]
    change operation.toSendBody.get? "sender" = some (Operation.bytesValue operation.sender.toList)
    exact Operation.get?_toSendBody (by simp [Operation.sendMembers, Operation.callMembers])
  callData := by
    rw [← acts.2]
    change operation.toSendBody.get? "callData" = some (Operation.bytesValue operation.callData)
    exact Operation.get?_toSendBody (by simp [Operation.sendMembers, Operation.callMembers])
  reads_back := ⟨operation.normal, operation.ofSendBody_eq_normal, acts.1, acts.2⟩

/-- What a transfer command posts under the method that hands operations over. -/
theorem exists_orders_of_post (works : IsTransfer command)
    (ends : (runCommand settings command).Ends exchanges outcome) {exchange : Exchange Machine}
    (member : exchange ∈ exchanges) {post : HttpRequest} (posted : exchange.request = .http post)
    (handing : post.body.get? "method" = some (.string Bundler.sendMethod)) :
    ∃ options wallet transfer, Orders command options wallet transfer ∧
      IsRecorded options.registry wallet exchanges ∧ ∃ (body : Json.Value) (entryPoint : Address),
        post.body = Bundler.callBody Bundler.sendMethod [body, .string entryPoint.toText] ∧
          IsTransferBody wallet transfer body := by
  cases found : faults command with
  | cons fault rest =>
      rw [runCommand_of_faults settings found] at ends
      obtain ⟨rfl, -⟩ := ends
      cases member
  | nil =>
      obtain ⟨options, wallet, transfer, orders⟩ := exists_orders works found
      rw [runCommand_of_orders settings orders] at ends
      have looks := Machine.asks_ofFiles (Registry.asks_requireRegistered options.registry wallet)
      have not_look : ¬exchange.request.IsLook := by
        rw [posted]
        exact not_false
      rcases ends.bind with ⟨failure, -, failed⟩ | ⟨opening, rest, _, rfl, finds, submits⟩
      · exact absurd (looks.of_ends failed exchange member) not_look
      · rcases List.mem_append.mp member with looked | submitted
        · exact absurd (looks.of_ends finds exchange looked) not_look
        · have hands := hands_submit submits exchange submitted
          rw [posted] at hands
          obtain ⟨operation, entryPoint, body, acts⟩ := hands handing
          exact ⟨options, wallet, transfer, orders, isRecorded_of_ends finds, _, entryPoint, body,
            isTransferBody_of_acts acts⟩

/-- A transfer command that succeeds has posted an operation. -/
theorem exists_post_of_ok (works : IsTransfer command)
    (ends : (runCommand settings command).Ends exchanges (.ok ())) :
    ∃ exchange ∈ exchanges, ∃ post, exchange.request = .http post ∧
      post.body.get? "method" = some (.string Bundler.sendMethod) := by
  cases found : faults command with
  | cons fault rest =>
      rw [runCommand_of_faults settings found] at ends
      cases ends.2
  | nil =>
      obtain ⟨options, wallet, transfer, orders⟩ := exists_orders works found
      rw [runCommand_of_orders settings orders] at ends
      obtain ⟨_, _, _, rfl, -, submits⟩ := ends.bind_ok
      obtain ⟨_, _, session, rfl, -, submits⟩ := submits.bind_ok
      obtain ⟨_, _, hash, rfl, sends, -⟩ := submits.bind_ok
      obtain ⟨exchange, member, posted⟩ := session.relay.exists_post_of_consult sends
        fun _ sends => Pipeline.exists_accepted_of_send sends
      exact ⟨exchange, by simp [member], posted⟩

/-- An ordered transfer is posted when its wallet is found, a session is open and the operation is
signed, whatever the bundler replies. -/
theorem exists_ends_of_signed {first second third : List (Exchange Machine)} {session : Session}
    {signed : SignedOperation} {packed : PackedOperation}
    (orders : Orders command options wallet transfer)
    (finds : (Machine.ofFiles (Registry.requireRegistered options.registry wallet)).Ends first
      (.ok ()))
    (opens : (openSession settings options).Ends second (.ok session))
    (signs : (session.relay.consult (session.pipeline.signLocked {
      wallet := .existing wallet
      callData := transfer.callData
      paymaster := session.paymaster options })).Ends third (.ok signed))
    (packs : signed.operation.pack = .ok packed) (reply : Except String HttpReply) :
    ∃ exchanges outcome, (runCommand settings command).Ends exchanges outcome ∧
      ⟨.http (session.relay.post session.pipeline signed), reply⟩ ∈ exchanges := by
  have named : (session.relay.consult (session.pipeline.resolver.senderAddress
      (.existing wallet))).Ends [] (.ok wallet) := ⟨rfl, rfl⟩
  obtain ⟨finishing, sent, posted, finishes⟩ :=
    session.relay.exists_ends_finish session.pipeline packs reply
  obtain ⟨rest, outcome, reports⟩ :=
    Machine.exists_ends_bind (Relay.ends_send named signs finishes) (report session options)
  have runs : (Machine.ofFiles (Registry.requireRegistered options.registry wallet) >>= fun _ =>
      submit settings options (.existing wallet) transfer.callData).Ends _ outcome :=
    finds.of_bind (opens.of_bind reports)
  rw [← runCommand_of_orders settings orders] at runs
  exact ⟨_, outcome, runs, by simp [posted]⟩

/-- **A transfer moves what its caller wrote.** An operation that a transfer command posts to the
bundler is one of the wallet that is written and recorded, and its call data are the method, the
addresses and the amount of the transfer that is written; a command that succeeds has posted one. An
amount is taken exactly when it is decimal digits
that denote a number below 2^256, and as that number; no digits are zero. So transfers with the same
call data are of one kind and have the same token, recipient and amount. -/
theorem transfers_as_written :
    (∀ settings command exchanges outcome, IsTransfer command →
      (runCommand settings command).Ends exchanges outcome →
      ∀ exchange ∈ exchanges, ∀ post, exchange.request = .http post →
        post.body.get? "method" = some (.string "eth_sendUserOperation") →
        ∃ options wallet transfer, Orders command options wallet transfer ∧
          IsRecorded options.registry wallet exchanges ∧
          ∃ (body : Json.Value) (entryPoint : Address),
            post.body =
              Bundler.callBody "eth_sendUserOperation" [body, .string entryPoint.toText] ∧
            IsTransferBody wallet transfer body) ∧
    (∀ settings command exchanges, IsTransfer command →
      (runCommand settings command).Ends exchanges (.ok ()) →
      ∃ exchange ∈ exchanges, ∃ post, exchange.request = .http post ∧
        post.body.get? "method" = some (.string "eth_sendUserOperation")) ∧
    (∀ field text, (∃ amount, Input.amount field text = .ok amount) ↔
      (∀ c ∈ Text.trimmed text.toList, '0' ≤ c ∧ c ≤ '9') ∧
        ∃ number < 2 ^ 256, Numeral.Denotes 10 (Text.trimmed text.toList) number) ∧
    (∀ field text amount, Input.amount field text = .ok amount ↔ Input.IsAmount text amount) ∧
    (∀ field text, Text.trimmed text.toList = [] → Input.amount field text = .ok 0) ∧
    ∀ first second : Transfer, first.callData = second.callData → first = second := by
  refine ⟨?posts, fun _ _ _ works => exists_post_of_ok works, ?accepts,
    fun _ _ _ => Input.isAmount_iff, ?empty, fun _ _ => Transfer.callData_injective⟩
  case posts =>
    intro settings command exchanges outcome works ends exchange member post posted handing
    exact exists_orders_of_post works ends member posted handing
  case accepts =>
    intro field text
    simp only [Input.amount_eq_ok_iff, Uint256.exists_ofDecimal_iff]
  case empty =>
    intro field text blank
    rw [Input.isAmount_iff, Input.IsAmount, blank]
    exact ⟨[], nofun, rfl, rfl⟩

/-! A transfer of five wei from a wallet that is recorded. -/

/-- The options of the transfer: the wallet pays for itself, and endpoints and key are given. -/
def localOptions : OperationOptions where
  deployment := "deployment.json"
  rpc := some "http://[::1]:8545"
  bundler := some "http://[::1]:4337"
  registry := "wallets.json"
  ownerKey := some "0x0000000000000000000000000000000000000000000000000000000000000001"
  paymasterKey := none
  noPaymaster := true
  wait := false
  maxWaitSeconds := 120

/-- The command of the transfer; an amount may have white space in front. -/
def localTransfer : Command :=
  .transferEth localOptions "0xabababababababababababababababababababab"
    "0x1111111111111111111111111111111111111111" " 5"

/-- The owner's key in the options, as a key. -/
def localKey : SecretKey where
  scalar := 1
  in_range := SecretKey.one_in_range

/-- The deployment of the net in memory, at the endpoints in the options. -/
def localDeployment : Deployment :=
  { Deployment.onLocalNet with
    rpcUrl := "http://[::1]:8545"
    bundlerUrl := "http://[::1]:4337" }

/-- The session of the transfer. -/
def localSession : Session where
  pipeline := { deployment := localDeployment, owner := localKey.address }
  relay := .ofDeployment localDeployment (some localKey) none

/-- What the endpoints of the session reply. -/
def localReply (request : HttpRequest) : Except String HttpReply :=
  match request.body.get? "method" with
  | some (.string "eth_estimateUserOperationGas") => .ok ⟨200, Bytes.ofText
      ("\x7b\"result\":\x7b\"preVerificationGas\":\"0x1\",\"callGasLimit\":\"0x1\"," ++
        "\"verificationGasLimit\":\"0x1\"\x7d\x7d")⟩
  | _ => .ok ⟨200, Bytes.ofText "\x7b\"result\":\"0x1\"\x7d"⟩

/-- A machine with the registry, whose node knows the wallet. -/
def localMachine : LocalMachine where
  tree := Registry.capitalTree
  replies := [("eth_chainId", [.ok (.string "0x7a69")]), ("eth_getCode", [.ok (.string "0x00")]),
    ("eth_call", [.ok (.string (Octets.filled 32 0).toText)]),
    ("eth_gasPrice", [.ok (.string "0x1")])]
  serve := localReply

/-- The deployment is read. -/
def deploymentRead : Exchange Machine :=
  ⟨.file (.read "deployment.json"),
    (.ok (Bytes.ofText Deployment.Document.textOnLocalNet) : Except FileFault Bytes)⟩

/-- The deployment that the options name is connected to, and the only file read is its document. -/
theorem exists_ends_connect_local : ∃ asked,
    (connect [] localOptions.toCommonOptions).Ends (deploymentRead :: asked) (.ok localDeployment) ∧
      ∀ exchange ∈ asked, exchange.request.IsElsewhere := by
  have loads : (loadDeployment [] localOptions.toCommonOptions).Ends [deploymentRead]
      (.ok localDeployment) :=
    Dialogue.Ends.of_serves
      (Deployment.ends_load_textOnLocalNet localOptions.rpc localOptions.bundler)
      ⟨[_], [], rfl, ⟨_, [], rfl, rfl, rfl⟩, rfl⟩
  have sound : Url.check localDeployment.rpcUrl = .ok () := by decide +kernel
  have checks : (Dialogue.ofExcept ((Url.check localDeployment.rpcUrl).mapError fun fault =>
      .within (.nodeUrl localDeployment.rpcUrl) (.invalidUrl fault)) : MachineWork Unit).Ends []
        (.ok ()) := by
    rw [sound]
    exact ⟨rfl, rfl⟩
  have follows : (localMachine.run ((Relay.ofDeployment localDeployment none none).consult
      (Lookup.ensureChain localDeployment.chainId))).1.isOk = true := by decide +kernel
  obtain ⟨asked, _, reached⟩ := LocalMachine.exists_ends_of_isOk follows
  refine ⟨asked, ?_, ((Relay.ofDeployment localDeployment none none).asks_consult _).of_ends reached⟩
  rw [← List.append_nil asked]
  exact loads.of_bind (checks.of_bind (reached.of_bind ⟨rfl, rfl⟩))

/-- A session is opened, and the only file read is the document of the deployment. -/
theorem exists_ends_openSession_local : ∃ asked,
    (openSession [] localOptions).Ends (deploymentRead :: asked) (.ok localSession) ∧
      ∀ exchange ∈ asked, exchange.request.IsElsewhere := by
  obtain ⟨asked, connects, elsewhere⟩ := exists_ends_connect_local
  refine ⟨asked, ?_, elsewhere⟩
  rw [← List.append_nil asked]
  exact connects.of_bind ⟨rfl, rfl⟩

/-- The request of the transfer. -/
def localRequest : Request where
  wallet := .existing (.filled 20 0xab)
  callData := (Transfer.eth (.filled 20 0x11) 5).callData
  paymaster := localSession.paymaster localOptions

/-- On the local machine the transfer's operation is signed and can be packed. -/
theorem exists_ends_signLocked_local : ∃ exchanges signed packed,
    (localSession.relay.consult (localSession.pipeline.signLocked localRequest)).Ends exchanges
      (.ok signed) ∧ signed.operation.pack = .ok packed := by
  have packs : (localMachine.run
      (localSession.relay.consult (localSession.pipeline.signLocked localRequest) >>= fun signed =>
        .ofExcept (signed.operation.pack.mapError .tooWide))).1.isOk = true := by decide +kernel
  obtain ⟨_, packed, ends⟩ := LocalMachine.exists_ends_of_isOk packs
  obtain ⟨exchanges, _, signed, -, signs, packing⟩ := ends.bind_ok
  obtain ⟨-, packing⟩ := Dialogue.Ends.ofExcept packing
  exact ⟨exchanges, signed, packed, signs, Outcome.mapError_eq_ok_iff.mp packing.symm⟩

/-- The command line of the local transfer orders five wei for its recipient. -/
theorem orders_local :
    Orders localTransfer localOptions (.filled 20 0xab) (.eth (.filled 20 0x11) 5) :=
  .eth (Input.isAddress_iff.mp (rfl : Input.address "wallet" _ = _))
    (Input.isAddress_iff.mp (rfl : Input.address "to" _ = _))
    (Input.isAmount_iff.mp (rfl : Input.amount "amount" _ = _))

/-- The transfer of five wei is posted, and is what was written. -/
theorem transfers_as_written_once :
    ∃ exchanges outcome, (runCommand [] localTransfer).Ends exchanges outcome ∧
      ∃ exchange ∈ exchanges, ∃ post, exchange.request = .http post ∧
        post.body.get? "method" = some (.string "eth_sendUserOperation") ∧
        ∃ (body : Json.Value) (entryPoint : Address),
          post.body = Bundler.callBody "eth_sendUserOperation" [body, .string entryPoint.toText] ∧
          IsTransferBody (.filled 20 0xab) (.eth (.filled 20 0x11) 5) body := by
  have recorded : (localMachine.run (Machine.ofFiles (Registry.requireRegistered "wallets.json"
      (.filled 20 0xab)))).1.isOk = true := by decide +kernel
  obtain ⟨_, _, finds⟩ := LocalMachine.exists_ends_of_isOk recorded
  obtain ⟨_, opens, -⟩ := exists_ends_openSession_local
  obtain ⟨_, signed, packed, signs, packs⟩ := exists_ends_signLocked_local
  obtain ⟨exchanges, outcome, runs, member⟩ :=
    exists_ends_of_signed orders_local finds opens signs packs (.error "not reached")
  have handing := Bundler.get?_method_callBody Bundler.sendMethod
    [signed.operation.toSendBody, .string localDeployment.entryPoint.toText]
  obtain ⟨posts, -⟩ := transfers_as_written
  obtain ⟨_, _, _, written, -, body, entryPoint, posted, transfers⟩ :=
    posts [] localTransfer exchanges outcome trivial runs _ member _ rfl handing
  obtain ⟨-, rfl, rfl⟩ := orders_local.unique written
  exact ⟨exchanges, outcome, runs, _, member, _, rfl, handing, body, entryPoint, posted, transfers⟩

end Program

end AccountRelay
