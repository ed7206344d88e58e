import AccountRelay.Proofs.Dialogue.Histories
import AccountRelay.Proofs.Pipeline.Candor
import AccountRelay.Relay

/-! # What a relay's answers blame

Neither the node nor the bundler is told apart by the width of a number: a failure in asking them is one
of the transport, of a reply that cannot be read, or a rejection. So a relay, whatever the machine does,
answers candidly (`Relay.candid_answer`), and it always answers (`Relay.exists_candid_exchanges`).
-/

namespace AccountRelay

/-- The conduct that permits everything. -/
def Conduct.free (I : Interface) : Conduct I Unit where
  permits _ _ := True
  expects _ _ := True
  next _ _ _ := ()

namespace Dialogue

variable {I J : Interface} {α β : Type}

/-- A dialogue that never fails for a width. -/
def Narrow (dialogue : Dialogue I Failure α) : Prop :=
  dialogue.Keeps (.free I) (fun outcome _ => ∀ failure, outcome = .error failure →
    failure.width? = none) ()

namespace Narrow

variable {dialogue : Dialogue I Failure α}

/-- What is done fails for nothing. -/
theorem done (value : α) : Narrow (.done value : Dialogue I Failure α) := nofun

/-- A failure that is not for a width is none for a width. -/
theorem fail {failure : Failure} (narrow : failure.width? = none) :
    Narrow (.fail failure : Dialogue I Failure α) := by
  rintro _ ⟨⟩
  exact narrow

/-- A question is asked without failing for a width, if what follows does not. -/
theorem ask {request : I.Request} {next : I.Answer request → Dialogue I Failure α}
    (follows : ∀ reply, (next reply).Narrow) : Narrow (.ask request next) :=
  ⟨trivial, fun reply _ => follows reply⟩

/-- An outcome is narrow if its failure is not for a width. -/
theorem ofExcept {outcome : Except Failure α}
    (narrow : ∀ failure, outcome = .error failure → failure.width? = none) :
    Narrow (.ofExcept outcome : Dialogue I Failure α) :=
  Keeps.ofExcept narrow

/-- Work that goes on never fails for a width, if neither part does. -/
theorem bind {next : α → Dialogue I Failure β} (narrow : dialogue.Narrow)
    (follows : ∀ value, (next value).Narrow) : Narrow (dialogue >>= next) := by
  apply Keeps.bind narrow
  · exact fun value _ _ => follows value
  · rintro error _ blames _ ⟨⟩
    exact blames error rfl

/-- Work whose questions are answered by narrow work is narrow itself. -/
theorem interpret {answer : (request : I.Request) → Dialogue J Failure (I.Answer request)}
    (narrow : dialogue.Narrow) (answers : ∀ request, (answer request).Narrow) :
    (dialogue.interpret answer).Narrow := by
  induction dialogue with
  | done value => exact done value
  | fail failure => exact narrow
  | ask request follow ih => exact (answers request).bind fun reply => ih reply (narrow.2 reply trivial)

/-- A narrow dialogue that failed has not failed for a width. -/
theorem of_ends (narrow : dialogue.Narrow) {exchanges : List (Exchange I)} {failure : Failure}
    (ends : dialogue.Ends exchanges (.error failure)) : failure.width? = none := by
  obtain ⟨_, -, blames⟩ := narrow.allows ends fun _ _ => trivial
  exact blames failure rfl

end Narrow

end Dialogue

open Dialogue (Narrow)

/-! ## The node -/

/-- A look at the node never fails for a width. -/
theorem ChainNode.narrow_lookUp {α : Type} (layer : Layer) (context : Context)
    (read : Json.Value → Option α) (query : NodeQuery) : (lookUp layer context read query).Narrow := by
  apply Narrow.ask
  intro (reply : Except String Json.Value)
  split
  · exact .done _
  · exact .fail rfl
  · exact .fail rfl

namespace Chain

/-- Asking for the chain never fails for a width. -/
theorem narrow_chainId : chainId.Narrow := by
  refine (ChainNode.narrow_lookUp _ _ _ _).bind fun number => ?_
  split
  · exact .done _
  · exact .fail rfl

end Chain

namespace Contracts

variable (contracts : Contracts)

/-- Calling a contract for a word never fails for a width. -/
theorem narrow_wordOf (context : Context) (call : ContractCall) : (wordOf context call).Narrow :=
  ChainNode.narrow_lookUp _ _ _ _

/-- Deriving an address never fails for a width. -/
theorem narrow_counterfactualAddress (owner : Address) (salt : Salt) :
    (contracts.counterfactualAddress owner salt).Narrow :=
  (narrow_wordOf _ _).bind fun _ => .done _

/-- Reading a nonce never fails for a width. -/
theorem narrow_nonce (sender : Address) : (contracts.nonce sender).Narrow :=
  (narrow_wordOf _ _).bind fun _ => .done _

/-- Reading a balance of a token never fails for a width. -/
theorem narrow_tokenBalance (token holder : Address) : (tokenBalance token holder).Narrow :=
  (narrow_wordOf _ _).bind fun _ => .done _

/-- Waiting for a transaction never fails for a width. -/
theorem narrow_settled (sending : Context) (layer : Layer) (waiting : Context)
    (transaction : Transaction) : (settled sending layer waiting transaction).Narrow := by
  apply Narrow.ask
  intro (sent : Except String Hash)
  cases sent with
  | error text => exact .fail rfl
  | ok hash =>
      apply Narrow.ask
      intro (receipt : Except String (Option TransactionReceipt))
      cases receipt with
      | error text => exact .fail rfl
      | ok receipt => exact .done receipt

/-- Funding an account never fails for a width. -/
theorem narrow_fund (account : Address) (amount : Uint256) : (contracts.fund account amount).Narrow := by
  unfold fund
  split
  · exact .done ()
  · split
    · refine (narrow_settled _ _ _ _).bind fun receipt => ?_
      split
      · exact .fail rfl
      · split
        · exact .done ()
        · exact .fail rfl
    · refine (narrow_settled _ _ _ _).bind fun receipt => ?_
      split
      · exact .fail rfl
      · exact .done ()
    · exact .done ()

end Contracts

/-! ## The bundler -/

/-- A text that is no hash is not refused for a width. -/
theorem Hash.width?_of_parse {text : String} {failure : Failure}
    (unread : Hash.parse text = .error failure) : failure.width? = none := by
  unfold Hash.parse at unread
  split at unread
  · cases unread
    rfl
  · split at unread
    · cases unread
    · cases unread
      rfl

/-- A text that is no quantity is not refused for a width. -/
theorem Uint256.width?_of_parseQuantity {text : String} {failure : Failure}
    (unread : parseQuantity text = .error failure) : failure.width? = none := by
  unfold parseQuantity at unread
  cases read : ofQuantity text.toList with
  | ok number =>
      rw [read] at unread
      cases unread
  | error fault =>
      rw [read] at unread
      cases unread
      rfl

namespace Bundler

open Json (Value)

variable {failure : Failure}

/-- A member that is no quantity is not refused for a width. -/
theorem width?_of_quantityMember {result : Value} {key : String}
    (unread : quantityMember result key = .error failure) : failure.width? = none := by
  unfold quantityMember at unread
  split at unread
  · exact Uint256.width?_of_parseQuantity unread
  · cases unread
    rfl

/-- A result that is no estimate is not refused for a width. -/
theorem width?_of_gasEstimate {result : Value} (unread : gasEstimate result = .error failure) :
    failure.width? = none := by
  rcases Outcome.bind_eq_error unread with failed | ⟨_, -, unread⟩
  · exact width?_of_quantityMember failed
  rcases Outcome.bind_eq_error unread with failed | ⟨_, -, unread⟩
  · exact width?_of_quantityMember failed
  rcases Outcome.bind_eq_error unread with failed | ⟨_, -, ⟨⟩⟩
  exact width?_of_quantityMember failed

/-- A result that is no hash of an operation is not refused for a width. -/
theorem width?_of_operationHash {result : Value} (unread : operationHash result = .error failure) :
    failure.width? = none := by
  unfold operationHash at unread
  split at unread
  · exact Hash.width?_of_parse unread
  · cases unread
    rfl

/-- A result that is no receipt is not refused for a width. -/
theorem width?_of_receipt {result : Value} (unread : receipt result = .error failure) :
    failure.width? = none := by
  unfold receipt at unread
  split at unread
  · cases unread
  · split at unread
    · cases unread
      rfl
    · cases unread

/-- A result that is no tip is not refused for a width. -/
theorem width?_of_priorityFee {result : Value} (unread : priorityFee result = .error failure) :
    failure.width? = none := by
  unfold priorityFee at unread
  split at unread
  · exact Uint256.width?_of_parseQuantity unread
  · cases unread
    rfl

/-- A reply without a result is not refused for a width. -/
theorem width?_of_result {method : String} {status : Nat} {document : Value}
    (unread : result method status document = .error failure) : failure.width? = none := by
  unfold result at unread
  split at unread
  · cases unread
    rfl
  · split at unread
    · split at unread
      · cases unread
      · cases unread
        rfl
    · cases unread
      rfl

/-- Calling a method of the bundler never fails for a width. -/
theorem narrow_call (url method : String) (params : List Value) : (call url method params).Narrow := by
  have posts : (Http.post url (callBody method params)).Narrow := by
    apply Narrow.ask
    intro (reply : Except String HttpReply)
    cases reply with
    | error text => exact .fail rfl
    | ok reply => exact .done reply
  refine posts.bind fun reply => Narrow.bind (.ofExcept ?_) fun document => .ofExcept ?_
  · intro failure unread
    unfold HttpReply.document at unread
    split at unread
    · cases unread
    · cases unread
      rfl
  · intro failure unread
    exact width?_of_result unread

/-- Asking the bundler never fails for a width, if reading the result does not. -/
theorem narrow_asked {α : Type} (url method : String) (params : List Value)
    {read : Value → Except Failure α}
    (reads : ∀ result failure, read result = .error failure → failure.width? = none) :
    (asked url method params read).Narrow :=
  (narrow_call url method params).bind fun result => .ofExcept (reads result)

end Bundler

/-! ## The relay -/

namespace Relay

variable {α : Type} {exchanges : List (Exchange Machine)} {outcome : Except Failure α}

/-- The outcome of an attempt at narrow work is no failure for a width. -/
theorem narrow_of_attempt {work : MachineWork α} (narrow : work.Narrow)
    (ends : (work.attempt : MachineWork (Except Failure α)).Ends exchanges (.ok outcome)) :
    ∀ failure, outcome = .error failure → failure.width? = none := by
  obtain ⟨_, ⟨⟩, ends⟩ := ends.attempt
  rintro failure rfl
  exact narrow.of_ends ends

/-- Work with the node is as narrow through a machine. -/
theorem narrow_ofNode (relay : Relay) {work : NodeWork α} (narrow : work.Narrow) :
    (Machine.ofNode relay.node work).Narrow :=
  narrow.interpret fun _ => .ask .done

/-- Work with endpoints is as narrow through a machine. -/
theorem narrow_ofHttp {work : HttpWork α} (narrow : work.Narrow) : (Machine.ofHttp work).Narrow :=
  narrow.interpret fun _ => .ask .done

/-- The lack of a key is not a matter of width. -/
theorem narrow_signature (key : Option SecretKey) (setting : String) (hash : Hash) :
    ∀ failure, signature key setting hash = .error failure → failure.width? = none := by
  intro failure missing
  cases key with
  | some key => cases missing
  | none =>
      cases missing
      rfl

/-- A relay never blames a width, whatever the machine answers. -/
theorem candid_answer (relay : Relay) {request : ServiceRequest} {reply : request.Answer}
    (answers : (relay.answer request).Ends exchanges (.ok reply)) : request.Candid reply := by
  have node {β : Type} {work : NodeWork β} {found : Except Failure β} (narrow : work.Narrow)
      (ends : (relay.fromNode work).Ends exchanges (.ok found)) (failure : Failure)
      (reports : Outcome.error? found = some failure) : failure.width? = none :=
    narrow_of_attempt (relay.narrow_ofNode narrow) ends failure (Outcome.error?_eq_some_iff.mp reports)
  have bundler {β : Type} {work : HttpWork β} {found : Except Failure β} (narrow : work.Narrow)
      (ends : (fromBundler work).Ends exchanges (.ok found)) (failure : Failure)
      (reports : Outcome.error? found = some failure) : failure.width? = none :=
    narrow_of_attempt (narrow_ofHttp narrow) ends failure (Outcome.error?_eq_some_iff.mp reports)
  have blames (failure : Failure) (reports : request.failure? reply = some failure) :
      failure.width? = none := by
    cases request with
    | codeAt account => exact node (ChainNode.narrow_lookUp _ _ _ _) answers failure reports
    | gasPrice => exact node (ChainNode.narrow_lookUp _ _ _ _) answers failure reports
    | chainId => exact node Chain.narrow_chainId answers failure reports
    | balanceOf account => exact node (ChainNode.narrow_lookUp _ _ _ _) answers failure reports
    | estimate operation entryPoint =>
        exact bundler (Bundler.narrow_asked _ _ _ fun _ _ => Bundler.width?_of_gasEstimate) answers
          failure reports
    | send operation entryPoint =>
        exact bundler (Bundler.narrow_asked _ _ _ fun _ _ => Bundler.width?_of_operationHash) answers
          failure reports
    | receipt hash =>
        exact bundler (Bundler.narrow_asked _ _ _ fun _ _ => Bundler.width?_of_receipt) answers
          failure reports
    | priorityFee =>
        exact bundler (Bundler.narrow_asked _ _ _ fun _ _ => Bundler.width?_of_priorityFee) answers
          failure reports
    | counterfactualAddress owner salt =>
        exact node (relay.contracts.narrow_counterfactualAddress owner salt) answers failure reports
    | nonce sender => exact node (relay.contracts.narrow_nonce sender) answers failure reports
    | operationHash operation => exact node (Contracts.narrow_wordOf _ _) answers failure reports
    | paymasterHash paymaster operation window =>
        exact node (Contracts.narrow_wordOf _ _) answers failure reports
    | fund account amount =>
        exact node (relay.contracts.narrow_fund account amount) answers failure reports
    | tokenBalance token holder =>
        exact node (Contracts.narrow_tokenBalance token holder) answers failure reports
    | createAccountCallData owner salt =>
        obtain ⟨-, ⟨⟩⟩ := answers
        cases reports
    | ownerSign hash =>
        obtain ⟨-, ⟨⟩⟩ := answers
        exact narrow_signature _ _ hash failure (Outcome.error?_eq_some_iff.mp reports)
    | paymasterSign hash =>
        obtain ⟨-, ⟨⟩⟩ := answers
        exact narrow_signature _ _ hash failure (Outcome.error?_eq_some_iff.mp reports)
    | _ => cases reports
  intro failure fault reports blamed
  cases (blames failure reports).symm.trans blamed

/-- A failure of the node or the bundler is an answer, too. -/
theorem not_ends_answer_error (relay : Relay) (request : ServiceRequest) (failure : Failure) :
    ¬ (relay.answer request).Ends exchanges (.error failure) := by
  intro fails
  cases request with
  | createAccountCallData | ownerSign | paymasterSign | acquire | release => cases fails.2
  | now | uptime | pause | warn =>
      obtain ⟨_, _, -, -, ⟨⟩⟩ := fails
  | _ =>
      obtain ⟨_, ⟨⟩, -⟩ := fails.attempt

/-- A consultation through a relay is one whose questions the relay has served. -/
theorem serves_of_consult (relay : Relay) {consultation : Consultation α}
    (ends : (relay.consult consultation).Ends exchanges outcome) :
    ∃ answered, consultation.Ends answered outcome ∧
      Dialogue.Serves relay.answer answered exchanges :=
  ends.of_interpret fun request _ failure => relay.not_ends_answer_error request failure

/-- Whatever the machine does, a consultation through a relay is one with candid answers. -/
theorem exists_candid_exchanges (relay : Relay) {consultation : Consultation α}
    (ends : (relay.consult consultation).Ends exchanges outcome) :
    ∃ answered, consultation.Ends answered outcome ∧ Dialogue.Serves relay.answer answered exchanges ∧
      ∀ exchange ∈ answered, exchange.request.Candid exchange.reply := by
  obtain ⟨answered, ends, serves⟩ := relay.serves_of_consult ends
  exact ⟨answered, ends, serves, serves.forall_mem fun _ _ => relay.candid_answer⟩

end Relay

end AccountRelay
