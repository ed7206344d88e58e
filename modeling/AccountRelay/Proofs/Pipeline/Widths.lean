import AccountRelay.Proofs.Amounts
import AccountRelay.Proofs.Deployment
import AccountRelay.Proofs.LocalNet.Candor
import AccountRelay.Proofs.Pipeline.Candor
import AccountRelay.Proofs.Pipeline.Packing
import AccountRelay.Proofs.Relay

/-! # Widths come before signatures

In the course of an attempt the operation that is packed first decides: all that is packed later has the
same shared numbers, and nobody signs or is handed anything before it has packed. That is the conduct
of an attempt among candid parties (`Shown.minds_send`).

So either everything in a run packs or nothing does (`Shown.IsShown.packs_of_packs`). A run that fails
because a number is too wide has committed nobody, and the number is none that a loaded deployment
bounds (`Shown.IsShown.of_tooWide`).
-/

namespace AccountRelay

open Outcome (error?)

namespace Operation

/-- Whether an operation has a packed form. -/
def Packs (operation : Operation) : Prop :=
  ∃ packed, operation.pack = .ok packed

/-- Whether a paymaster that pays for the operation may use the gas of a deployment. -/
def PaysWith (operation : Operation) (gas : PaymasterGas) : Prop :=
  operation.activePaymaster.isSome → operation.paymasterGas = gas

/-- A paymaster uses the gas of its deployment, whatever its data. -/
theorem PaysWith.withData {operation : Operation} {gas : PaymasterGas} (pays : operation.PaysWith gas)
    (data : Bytes) : PaysWith { operation with paymasterData := data } gas :=
  pays

/-- Operations with the same shared numbers pack alike. -/
theorem packs_congr {operation other : Operation}
    (same : operation.sharedNumbers = other.sharedNumbers) : operation.Packs ↔ other.Packs := by
  unfold Packs
  rw [← Outcome.error?_eq_none_iff, ← Outcome.error?_eq_none_iff, error?_pack, error?_pack, same]

end Operation

namespace Shown

/-- What the first packing decides: an operation that is packed behind it shares its numbers, and
commitments come only behind it, once it has succeeded. -/
def Permits (gas : PaymasterGas) (first : Option Operation) :
    (Services.sum Packing).Request → Prop
  | .inr operation => operation.PaysWith gas ∧
      ∀ head, first = some head → operation.sharedNumbers = head.sharedNumbers
  | .inl request => request.IsCommitting →
      ∃ head, first = some head ∧ head.Packs ∧ ∀ operation entryPoint,
        request = .send operation entryPoint → operation.sharedNumbers = head.sharedNumbers

/-- The conduct of an attempt among candid parties. The state is the operation that was packed first. -/
def conduct (gas : PaymasterGas) : Conduct (Services.sum Packing) (Option Operation) where
  permits := Permits gas
  expects
    | .inl request, reply => request.Candid reply
    | .inr operation, packed => packed = operation.pack
  next
    | first, .inl _, _ => first
    | first, .inr operation, _ => some (first.getD operation)

/-- Whether a failure that blames a width is the one of the first packing. -/
def Accounts (failure : Failure) (first : Option Operation) : Prop :=
  ∀ fault, failure.width? = some fault → ∃ head, first = some head ∧ head.pack = .error fault

/-- A failure that blames no width need not be accounted for. -/
theorem accounts_of_narrow {failure : Failure} (narrow : failure.width? = none)
    (first : Option Operation) : Accounts failure first := by
  intro fault blamed
  cases narrow.symm.trans blamed

variable {α β : Type} {gas : PaymasterGas} {first : Option Operation}

/-- Work that keeps the conduct, and whose value satisfies a condition. -/
def Minds (gas : PaymasterGas) (work : ShownWork α) (holds : α → Option Operation → Prop)
    (first : Option Operation) : Prop :=
  work.Keeps (conduct gas) (fun outcome after => match outcome with
    | .ok value => holds value after
    | .error failure => Accounts failure after) first

namespace Minds

variable {holds : α → Option Operation → Prop} {work : ShownWork α}

/-- Work that minds widths and goes on with such work minds them. -/
theorem bind {holds' : β → Option Operation → Prop} {next : α → ShownWork β}
    (minds : Minds gas work holds first)
    (follows : ∀ value after, holds value after → Minds gas (next value) holds' after) :
    Minds gas (work >>= next) holds' first :=
  Dialogue.Keeps.bind minds follows fun _ _ accounts => accounts

/-- An outcome minds widths if its value satisfies the condition and its failure is not for a width. -/
theorem ofExcept {outcome : Except Failure α} (found : ∀ value, outcome = .ok value → holds value first)
    (narrow : ∀ failure, outcome = .error failure → failure.width? = none) :
    Minds gas (.ofExcept outcome) holds first := by
  cases outcome with
  | ok value => exact found value rfl
  | error failure => exact accounts_of_narrow (narrow failure rfl) first

/-- What commits nobody minds widths at any time. -/
theorem of_plain {consultation : Consultation α} {found : α → Prop}
    (plain : consultation.Plain found) (first : Option Operation) :
    Minds gas consultation.inl (fun value after => found value ∧ after = first) first := by
  induction consultation with
  | done value => exact ⟨plain, rfl⟩
  | fail failure => exact accounts_of_narrow plain first
  | ask request follow ih =>
      refine ⟨fun committing => absurd committing plain.1, ?_⟩
      intro reply candid
      exact ih reply (plain.2 reply candid)

/-- Work minds widths within a context as well. -/
theorem within (minds : Minds gas work holds first) (context : Context) :
    Minds gas (work.mapError (.within context)) holds first := by
  apply Dialogue.Keeps.mapError
  apply minds.mono
  rintro (failure | value) _ ended
  · exact ended
  · exact ended

/-- A question whose answer is passed on. -/
theorem question (request : ServiceRequest) (permitted : Permits gas first (.inl request))
    (outcome : request.Answer → Except Failure α)
    (accounted : ∀ reply failure, request.Candid reply → outcome reply = .error failure →
      Accounts failure first) :
    Minds gas (Services.asking request fun reply => .ofExcept (outcome reply)).inl
      (fun _ after => after = first) first := by
  refine ⟨permitted, ?_⟩
  intro reply candid
  change Minds gas (Dialogue.ofExcept (outcome reply)).inl _ first
  cases answered : outcome reply with
  | ok value => rfl
  | error failure => exact accounted reply failure candid answered

end Minds

/-- Whether what was packed first has the numbers of an operation, if anything was packed. -/
def Agrees (operation : Operation) (first : Option Operation) : Prop :=
  ∀ head, first = some head → operation.sharedNumbers = head.sharedNumbers

/-- As long as nothing was packed there is nothing to agree with. -/
theorem agrees_none (operation : Operation) : Agrees operation none := by
  rintro _ ⟨⟩

/-- Whether something has been packed, and it has the numbers of an operation. -/
def HasPacked (operation : Operation) (first : Option Operation) : Prop :=
  ∃ head, first = some head ∧ head.Packs ∧ operation.sharedNumbers = head.sharedNumbers

/-- The data of a paymaster are no part of what was packed together with others. -/
theorem HasPacked.withData {operation : Operation} (packed : HasPacked operation first) (data : Bytes) :
    HasPacked { operation with paymasterData := data } first :=
  packed

/-- What was packed first has the numbers that it has. -/
theorem HasPacked.agrees {operation : Operation} (packed : HasPacked operation first) :
    Agrees operation first := by
  obtain ⟨head, rfl, -, same⟩ := packed
  rintro _ ⟨⟩
  exact same

/-! ## Stages -/

variable {operation : Operation}

/-- Packing minds widths if the operation agrees with what was packed first, which is then packed. -/
theorem minds_pack (pays : operation.PaysWith gas) (agrees : Agrees operation first) :
    Minds gas (pack operation) (fun _ after => HasPacked operation after) first := by
  refine ⟨⟨pays, agrees⟩, ?_⟩
  rintro _ rfl
  have same : operation.sharedNumbers = (first.getD operation).sharedNumbers := by
    cases first with
    | none => rfl
    | some head => exact agrees head rfl
  change Minds gas (.ofExcept (operation.pack.mapError .tooWide)) _ (some (first.getD operation))
  cases packs : operation.pack with
  | ok packed => exact ⟨_, rfl, (Operation.packs_congr same).mp ⟨packed, packs⟩, same⟩
  | error fault =>
      rintro _ ⟨⟩
      refine ⟨_, rfl, ?_⟩
      rw [← Outcome.error?_eq_some_iff] at packs ⊢
      rw [← packs, Operation.error?_pack, Operation.error?_pack, same]

/-- A signature is asked for behind the first packing. -/
theorem minds_signature (context : Context) (request : ServiceRequest)
    (outcome : request.Answer → Except Failure α) (packed : HasPacked operation first)
    (no_send : ∀ operation entryPoint, request ≠ .send operation entryPoint)
    (passed_on : ∀ reply failure, outcome reply = .error failure →
      request.failure? reply = some failure) :
    Minds gas (Services.within context (Services.asking request fun reply =>
      .ofExcept (outcome reply))).inl (fun _ after => after = first) first := by
  rw [Services.within, Dialogue.inl_mapError]
  apply Minds.within
  apply Minds.question request
  · intro _
    obtain ⟨head, rfl, packs, -⟩ := packed
    exact ⟨head, rfl, packs, fun _ _ sends => absurd sends (no_send _ _)⟩
  · intro reply failure candid failed
    exact accounts_of_narrow (candid.width?_eq_none no_send (passed_on reply failure failed)) first

/-- Authorizing minds widths, and what it authorizes was packed. -/
theorem minds_authorize (validity now : UInt64) (pays : operation.PaysWith gas) :
    Minds gas (authorize validity now operation) (fun authorized after =>
      HasPacked authorized.1 after ∧ authorized.1.PaysWith gas) none := by
  unfold authorize
  cases operation.activePaymaster with
  | none => exact accounts_of_narrow rfl none
  | some paymaster =>
      have timely : Minds gas (.ofExcept (ValidityWindow.startingAt now validity))
          (fun _ after => after = none) none := by
        refine Minds.ofExcept (fun _ _ => rfl) ?_
        intro failure late
        rw [(ValidityWindow.startingAt_eq_error_iff.mp late).1]
        rfl
      apply timely.bind
      rintro window _ rfl
      apply (minds_pack pays (agrees_none operation)).bind
      intro packed first has_packed
      apply (Minds.of_plain (Services.plain_paymasterHash paymaster packed window) first).bind
      rintro hash _ ⟨-, rfl⟩
      have signs : Minds gas (Services.within .paymasterSigner (Services.paymasterSign hash)).inl
          (fun _ after => after = _) _ :=
        minds_signature _ (.paymasterSign hash) id has_packed (fun _ _ => nofun) (by rintro _ _ ⟨⟩; rfl)
      apply signs.bind
      rintro signature _ rfl
      exact ⟨has_packed.withData _, pays.withData _⟩

/-- Settling minds widths, and what is settled agrees with what was packed on the way, if anything was.
-/
theorem minds_settle (pipeline : Pipeline) (request : Request) {draft : Draft .estimated}
    (pays : draft.operation.PaysWith gas) :
    Minds gas (settle pipeline request draft) (fun settled after =>
      Agrees settled.operation after ∧ settled.operation.PaysWith gas) none := by
  unfold settle
  split
  · apply (Minds.of_plain Services.plain_now none).bind
    rintro now _ ⟨-, rfl⟩
    apply (minds_authorize pipeline.deployment.paymasterValidity now pays).bind
    rintro ⟨operation, window⟩ first ⟨has_packed, pays⟩
    exact ⟨has_packed.agrees, pays⟩
  · unfold Draft.withoutPaymaster
    split
    · exact accounts_of_narrow rfl none
    · exact ⟨agrees_none draft.operation, pays⟩

/-- Signing minds widths: nobody signs before the operation has packed. -/
theorem minds_sign {draft : Draft .settled} (pays : draft.operation.PaysWith gas)
    (agrees : Agrees draft.operation first) :
    Minds gas (sign draft) (fun signed after => HasPacked signed.operation after ∧
      signed.operation.PaysWith gas) first := by
  have packing : Minds gas (pack { draft.operation with signature := [] })
      (fun _ after => HasPacked draft.operation after) first := minds_pack pays agrees
  apply packing.bind
  intro packed first has_packed
  apply (Minds.of_plain (Services.plain_operationHash packed) first).bind
  rintro hash _ ⟨-, rfl⟩
  have signs : Minds gas (Services.within .ownerSigner (Services.ownerSign hash)).inl
      (fun _ after => after = _) _ :=
    minds_signature _ (.ownerSign hash) id has_packed (fun _ _ => nofun) (by rintro _ _ ⟨⟩; rfl)
  apply signs.bind
  rintro signature _ rfl
  exact ⟨has_packed, pays⟩

/-- The last check minds widths: it packs what has packed before. -/
theorem minds_crossCheck (pipeline : Pipeline) {signed : SignedOperation}
    (pays : signed.operation.PaysWith gas) (has_packed : HasPacked signed.operation first) :
    Minds gas (crossCheck pipeline signed) (fun _ after => HasPacked signed.operation after) first := by
  apply (minds_pack pays has_packed.agrees).bind
  intro packed first has_packed
  split
  · apply (Minds.of_plain (Services.plain_warn .localHash) first).mono
    rintro (failure | _) _ ended
    · exact ended
    · rw [ended.2]
      exact has_packed
  · exact has_packed

/-- Submission minds widths: what it hands over has packed. -/
theorem minds_submit (entryPoint : Address) {signed : SignedOperation}
    (has_packed : HasPacked signed.operation first) :
    Minds gas (Submission.submit entryPoint signed).inl (fun _ _ => True) first := by
  have sends : Minds gas (Services.send signed.operation entryPoint).inl
      (fun _ after => after = first) first := by
    obtain ⟨head, rfl, ⟨packed, packs⟩, same⟩ := has_packed
    apply Minds.question (.send signed.operation entryPoint)
    · intro _
      refine ⟨head, rfl, ⟨packed, packs⟩, ?_⟩
      rintro _ _ ⟨⟩
      exact same
    · intro reply failure candid failed fault blamed
      obtain ⟨_, _, ⟨⟩, refused⟩ := candid failure fault (Outcome.error?_eq_some_iff.mpr failed) blamed
      obtain ⟨packed, packs⟩ := (Operation.packs_congr same).mpr ⟨packed, packs⟩
      cases packs.symm.trans refused
  unfold Submission.submit
  rw [Dialogue.inl_bind]
  apply sends.bind
  rintro hash _ rfl
  split
  · apply (Minds.of_plain (Services.plain_warn .bundlerHash) _).bind
    intro _ _ _
    trivial
  · trivial

/-- The gas of a draft's paymaster is that of the deployment. -/
theorem paysWith_draft (pipeline : Pipeline) (request : Request) (wallet : Resolution) (nonce : Uint256) :
    (pipeline.draft request wallet nonce).operation.PaysWith pipeline.deployment.paymasterGas := by
  unfold Pipeline.draft
  split
  · exact fun _ => rfl
  · rintro ⟨⟩

/-- An attempt for a resolved wallet minds widths from its first packing on. -/
theorem minds_sendResolved (pipeline : Pipeline) (request : Request) (wallet : Resolution) :
    Minds pipeline.deployment.paymasterGas (sendResolved pipeline request wallet) (fun _ _ => True)
      none := by
  apply (Minds.of_plain (Services.plain_nonce wallet.sender) none).bind
  rintro nonce _ ⟨-, rfl⟩
  have pays := paysWith_draft pipeline request wallet nonce
  apply (Minds.of_plain (Draft.plain_estimate _ _ _) none).bind
  rintro ⟨_⟩ _ ⟨⟨gas, fees, rfl⟩, rfl⟩
  apply (minds_settle pipeline request pays).bind
  rintro settled first ⟨agrees, pays⟩
  apply (minds_sign pays agrees).bind
  rintro signed first ⟨has_packed, pays⟩
  apply (minds_crossCheck pipeline pays has_packed).bind
  intro _ first has_packed
  exact minds_submit pipeline.deployment.entryPoint has_packed

/-- Under a lock work minds widths as without it. -/
theorem minds_holding {holds : α → Option Operation → Prop} {action : ShownWork α} (sender : Address)
    (minds : Minds gas action holds first) : Minds gas (holding sender action) holds first := by
  refine ⟨fun committing => committing.elim, fun _ _ => ?_⟩
  have attempted : Minds gas (action.attempt : ShownWork (Except Failure α)) (fun outcome after =>
      match outcome with
      | .ok value => holds value after
      | .error failure => Accounts failure after) first :=
    Dialogue.Keeps.attempt minds
  apply attempted.bind
  intro outcome after ended
  refine ⟨fun committing => committing.elim, fun _ _ => ?_⟩
  cases outcome with
  | ok value => exact ended
  | error failure => exact ended

/-- An attempt among candid parties keeps the conduct: the first packing decides. -/
theorem minds_send (pipeline : Pipeline) (request : Request) :
    Minds pipeline.deployment.paymasterGas (send pipeline request) (fun _ _ => True) none := by
  apply (Minds.of_plain (pipeline.resolver.plain_senderAddress request.wallet) none).bind
  rintro sender _ ⟨-, rfl⟩
  apply minds_holding
  apply (Minds.of_plain (pipeline.resolver.plain_resolve request.wallet) none).bind
  rintro wallet _ ⟨-, rfl⟩
  exact minds_sendResolved pipeline request wallet

/-! ## Runs -/

variable {shown : List (Exchange (Services.sum Packing))} {after : Option Operation}

/-- What was packed first stays that. -/
theorem eq_of_allows {head : Operation} (allows : (conduct gas).Allows (some head) shown after) :
    after = some head := by
  induction shown with
  | nil => exact allows
  | cons exchange rest ih =>
      obtain ⟨request | operation, reply⟩ := exchange
      · exact ih allows.2
      · exact ih allows.2

/-- What is permitted when it is asked is permitted in the end. -/
theorem permits_of_allows (allows : (conduct gas).Allows first shown after) :
    ∀ exchange ∈ shown, Permits gas after exchange.request := by
  induction shown generalizing first with
  | nil => exact nofun
  | cons exchange rest ih =>
      obtain ⟨permitted, allows⟩ := allows
      refine List.forall_mem_cons.mpr ⟨?_, ih allows⟩
      obtain ⟨request | operation, reply⟩ := exchange
      · intro committing
        obtain ⟨head, rfl, -⟩ := permitted committing
        rw [eq_of_allows allows]
        exact permitted committing
      · rw [eq_of_allows allows]
        refine ⟨permitted.1, ?_⟩
        rintro _ ⟨⟩
        cases first with
        | none => rfl
        | some head => exact permitted.2 head rfl

/-- Who has packed something has packed something first. -/
theorem exists_of_packing (allows : (conduct gas).Allows first shown after) {operation : Operation}
    {reply : Except TooWide PackedOperation} (asked : ⟨.inr operation, reply⟩ ∈ shown) :
    ∃ head, after = some head := by
  induction shown generalizing first with
  | nil => nomatch asked
  | cons exchange rest ih =>
      rcases List.mem_cons.mp asked with rfl | later
      · exact ⟨_, eq_of_allows allows.2⟩
      · exact ih allows.2 later

/-- What was packed first keeps to the gas of the deployment. -/
theorem paysWith_of_allows (allows : (conduct gas).Allows first shown after)
    (paid : ∀ head, first = some head → head.PaysWith gas) :
    ∀ head, after = some head → head.PaysWith gas := by
  induction shown generalizing first with
  | nil =>
      obtain rfl : after = first := allows
      exact paid
  | cons exchange rest ih =>
      obtain ⟨permitted, allows⟩ := allows
      obtain ⟨request | operation, reply⟩ := exchange
      · exact ih allows paid
      · apply ih allows
        rintro _ ⟨⟩
        cases first with
        | none => exact permitted.1
        | some head => exact paid head rfl

/-- All that was packed, or handed to the bundler, has the numbers of what was packed first. -/
theorem sharedNumbers_of_allows (allows : (conduct gas).Allows first shown after)
    {operation : Operation} (member : operation ∈ shown.filterMap packed?) :
    ∃ head, after = some head ∧ operation.sharedNumbers = head.sharedNumbers := by
  obtain ⟨⟨request, reply⟩, asked, named⟩ := List.mem_filterMap.mp member
  have permitted := permits_of_allows allows _ asked
  cases request with
  | inr own =>
      cases named
      obtain ⟨head, rfl⟩ := exists_of_packing allows asked
      exact ⟨head, rfl, permitted.2 head rfl⟩
  | inl request =>
      cases request with
      | send own entryPoint =>
          cases named
          obtain ⟨head, first, -, same⟩ := permitted trivial
          exact ⟨head, first, same _ entryPoint rfl⟩
      | _ => cases named

end Shown

/-! ## Attempts -/

/-- The numbers of an operation that can be too wide when its paymaster's gas is not. -/
def Operation.estimatedFields : List String :=
  ["verificationGasLimit", "callGasLimit", "maxPriorityFeePerGas", "maxFeePerGas"]

/-- A number that is too wide was estimated or looked up, if the gas of the paymaster is not. -/
theorem Operation.field_of_pack {operation : Operation} {gas : PaymasterGas} {fault : TooWide}
    (fails : operation.pack = .error fault) (pays : operation.PaysWith gas) (narrow : gas.IsNarrow) :
    fault.field ∈ estimatedFields := by
  rw [← Outcome.error?_eq_some_iff, error?_pack] at fails
  obtain ⟨number, member, refused⟩ := List.exists_of_findSome?_eq_some fails
  unfold Labelled.tooWide? at refused
  split at refused
  · cases refused
  · rename_i wide
    cases refused
    simp only [sharedNumbers, List.mem_append, List.mem_cons, List.not_mem_nil, or_false] at member
    rcases member with ((rfl | rfl) | rfl | rfl) | sponsored
    · simp [estimatedFields]
    · simp [estimatedFields]
    · simp [estimatedFields]
    · simp [estimatedFields]
    · split at sponsored
      · rename_i active
        rw [pays active] at sponsored
        simp only [List.mem_cons, List.not_mem_nil, or_false] at sponsored
        rcases sponsored with rfl | rfl
        · exact absurd narrow.1 wide
        · exact absurd narrow.2 wide
      · cases sponsored

namespace Shown

variable {pipeline : Pipeline} {request : Request} {exchanges : List (Exchange Services)}
  {outcome : Except Failure Hash}

/-- What an attempt with candid answers tells of widths when all that is packed is shown. -/
theorem IsShown.exists_first (is_shown : IsShown pipeline request exchanges outcome shown)
    (candid : ∀ exchange ∈ exchanges, exchange.request.Candid exchange.reply) :
    ∃ after, (conduct pipeline.deployment.paymasterGas).Allows none shown after ∧
      ∀ failure, outcome = .error failure → Accounts failure after := by
  have expected : ∀ exchange ∈ shown, (conduct pipeline.deployment.paymasterGas).expects
      exchange.request exchange.reply := by
    rintro ⟨request | operation, reply⟩ member
    · apply candid ⟨request, reply⟩
      rw [← is_shown.asked]
      exact List.mem_filterMap.mpr ⟨_, member, rfl⟩
    · exact is_shown.packs ⟨operation, reply⟩ (List.mem_filterMap.mpr ⟨_, member, rfl⟩)
  obtain ⟨after, allows, ended⟩ := (minds_send pipeline request).allows is_shown.ends expected
  refine ⟨after, allows, ?_⟩
  rintro failure rfl
  exact ended

/-- Of the operations that are packed in an attempt, either all pack or none does. -/
theorem IsShown.packs_of_packs (is_shown : IsShown pipeline request exchanges outcome shown)
    (candid : ∀ exchange ∈ exchanges, exchange.request.Candid exchange.reply)
    {one other : Operation} (own : one ∈ shown.filterMap packed?)
    (also : other ∈ shown.filterMap packed?) (packs : one.Packs) : other.Packs := by
  obtain ⟨after, allows, -⟩ := is_shown.exists_first candid
  obtain ⟨head, rfl, same⟩ := sharedNumbers_of_allows allows own
  obtain ⟨_, ⟨⟩, shared⟩ := sharedNumbers_of_allows allows also
  exact (Operation.packs_congr (same.trans shared.symm)).mp packs

/-- An attempt that fails for a width has committed nobody, and the width is one that the deployment does
not bound. -/
theorem IsShown.of_tooWide (is_shown : IsShown pipeline request exchanges outcome shown)
    (candid : ∀ exchange ∈ exchanges, exchange.request.Candid exchange.reply) {failure : Failure}
    {fault : TooWide} (fails : outcome = .error failure) (blamed : failure.width? = some fault) :
    (∀ exchange ∈ exchanges, ¬ exchange.request.IsCommitting) ∧
      (pipeline.deployment.paymasterGas.IsNarrow → fault.field ∈ Operation.estimatedFields) := by
  obtain ⟨after, allows, accounts⟩ := is_shown.exists_first candid
  obtain ⟨head, rfl, refused⟩ := accounts failure fails fault blamed
  constructor
  · intro exchange asked committing
    rw [← is_shown.asked] at asked
    obtain ⟨⟨request | operation, reply⟩, member, same⟩ := List.mem_filterMap.mp asked
    · cases same
      obtain ⟨_, ⟨⟩, ⟨packed, packs⟩, -⟩ := permits_of_allows allows _ member committing
      cases packs.symm.trans refused
    · cases same
  · exact Operation.field_of_pack refused (paysWith_of_allows allows nofun head rfl)

end Shown

/-- A net in memory answers an attempt candidly, keeps what it was asked, and has been sent nothing when the
attempt fails for a width. -/
theorem LocalNet.exists_candid_run (net : LocalNet) (pipeline : Pipeline) (request : Request) :
    ∃ exchanges,
      (pipeline.send request).Ends exchanges (net.consult (pipeline.send request)).1 ∧
      (∀ exchange ∈ exchanges, exchange.request.Candid exchange.reply) ∧
      (net.consult (pipeline.send request)).2.asked =
        ((exchanges.map (·.request)).filter (·.isRemote)).reverse ++ net.asked ∧
      ∀ failure fault, (net.consult (pipeline.send request)).1 = .error failure →
        failure.width? = some fault → (net.consult (pipeline.send request)).2.sent = net.sent := by
  obtain ⟨exchanges, ends, follows⟩ :=
    Dialogue.exists_follows_run LocalNet.answer (pipeline.send request) net
  have candid := candid_of_follows follows
  refine ⟨exchanges, ends, candid, asked_of_follows follows, ?_⟩
  intro failure fault fails blamed
  obtain ⟨shown, is_shown⟩ := Shown.exists_isShown ends
  obtain ⟨uncommitted, -⟩ := is_shown.of_tooWide candid fails blamed
  apply sent_of_follows follows
  rintro ⟨_, reply⟩ asked operation entryPoint rfl
  exact uncommitted _ asked trivial

/-- **Widths come before signatures.** An attempt to send an operation is the one that shows its packing,
packed on the spot. So take any attempt in whose course no answer blames a width, except that of a
bundler that cannot pack what it was handed. It can be told which operations were packed in its course.
If any of these packs, or the one that the bundler was handed, all of them do. If the attempt fails
because a number is too wide, nobody was asked for a signature before and the bundler was handed
nothing; with a deployment that was loaded the number is an estimated limit or a fee. An attempt with a
net in memory is like that, whatever its settings and outages, and so is one through a relay, whatever
the machine does. -/
theorem Pipeline.width_before_signature (pipeline : Pipeline) (request : Request) :
    Shown.inPlace (Shown.send pipeline request) = pipeline.send request ∧
    (∀ exchanges outcome, (pipeline.send request).Ends exchanges outcome →
      (∀ exchange ∈ exchanges, exchange.request.Candid exchange.reply) →
        (∃ shown, Shown.IsShown pipeline request exchanges outcome shown) ∧
        (∀ shown, Shown.IsShown pipeline request exchanges outcome shown →
          ∀ one ∈ shown.filterMap Shown.packed?, ∀ other ∈ shown.filterMap Shown.packed?,
            (∃ packed, one.pack = .ok packed) → ∃ packed, other.pack = .ok packed) ∧
        ∀ failure fault, outcome = .error failure → failure.root = .tooWide fault →
          (∀ exchange ∈ exchanges, ¬ exchange.request.IsCommitting) ∧
          ∀ path rpc bundler loading,
            (Deployment.load path rpc bundler).Ends loading (.ok pipeline.deployment) →
              fault.field ∈ ["verificationGasLimit", "callGasLimit", "maxPriorityFeePerGas",
                "maxFeePerGas"]) ∧
    (∀ net : LocalNet, ∃ exchanges,
      (pipeline.send request).Ends exchanges (net.consult (pipeline.send request)).1 ∧
      (∀ exchange ∈ exchanges, exchange.request.Candid exchange.reply) ∧
      (net.consult (pipeline.send request)).2.asked =
        ((exchanges.map (·.request)).filter (·.isRemote)).reverse ++ net.asked ∧
      ∀ failure fault, (net.consult (pipeline.send request)).1 = .error failure →
        failure.root = .tooWide fault → (net.consult (pipeline.send request)).2.sent = net.sent) ∧
    ∀ (relay : Relay) machine outcome, (relay.consult (pipeline.send request)).Ends machine outcome →
      ∃ exchanges, (pipeline.send request).Ends exchanges outcome ∧
        Dialogue.Serves relay.answer exchanges machine ∧
        ∀ exchange ∈ exchanges, exchange.request.Candid exchange.reply := by
  refine ⟨Shown.inPlace_send pipeline request, ?_, ?_, ?_⟩
  · intro exchanges outcome ends candid
    obtain ⟨shown, is_shown⟩ := Shown.exists_isShown ends
    refine ⟨⟨shown, is_shown⟩, ?_, ?_⟩
    · intro other also one own another too
      exact also.packs_of_packs candid own too
    · intro failure fault fails blamed
      obtain ⟨uncommitted, bounded⟩ :=
        is_shown.of_tooWide candid fails (Failure.width?_eq_some_iff.mpr blamed)
      refine ⟨uncommitted, ?_⟩
      intro path rpc bundler loading loads
      exact bounded (Deployment.isNarrow_of_load loads)
  · intro net
    obtain ⟨exchanges, ends, candid, asked, unsent⟩ := net.exists_candid_run pipeline request
    refine ⟨exchanges, ends, candid, asked, ?_⟩
    intro failure fault fails blamed
    exact unsent failure fault fails (Failure.width?_eq_some_iff.mpr blamed)
  · intro relay machine outcome ends
    exact relay.exists_candid_exchanges ends

/-- A wallet that has code. -/
def deployedWallet : Address := .filled 20 0x11

/-- A net whose bundler asks for a tip that needs more than half a word. -/
def LocalNet.greedy : LocalNet :=
  { LocalNet.obliging with
    code := [deployedWallet]
    priorityFee := BitVec.ofNat 256 (2 ^ 128) }

/-- A request of the wallet that has code. -/
def Request.ofDeployed : Request where
  wallet := .existing deployedWallet

/-- The net whose tip is too wide has the attempt fail for the tip. -/
theorem LocalNet.greedy_refuses : (greedy.consult (Pipeline.onLocalNet.send .ofDeployed)).1 =
    .error (.tooWide ⟨"maxPriorityFeePerGas", BitVec.ofNat 256 (2 ^ 128)⟩) := by
  rfl

/-- An attempt with a loaded deployment fails because the tip is too wide, and nobody has signed. -/
theorem Pipeline.width_before_signature_greedy : ∃ exchanges fault,
    (onLocalNet.send .ofDeployed).Ends exchanges (.error (.tooWide fault)) ∧
    (∀ exchange ∈ exchanges, ¬ exchange.request.IsCommitting) ∧
    fault.field ∈ ["verificationGasLimit", "callGasLimit", "maxPriorityFeePerGas", "maxFeePerGas"] ∧
    (LocalNet.greedy.consult (onLocalNet.send .ofDeployed)).2.sent = [] := by
  obtain ⟨-, minds, served, -⟩ := onLocalNet.width_before_signature .ofDeployed
  obtain ⟨exchanges, ends, candid, -, unsent⟩ := served .greedy
  have fails := LocalNet.greedy_refuses
  obtain ⟨-, -, of_tooWide⟩ := minds exchanges _ ends candid
  obtain ⟨uncommitted, estimated⟩ := of_tooWide _ _ fails rfl
  rw [fails] at ends
  exact ⟨exchanges, _, ends, uncommitted, estimated _ _ _ _ Deployment.ends_load_onLocalNet,
    unsent _ _ fails rfl⟩

end AccountRelay
