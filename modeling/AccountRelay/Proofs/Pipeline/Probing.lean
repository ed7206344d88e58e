import AccountRelay.Proofs.Authorization
import AccountRelay.Proofs.Estimation
import AccountRelay.Proofs.LocalNet.Candor
import AccountRelay.Proofs.LocalNet.Placing
import AccountRelay.Proofs.Operation.Estimating
import AccountRelay.Proofs.Pipeline.Questions
import AccountRelay.Proofs.Relay

/-! # The gas is estimated for what is sent

An attempt that succeeds shows the bundler two operations: one whose gas is to be estimated, and then
one that is sent (`Pipeline.ends_send`). What is settled and signed in between changes neither what the
operation does nor who does it. So the first operation foreshadows the second, as long as the owner
signs with 65 bytes, which the keys of nets and of relays do (`Pipeline.estimates_what_is_sent`).
-/

namespace AccountRelay

/-- Whether a question shows the bundler an operation. -/
def ServiceRequest.shows : ServiceRequest → Bool
  | .estimate _ _ | .send _ _ => true
  | _ => false

/-- A question that shows the bundler no operation. -/
def ServiceRequest.IsDiscreet (request : ServiceRequest) : Prop :=
  request.shows = false

/-- The exchanges in which the bundler is shown an operation. -/
def Exchange.showing (exchanges : List (Exchange Services)) : List (Exchange Services) :=
  exchanges.filter fun exchange => ServiceRequest.shows exchange.request

variable {exchanges : List (Exchange Services)}

/-- What is shown in one stretch after another is shown in the order of the stretches. -/
theorem Exchange.showing_append (first rest : List (Exchange Services)) :
    showing (first ++ rest) = showing first ++ showing rest :=
  List.filter_append ..

/-- A discreet consultation shows no operation to the bundler. -/
theorem Exchange.showing_eq_nil {α : Type} {consultation : Consultation α}
    {outcome : Except Failure α} (asks : consultation.Asks ServiceRequest.IsDiscreet)
    (ends : consultation.Ends exchanges outcome) : showing exchanges = [] := by
  refine List.filter_eq_nil_iff.mpr fun exchange member => ?_
  have discreet : ServiceRequest.shows exchange.request = false := asks.of_ends ends exchange member
  rw [discreet]
  exact Bool.false_ne_true

open Exchange (showing showing_append showing_eq_nil)

/-! ## Stages -/

/-- The estimate comes first, and the operation gets gas and fees. -/
theorem Draft.ends_estimate {draft : Draft .started} {policy : GasPolicy} {entryPoint : Address}
    {estimated : Draft .estimated}
    (ends : (draft.estimate policy entryPoint).Ends exchanges (.ok estimated)) :
    ∃ raw gas fees, showing exchanges = [Estimation.probed entryPoint draft.operation (.ok raw)] ∧
      estimated.operation = { draft.operation with gas, fees } := by
  obtain ⟨own, rest, result, rfl, applied, written⟩ := ends.bind_ok
  obtain ⟨rfl, same⟩ := Dialogue.Ends.ofExcept written
  rcases Estimation.ends_apply_iff.mp applied with
    ⟨failure, -, ⟨⟩⟩ | ⟨first, rest, gas, rfl, limited, priced⟩
  · cases same
  rcases priced with ⟨failure, -, ⟨⟩⟩ | ⟨fees, priced, ⟨⟩⟩
  · cases same
  cases same
  cases limited with | answered raw raised =>
  cases priced with | answered priority gasPrice found =>
  exact ⟨raw, gas, fees, rfl, rfl⟩

/-- Settling the payment changes the paymaster's data only. -/
theorem Pipeline.ends_settle {pipeline : Pipeline} {request : Request} {draft : Draft .estimated}
    {settled : Draft .settled} (ends : (pipeline.settle request draft).Ends exchanges (.ok settled)) :
    showing exchanges = [] ∧
      ∃ data, settled.operation = { draft.operation with paymasterData := data } := by
  unfold settle at ends
  split at ends
  · obtain ⟨reading, _, now, rfl, reads, settles⟩ := ends.bind_ok
    obtain ⟨own, _, ⟨_, window⟩, rfl, drafted, rfl, ⟨⟩⟩ := settles.bind_ok
    obtain ⟨_, _, ⟨operation, _⟩, rfl, authorized, rfl, ⟨⟩⟩ := drafted.bind_ok
    obtain ⟨paymaster, packed, hash, signature, -, -, -, rfl, rfl⟩ :=
      Authorization.ends_authorize_iff.mp authorized
    have read : showing reading = [] := showing_eq_nil (Services.asks_now rfl) reads
    refine ⟨?_, _, rfl⟩
    rw [showing_append, read]
    rfl
  · unfold Draft.withoutPaymaster at ends
    split at ends
    · cases ends.2
    · obtain ⟨rfl, ⟨⟩⟩ := ends
      exact ⟨rfl, _, rfl⟩

/-- The owner's answer becomes the signature. -/
theorem Draft.ends_sign {draft : Draft .settled} {signed : SignedOperation}
    (ends : draft.sign.Ends exchanges (.ok signed)) :
    ∃ packed signature, exchanges = [⟨.operationHash packed, .ok signed.hash⟩,
        ⟨.ownerSign signed.hash, .ok signature⟩] ∧
      signed.operation = { draft.operation with signature } := by
  obtain ⟨_, _, packed, rfl, packing, packs⟩ := ends.bind_ok
  obtain ⟨rfl, -⟩ := Dialogue.Ends.ofExcept packing
  obtain ⟨_, _, hash, rfl, hashed, covered⟩ := packs.bind_ok
  obtain ⟨_, _, rfl, answered⟩ := hashed
  obtain ⟨rfl, rfl⟩ := Dialogue.Ends.ofExcept answered
  obtain ⟨_, _, signature, rfl, signs, rfl, ⟨⟩⟩ := covered.bind_ok
  obtain ⟨failure | _, _, rfl, answered⟩ := signs
  · cases answered.2
  · obtain ⟨rfl, ⟨⟩⟩ := answered
    exact ⟨packed, signature, rfl, rfl⟩

/-- The cross-check of the hash shows the bundler nothing. -/
theorem Pipeline.showing_crossCheck {pipeline : Pipeline} {signed : SignedOperation}
    {outcome : Except Failure Unit} (ends : (pipeline.crossCheck signed).Ends exchanges outcome) :
    showing exchanges = [] := by
  have warns : (Services.warn .localHash).Asks ServiceRequest.IsDiscreet := ⟨rfl, fun _ => trivial⟩
  refine showing_eq_nil ((Dialogue.Asks.ofExcept _).bind fun packed => ?_) ends
  split
  · exact warns
  · trivial

/-- A submission that succeeds shows the bundler the signed operation, and nothing else. -/
theorem Submission.ends_submit {entryPoint : Address} {signed : SignedOperation} {hash : Hash}
    (ends : (submit entryPoint signed).Ends exchanges (.ok hash)) :
    showing exchanges = [⟨.send signed.operation entryPoint, .ok hash⟩] := by
  obtain ⟨_, _, accepted, rfl, handed, goes_on⟩ := ends.bind_ok
  obtain ⟨_, _, rfl, answered⟩ := handed
  obtain ⟨rfl, rfl⟩ := Dialogue.Ends.ofExcept answered
  split at goes_on
  · obtain ⟨_, _, _, rfl, warned, rfl, ⟨⟩⟩ := goes_on.bind_ok
    obtain ⟨_, _, rfl, rfl, -⟩ := warned
    rfl
  · obtain ⟨rfl, ⟨⟩⟩ := goes_on
    rfl

/-! ## Courses -/

/-- An answer with which the owner signs, if it does, with 65 bytes. -/
def ServiceRequest.SignsFully : (request : ServiceRequest) → request.Answer → Prop
  | .ownerSign _, reply => ∀ signature, reply = .ok signature → signature.length = 65
  | _, _ => True

namespace Pipeline

variable {pipeline : Pipeline} {request : Request} {hash : Hash}

/-- A send that succeeds shows the bundler a probe to estimate and then the operation that the probe
foreshadows. -/
theorem ends_sendResolved {wallet : Resolution}
    (ends : (pipeline.sendResolved request wallet).Ends exchanges (.ok hash))
    (signs : ∀ exchange ∈ exchanges, exchange.request.SignsFully exchange.reply) :
    ∃ probe operation raw, showing exchanges =
        [⟨.estimate probe pipeline.deployment.entryPoint, .ok raw⟩,
          ⟨.send operation pipeline.deployment.entryPoint, .ok hash⟩] ∧
      probe.Foreshadows operation := by
  obtain ⟨_, _, nonce, rfl, looked, drafted⟩ := ends.bind_ok
  obtain ⟨_, _, estimated, rfl, estimates, settling⟩ := drafted.bind_ok
  obtain ⟨_, _, settled, rfl, settles, signing⟩ := settling.bind_ok
  obtain ⟨_, _, signed, rfl, signs_off, checking⟩ := signing.bind_ok
  obtain ⟨_, _, _, rfl, checks, submits⟩ := checking.bind_ok
  obtain ⟨raw, gas, fees, probed, written⟩ := Draft.ends_estimate estimates
  obtain ⟨unseen, data, replaced⟩ := ends_settle settles
  obtain ⟨packed, signature, rfl, sealed⟩ := Draft.ends_sign signs_off
  have reads : (Services.nonce wallet.sender).Asks ServiceRequest.IsDiscreet := ⟨rfl, .ofExcept⟩
  have full : signature.length = 65 :=
    signs ⟨.ownerSign signed.hash, .ok signature⟩ (by simp) signature rfl
  rw [replaced, written] at sealed
  refine ⟨{ (pipeline.draft request wallet nonce).operation with
    signature := Gas.placeholderSignature }, signed.operation, raw, ?_, ?_⟩
  · simp only [showing_append]
    rw [showing_eq_nil reads looked, probed, unseen, showing_crossCheck checks,
      Submission.ends_submit submits]
    rfl
  · rw [sealed]
    exact ⟨rfl, rfl, rfl, rfl, rfl, rfl, full⟩

/-- An attempt that succeeds shows the bundler an operation to estimate and one to send. -/
theorem ends_send (ends : (pipeline.send request).Ends exchanges (.ok hash))
    (signs : ∀ exchange ∈ exchanges, exchange.request.SignsFully exchange.reply) :
    ∃ probe operation raw, showing exchanges =
        [⟨.estimate probe pipeline.deployment.entryPoint, .ok raw⟩,
          ⟨.send operation pipeline.deployment.entryPoint, .ok hash⟩] ∧
      probe.Foreshadows operation := by
  obtain ⟨_, held, sender, rfl, derived, holds⟩ := ends.bind_ok
  obtain ⟨taken, own, given, rfl, locked⟩ := Services.ends_holding holds
  rw [sendLocked_eq] at locked
  obtain ⟨_, _, wallet, rfl, resolved, sent⟩ := locked.bind_ok
  have derives : (pipeline.resolver.senderAddress request.wallet).Asks
      ServiceRequest.IsDiscreet := by
    cases request.wallet with
    | derived salt => exact ⟨rfl, .ofExcept⟩
    | existing address => trivial
  have resolves : (pipeline.resolver.resolve request.wallet).Asks ServiceRequest.IsDiscreet :=
    pipeline.resolver.asks_resolve _ (fun _ => rfl) (fun _ _ => ⟨rfl, rfl⟩) fun _ _ => rfl
  obtain ⟨probe, operation, raw, shown, foreshadows⟩ :=
    ends_sendResolved sent fun exchange member => signs exchange (by simp [member])
  refine ⟨probe, operation, raw, ?_, foreshadows⟩
  simp only [showing_append, List.cons_append]
  rw [showing_eq_nil derives derived, ← List.singleton_append, showing_append, showing_append,
    showing_append, showing_eq_nil resolves resolved, shown]
  rfl

end Pipeline

/-! ## Nets and relays -/

/-- Every signature of a key has 65 bytes. -/
theorem SecretKey.length_signHash (key : SecretKey) (hash : Hash) : (key.signHash hash).length = 65 := by
  simp [signHash, Ecdsa.Signature.toBytes]

namespace LocalNet

open Dialogue (Follows follows_append_iff)

/-- The local services sign with all 65 bytes. -/
theorem signsFully_answer (request : ServiceRequest) (net : LocalNet) :
    request.SignsFully (answer request net).1 := by
  cases request with
  | ownerSign hash =>
      intro signature signs
      simp only [answer] at signs
      cases strikes : struck (.ownerSign hash) (net.note (.ownerSign hash)).outages with
      | some strike =>
          rw [strikes] at signs
          cases signs
      | none =>
          rw [strikes] at signs
          rw [← Except.ok.inj signs]
          exact SecretKey.length_signHash _ hash
  | _ => trivial

/-- Whatever a local net is asked, the signatures it gives are full. -/
theorem signsFully_of_follows {net after : LocalNet} {exchanges : List (Exchange Services)}
    (follows : Follows answer net exchanges after) :
    ∀ exchange ∈ exchanges, exchange.request.SignsFully exchange.reply := by
  intro exchange member
  obtain ⟨before, _, answered⟩ := follows.exists_answer exchange member
  have own := signsFully_answer exchange.request before
  rw [answered] at own
  exact own

/-- An operation the net takes is the newest of those it was sent. -/
theorem sent_answer_send {net after : LocalNet} {operation : Operation} {entryPoint : Address}
    {hash : Hash} (takes : answer (.send operation entryPoint) net = (.ok hash, after)) :
    after.sent = operation :: net.sent := by
  rw [← sent_note net (.send operation entryPoint)]
  simp only [answer] at takes
  cases strikes : struck (.send operation entryPoint)
      (net.note (.send operation entryPoint)).outages with
  | some strike =>
      rw [strikes] at takes
      cases congrArg Prod.fst takes
  | none =>
      rw [strikes] at takes
      change (net.note (.send operation entryPoint)).take operation entryPoint = _ at takes
      have kept : after = _ :=
        (congrArg Prod.snd takes).symm.trans (take_eq_taking (congrArg Prod.fst takes))
      rw [kept]
      rfl

/-- A bundler that is shown an operation to estimate and then one to send keeps the latter. -/
theorem sent_of_showing {net after : LocalNet} {exchanges : List (Exchange Services)}
    (follows : Follows answer net exchanges after) {probe operation : Operation}
    {entryPoint : Address} {raw : GasLimits} {hash : Hash}
    (shown : showing exchanges =
      [⟨.estimate probe entryPoint, .ok raw⟩, ⟨.send operation entryPoint, .ok hash⟩]) :
    after.sent = operation :: net.sent := by
  obtain ⟨before, _, rfl, unseen, -, shown⟩ := List.filter_eq_cons_iff.mp shown
  obtain ⟨between, behind, rfl, unseen', -, shown⟩ := List.filter_eq_cons_iff.mp shown
  have discreet (exchange : Exchange Services)
      (unseen : ¬ ServiceRequest.shows exchange.request = true) (operation : Operation)
      (entryPoint : Address) : exchange.request ≠ .send operation entryPoint := by
    intro sends
    rw [sends] at unseen
    exact unseen rfl
  rw [← List.cons_append, ← List.append_assoc] at follows
  obtain ⟨middle, early, last, sends, late⟩ := follows_append_iff.mp follows
  have first : middle.sent = net.sent := by
    apply sent_of_follows early
    intro exchange member
    rcases List.mem_append.mp member with member | member
    · exact discreet exchange (unseen exchange member)
    · rcases List.mem_cons.mp member with rfl | member
      · exact nofun
      · exact discreet exchange (unseen' exchange member)
  have later : after.sent = last.sent :=
    sent_of_follows late fun exchange member =>
      discreet exchange (List.filter_eq_nil_iff.mp shown exchange member)
  rw [later, sent_answer_send sends, first]

/-- Of what the net was asked it has noted the shown operations in the order they were shown. -/
theorem asked_of_showing {net after : LocalNet} {exchanges : List (Exchange Services)}
    (follows : Follows answer net exchanges after) :
    after.asked.filter ServiceRequest.shows =
      ((showing exchanges).map (·.request)).reverse ++ net.asked.filter ServiceRequest.shows := by
  rw [asked_of_follows follows, List.filter_append, List.filter_reverse, List.filter_filter]
  have remote (request : ServiceRequest) :
      (request.shows && request.isRemote) = request.shows := by
    cases request with
    | _ => rfl
  simp only [remote, showing, List.filter_map]
  rfl

end LocalNet

/-- A relay that answers a question for a signature gives all 65 bytes. -/
theorem Relay.signsFully_answer (relay : Relay) {request : ServiceRequest} {reply : request.Answer}
    {own : List (Exchange Machine)} (answers : (relay.answer request).Ends own (.ok reply)) :
    request.SignsFully reply := by
  cases request with
  | ownerSign hash =>
      rintro signature rfl
      obtain ⟨-, signed⟩ := answers
      have signed := Except.ok.inj signed
      unfold Relay.signature at signed
      split at signed
      · rw [Except.ok.inj signed]
        exact SecretKey.length_signHash _ hash
      · cases signed
  | _ => trivial

/-- **The gas is estimated for the operation that is sent.** What is estimated of an operation is the
part of what is sent of it under six keys. An attempt that succeeds has one operation estimated and
sends one for it, and these two are the same to the estimate but for the signature, which is as long. -/
theorem Pipeline.estimates_what_is_sent (pipeline : Pipeline) (request : Request) :
    (∀ operation : Operation,
      operation.toEstimateBody = operation.toSendBody.restrict
        ["sender", "nonce", "factory", "factoryData", "callData", "signature"]) ∧
    (∀ probe operation : Operation, probe.Foreshadows operation →
      probe.toEstimateBody.restrict ["sender", "nonce", "factory", "factoryData", "callData"] =
        operation.toSendBody.restrict ["sender", "nonce", "factory", "factoryData", "callData"] ∧
      ∃ one other : String, probe.toEstimateBody.get? "signature" = some (.string one) ∧
        operation.toSendBody.get? "signature" = some (.string other) ∧ one.length = other.length) ∧
    (∀ exchanges hash, (pipeline.send request).Ends exchanges (.ok hash) →
      (∀ exchange ∈ exchanges, exchange.request.SignsFully exchange.reply) →
        ∃ probe operation raw, Exchange.showing exchanges =
            [⟨.estimate probe pipeline.deployment.entryPoint, .ok raw⟩,
              ⟨.send operation pipeline.deployment.entryPoint, .ok hash⟩] ∧
          probe.Foreshadows operation) ∧
    (∀ (net : LocalNet) hash after, net.consult (pipeline.send request) = (.ok hash, after) →
      ∃ probe operation, after.asked.filter ServiceRequest.shows =
          .send operation pipeline.deployment.entryPoint ::
            .estimate probe pipeline.deployment.entryPoint :: net.asked.filter ServiceRequest.shows ∧
        after.sent = operation :: net.sent ∧ probe.Foreshadows operation) ∧
    ∀ (relay : Relay) machine hash, (relay.consult (pipeline.send request)).Ends machine (.ok hash) →
      ∃ exchanges probe operation raw, (pipeline.send request).Ends exchanges (.ok hash) ∧
        Dialogue.Serves relay.answer exchanges machine ∧
        Exchange.showing exchanges =
          [⟨.estimate probe pipeline.deployment.entryPoint, .ok raw⟩,
            ⟨.send operation pipeline.deployment.entryPoint, .ok hash⟩] ∧
        probe.Foreshadows operation := by
  refine ⟨Operation.toEstimateBody_eq_restrict,
    fun _ _ foreshadows => ⟨foreshadows.restrict_eq, foreshadows.exists_signatures⟩,
    fun _ _ ends signs => ends_send ends signs, ?nets, ?relays⟩
  case nets =>
    intro net hash after run
    obtain ⟨exchanges, ends, follows⟩ :=
      Dialogue.exists_follows_run LocalNet.answer (pipeline.send request) net
    have run : (pipeline.send request).run LocalNet.answer net = (.ok hash, after) := run
    rw [run] at ends follows
    obtain ⟨probe, operation, raw, shown, foreshadows⟩ :=
      ends_send ends (LocalNet.signsFully_of_follows follows)
    refine ⟨probe, operation, ?_, LocalNet.sent_of_showing follows shown, foreshadows⟩
    rw [LocalNet.asked_of_showing follows, shown]
    rfl
  case relays =>
    intro relay machine hash ends
    obtain ⟨exchanges, ends, serves⟩ :=
      ends.of_interpret fun request _ failure => relay.not_ends_answer_error request failure
    obtain ⟨probe, operation, raw, shown, foreshadows⟩ := ends_send ends
      (serves.forall_mem fun exchange _ answers => relay.signsFully_answer answers)
    exact ⟨exchanges, probe, operation, raw, ends, serves, shown, foreshadows⟩

/-- The operation of a new wallet is estimated and sent. -/
theorem Pipeline.estimates_what_is_sent_ofNewWallet :
    ∃ hash after exchanges probe operation raw,
      LocalNet.obliging.consult (onLocalNet.send (.ofNewWallet [])) = (.ok hash, after) ∧
      (onLocalNet.send (.ofNewWallet [])).Ends exchanges (.ok hash) ∧
      (∀ exchange ∈ exchanges, exchange.request.SignsFully exchange.reply) ∧
      Exchange.showing exchanges = [⟨.estimate probe LocalNet.entryPoint, .ok raw⟩,
        ⟨.send operation LocalNet.entryPoint, .ok hash⟩] ∧
      probe.Foreshadows operation ∧
      probe.toEstimateBody.restrict ["sender", "nonce", "factory", "factoryData", "callData"] =
        operation.toSendBody.restrict ["sender", "nonce", "factory", "factoryData", "callData"] ∧
      ∃ sent, after.sent = [sent] := by
  obtain ⟨hash, operation, yields⟩ := yields_ofNewWallet []
  obtain ⟨later, run⟩ := yields.exists_consult
  obtain ⟨exchanges, ends, follows⟩ :=
    Dialogue.exists_follows_run LocalNet.answer (onLocalNet.send (.ofNewWallet [])) .obliging
  have ended : (onLocalNet.send (.ofNewWallet [])).run LocalNet.answer .obliging =
      (.ok hash, (LocalNet.obliging.taking operation).logged later) := run
  rw [ended] at ends follows
  have signs := LocalNet.signsFully_of_follows follows
  obtain ⟨-, bodies, courses, nets, -⟩ := estimates_what_is_sent onLocalNet (.ofNewWallet [])
  obtain ⟨probe, operation, raw, shown, foreshadows⟩ := courses exchanges hash ends signs
  obtain ⟨_, sent, -, kept, -⟩ := nets .obliging hash _ run
  exact ⟨hash, _, exchanges, probe, operation, raw, run, ends, signs, shown, foreshadows,
    (bodies probe operation foreshadows).1, sent, kept⟩

end AccountRelay
