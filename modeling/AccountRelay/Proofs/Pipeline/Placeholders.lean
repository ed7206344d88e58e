import AccountRelay.Proofs.LocalNet.Candor
import AccountRelay.Proofs.LocalNet.Reference
import AccountRelay.Proofs.Pipeline.Relaying

/-! # Data that stand in for an authorization

The data that a request brings along for its paymaster are gone when its operation is sent. Nothing
depends on them as long as the world disregards them (`Pipeline.send_regardless`). A net in memory does
when none of its outages is about operations with certain data (`LocalNet.disregards_answer`), and a
machine does when the hash that a paymaster wants signed does not depend on them.
-/

namespace AccountRelay

/-- An outage that strikes a question when it strikes the bare one. -/
def Outage.IsBlind (outage : Outage) : Prop :=
  ∀ request, outage.strikes (ServiceRequest.bare request) = outage.strikes request

namespace LocalNet

/-- The net as if it had been asked the bare questions. -/
def bare (net : LocalNet) : LocalNet :=
  { net with asked := net.asked.map ServiceRequest.bare }

/-- Outages that do not look at the placeholder strike a question whatever placeholder it carries. -/
theorem struck_bare {outages : List Outage} (blind : ∀ outage ∈ outages, outage.IsBlind)
    (request : ServiceRequest) : struck request.bare outages = struck request outages := by
  induction outages with
  | nil => rfl
  | cons outage rest ih =>
      obtain ⟨own, others⟩ := List.forall_mem_cons.mp blind
      simp only [struck, own request, ih others]

/-- Outages that do not look at the placeholder are left by a strike with the same blindness. -/
theorem blind_of_struck {request : ServiceRequest} {outages left : List Outage} {message : String}
    (blind : ∀ outage ∈ outages, outage.IsBlind) (strikes : struck request outages = some (message, left)) :
    ∀ outage ∈ left, outage.IsBlind := by
  induction outages generalizing left with
  | nil => cases strikes
  | cons outage rest ih =>
      obtain ⟨own, others⟩ := List.forall_mem_cons.mp blind
      unfold struck at strikes
      split at strikes
      · cases strikes
        exact List.forall_mem_cons.mpr ⟨own, others⟩
      · obtain ⟨⟨_, behind⟩, later, ⟨⟩⟩ := Option.map_eq_some_iff.mp strikes
        exact List.forall_mem_cons.mpr ⟨own, ih others later⟩

/-- An outage leaves outages of the same kind. -/
theorem blind_answer (request : ServiceRequest) {net : LocalNet}
    (blind : ∀ outage ∈ net.outages, outage.IsBlind) :
    ∀ outage ∈ (answer request net).2.outages, outage.IsBlind := by
  simp only [answer, outages_note]
  split
  · rename_i strikes
    split
    · exact blind_of_struck blind strikes
    · rw [outages_respond, outages_note]
      exact blind
  · rw [outages_respond, outages_note]
    exact blind

/-- Noting a question adds it to the remote ones asked before, whatever those are. -/
theorem note_asked (request : ServiceRequest) (net : LocalNet) (asked : List ServiceRequest) :
    ({ net with asked } : LocalNet).note request = { net.note request with
      asked := (if request.isRemote then [request] else []) ++ asked } := by
  unfold note
  split <;> split <;> rfl

/-- What the net responds does not depend on what it was asked before. -/
theorem respond_asked (request : ServiceRequest) (net : LocalNet) (asked : List ServiceRequest) :
    ({ net with asked } : LocalNet).respond request =
      ((net.respond request).1, { (net.respond request).2 with asked }) := by
  cases request with
  | codeAt account => simp only [respond]; split <;> rfl
  | send operation entryPoint => simp only [respond, take]; split <;> rfl
  | receipt hash => simp only [respond, lookUp]; split <;> rfl
  | tokenBalance token holder => simp only [respond]; split <;> rfl
  | _ => rfl

/-- A net answers whatever it was asked before. -/
theorem answer_asked (request : ServiceRequest) (net : LocalNet) (asked : List ServiceRequest) :
    answer request { net with asked } = ((answer request net).1, { (answer request net).2 with
      asked := (if request.isRemote then [request] else []) ++ asked }) := by
  simp only [answer, note_asked]
  split
  · split
    · rfl
    · exact respond_asked request _ _
  · exact respond_asked request _ _

/-- The hash a paymaster signs does not depend on the signature in its data. -/
theorem sponsoredHash_take (paymaster : Address) (operation : PackedOperation)
    (window : ValidityWindow) :
    sponsoredHash paymaster { operation with
      paymasterAndData := operation.paymasterAndData.take paymasterDataOffset } window =
        sponsoredHash paymaster operation window := by
  simp only [sponsoredHash, List.take_take, Nat.min_self]

/-- A net without sight of the data gives the answer to the bare question. -/
theorem answerBare_eq (request : ServiceRequest) {net : LocalNet}
    (blind : ∀ outage ∈ net.outages, outage.IsBlind) :
    (ServiceRequest.answerBare answer request net).1 = (answer request net).1 ∧
      (ServiceRequest.answerBare answer request net).2.bare = (answer request net).2.bare := by
  have strikes := struck_bare blind request
  cases request with
  | estimate operation entryPoint =>
      change (answer (ServiceRequest.estimate operation entryPoint).bare net).1 = _ ∧
        (answer (ServiceRequest.estimate operation entryPoint).bare net).2.bare = _
      simp only [answer, outages_note]
      rw [strikes]
      cases struck (.estimate operation entryPoint) net.outages with
      | none => exact ⟨rfl, rfl⟩
      | some strike => exact ⟨rfl, rfl⟩
  | paymasterHash paymaster operation window =>
      change (answer (ServiceRequest.paymasterHash paymaster operation window).bare net).1 = _ ∧
        (answer (ServiceRequest.paymasterHash paymaster operation window).bare net).2.bare = _
      simp only [answer, outages_note]
      rw [strikes]
      have noted (outages : List Outage) :=
        congrArg (fun own => { net with outages, asked := own :: net.asked.map ServiceRequest.bare })
          (ServiceRequest.paymasterHash paymaster operation window).bare_bare
      cases struck (.paymasterHash paymaster operation window) net.outages with
      | none =>
          exact ⟨congrArg Except.ok (sponsoredHash_take paymaster operation window), noted net.outages⟩
      | some strike => exact ⟨rfl, noted strike.2⟩
  | _ => exact ⟨rfl, rfl⟩

/-- Nets are the same without the data when no outage sees them and all else is the same. -/
def SameButData (one other : LocalNet) : Prop :=
  (∀ outage ∈ one.outages, outage.IsBlind) ∧ one.bare = other.bare

/-- Nets that differ in placeholders only have the same outages ahead. -/
theorem outages_eq {one other : LocalNet} (same : one.bare = other.bare) :
    one.outages = other.outages := by
  change one.bare.outages = other.bare.outages
  rw [same]

/-- Nets that differ in placeholders only were asked the same up to placeholders. -/
theorem asked_eq {one other : LocalNet} (same : one.bare = other.bare) :
    one.asked.map ServiceRequest.bare = other.asked.map ServiceRequest.bare := by
  change one.bare.asked = other.bare.asked
  rw [same]

/-- Nets that differ in placeholders only differ in what they noted as asked. -/
theorem SameButData.eq {one other : LocalNet} (same : SameButData one other) :
    one = { other with asked := one.asked } := by
  have bares := same.2
  unfold bare at bares
  cases one
  cases other
  simp only [LocalNet.mk.injEq] at bares ⊢
  simp only [bares, and_self]

/-- A net disregards the data of the paymaster if no outage sees them. -/
theorem disregards_answer : Disregards answer SameButData where
  symm := by
    rintro one other ⟨blind, same⟩
    exact ⟨outages_eq same ▸ blind, same.symm⟩
  trans := by
    rintro one other third ⟨blind, same⟩ ⟨-, also⟩
    exact ⟨blind, same.trans also⟩
  answers := by
    intro request one other same
    have answered := answer_asked request other one.asked
    rw [← same.eq] at answered
    refine ⟨?_, blind_answer request same.1, ?_⟩
    · rw [answered]
    · rw [answered]
      unfold bare
      rw [asked_answer request other, List.map_append, List.map_append, asked_eq same.2]
  bare := by
    intro request net same
    obtain ⟨reply, leaves⟩ := answerBare_eq request same.1
    exact ⟨reply.symm, blind_answer request same.1, leaves.symm⟩

end LocalNet

namespace Pipeline

open Dialogue (Follows)

/-- Whatever the placeholder, a send can exchange the same up to placeholders, with the same outcome
and the same spending. -/
theorem exists_ends_regardless (pipeline : Pipeline) {request : Request} (data : Bytes)
    {exchanges : List (Exchange Services)} {outcome : Except Failure Hash}
    (ends : (pipeline.send request).Ends exchanges outcome) :
    ∃ others, (pipeline.send { request with paymasterData := data }).Ends others outcome ∧
      others.map Exchange.bare = exchanges.map Exchange.bare ∧
      Exchange.spending others = Exchange.spending exchanges := by
  have below := Consultation.ends_bared_iff.mpr ⟨exchanges, ends, rfl⟩
  rw [← pipeline.bared_send request data] at below
  obtain ⟨others, ends', bares⟩ := Consultation.ends_bared_iff.mp below
  refine ⟨others, ends', bares, ?_⟩
  rw [← Exchange.spending_bare others, bares, Exchange.spending_bare]

/-- How the attempts for two requests run in worlds that take the data for the same. -/
theorem exists_run_regardless (pipeline : Pipeline) (request : Request) (data : Bytes) {σ : Type}
    {answer : (request : ServiceRequest) → σ → request.Answer × σ} {same : σ → σ → Prop}
    (disregards : Disregards answer same) (one two : σ) (begins : same one two) :
    ∃ exchanges others outcome after after',
      (pipeline.send request).Ends exchanges outcome ∧
      Follows (I := Services) answer one exchanges after ∧
      (pipeline.send { request with paymasterData := data }).Ends others outcome ∧
      Follows (I := Services) answer two others after' ∧
      same after after' ∧ others.map Exchange.bare = exchanges.map Exchange.bare ∧
      Exchange.spending others = Exchange.spending exchanges := by
  obtain ⟨exchanges, ends, follows⟩ :=
    Dialogue.exists_follows_run answer (pipeline.send request) one
  obtain ⟨others, ends', bares, spent⟩ := pipeline.exists_ends_regardless data ends
  obtain ⟨after', follows', alike⟩ := disregards.exists_follows bares follows begins
  exact ⟨exchanges, others, _, _, after', ends, follows, ends', follows', alike, bares, spent⟩

/-- **Nothing depends on the data that stand in for an authorization.** Requests that differ only in
them have the same courses, but for the data in bare questions. So in a world that disregards them the
attempts end in the same way, hand over the same operation and fund the same accounts. A net in memory is
such a world, and so is every machine on which the hash that a paymaster wants signed does not depend on
them. -/
theorem send_regardless (pipeline : Pipeline) (request : Request) (data : Bytes) :
    let other := { request with paymasterData := data }
    (∀ exchanges outcome, (pipeline.send request).Ends exchanges outcome →
      ∃ others, (pipeline.send other).Ends others outcome ∧
        others.map Exchange.bare = exchanges.map Exchange.bare ∧
        Exchange.spending others = Exchange.spending exchanges) ∧
    (∀ (σ : Type) (answer : (request : ServiceRequest) → σ → request.Answer × σ)
      (same : σ → σ → Prop), Disregards answer same → ∀ one two, same one two →
        ∃ exchanges others outcome after after',
          (pipeline.send request).Ends exchanges outcome ∧
          Follows (I := Services) answer one exchanges after ∧
          (pipeline.send request).run answer one = (outcome, after) ∧
          (pipeline.send other).Ends others outcome ∧
          Follows (I := Services) answer two others after' ∧
          (pipeline.send other).run answer two = (outcome, after') ∧
          same after after' ∧ others.map Exchange.bare = exchanges.map Exchange.bare ∧
          Exchange.spending others = Exchange.spending exchanges) ∧
    (∀ net : LocalNet, (∀ outage ∈ net.outages, outage.IsBlind) →
      let ended := net.consult (pipeline.send request)
      let ended' := net.consult (pipeline.send other)
      ended'.1 = ended.1 ∧ ended'.2.sent = ended.2.sent ∧ ended'.2.funded = ended.2.funded ∧
        ended'.2.warnings = ended.2.warnings ∧
        ended'.2.asked.map ServiceRequest.bare = ended.2.asked.map ServiceRequest.bare) ∧
    ∀ (relay : Relay) (σ : Type) (answer : (request : MachineRequest) → σ → request.Answer × σ)
      (same : σ → σ → Prop), relay.Disregards answer same → ∀ one two, same one two →
        let ended := (relay.consult (pipeline.send request)).run answer one
        let ended' := (relay.consult (pipeline.send other)).run answer two
        ended.1 = ended'.1 ∧ same ended.2 ended'.2 := by
  refine ⟨fun _ _ => pipeline.exists_ends_regardless data, ?worlds, ?nets, ?relays⟩
  case worlds =>
    intro σ answer same disregards one two begins
    obtain ⟨exchanges, others, outcome, after, after', ends, follows, ends', follows', rest⟩ :=
      pipeline.exists_run_regardless request data disregards one two begins
    exact ⟨exchanges, others, outcome, after, after', ends, follows, ends.run_of_follows follows,
      ends', follows', ends'.run_of_follows follows', rest⟩
  case nets =>
    intro net blind ended ended'
    obtain ⟨_, _, outcome, after, after', ends, follows, ends', follows', ⟨-, leaves⟩, -⟩ :=
      pipeline.exists_run_regardless request data LocalNet.disregards_answer net net ⟨blind, rfl⟩
    have ended_eq : ended = (outcome, after) := ends.run_of_follows follows
    have ended'_eq : ended' = (outcome, after') := ends'.run_of_follows follows'
    rw [ended_eq, ended'_eq]
    exact ⟨rfl, (congrArg LocalNet.sent leaves).symm, (congrArg LocalNet.funded leaves).symm,
      (congrArg LocalNet.warnings leaves).symm, (LocalNet.asked_eq leaves).symm⟩
  case relays =>
    intro relay σ answer same disregards
    exact disregards.alike_send pipeline request data

/-- A request of a new wallet is sent as it would be without the placeholder that it brings along, and a
machine in memory, too, is asked the same but for call data. -/
theorem send_regardless_ofNewWallet :
    (∀ outage ∈ LocalNet.obliging.outages, outage.IsBlind) ∧
      Disregards LocalNet.answer LocalNet.SameButData ∧
      LocalNet.SameButData .obliging .obliging ∧
      (∃ exchanges others hash operation,
        (onLocalNet.send (.ofNewWallet [])).Ends exchanges (.ok hash) ∧
        (onLocalNet.send (.ofNewWallet Gas.placeholderSignature)).Ends others (.ok hash) ∧
        others.map Exchange.bare = exchanges.map Exchange.bare ∧
        ((onLocalNet.send (.ofNewWallet Gas.placeholderSignature)).run LocalNet.answer .obliging).1 =
          .ok hash ∧
        (LocalNet.obliging.consult (onLocalNet.send (.ofNewWallet Gas.placeholderSignature))).2.sent =
          [operation]) ∧
      let relay := Relay.ofDeployment .onLocalNet none none
      relay.Disregards LocalMachine.answer LocalMachine.SameButCallData ∧
        ∀ machine : LocalMachine,
          let ended := machine.run (relay.consult (onLocalNet.send (.ofNewWallet [])))
          let ended' :=
            machine.run (relay.consult (onLocalNet.send (.ofNewWallet Gas.placeholderSignature)))
          ended.1 = ended'.1 ∧ ended.2.SameButCallData ended'.2 := by
  have blind : ∀ outage ∈ LocalNet.obliging.outages, outage.IsBlind := nofun
  have same : LocalNet.SameButData .obliging .obliging := ⟨blind, rfl⟩
  obtain ⟨hash, operation, yields⟩ := yields_ofNewWallet []
  obtain ⟨later, sent⟩ := yields.exists_consult
  obtain ⟨courses, worlds, nets, relays⟩ :=
    onLocalNet.send_regardless (.ofNewWallet []) Gas.placeholderSignature
  obtain ⟨exchanges, _, outcome, after, _, ends, -, run, -, -, run', -⟩ :=
    worlds LocalNet _ _ LocalNet.disregards_answer _ _ same
  obtain ⟨rfl, rfl⟩ := Prod.mk.inj (run.symm.trans sent)
  obtain ⟨others, ends', bares, -⟩ := courses exchanges _ ends
  have handed := (nets .obliging blind).2.1
  rw [sent] at handed
  refine ⟨blind, LocalNet.disregards_answer, same, ⟨exchanges, others, hash, operation, ends, ends',
    bares, congrArg Prod.fst run', handed⟩, LocalMachine.disregards _, ?_⟩
  intro machine
  exact relays _ _ _ _ (LocalMachine.disregards _) machine machine ⟨machine.asked, rfl, rfl⟩

end Pipeline

end AccountRelay
