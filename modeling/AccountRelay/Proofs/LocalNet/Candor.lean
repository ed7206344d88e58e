import AccountRelay.LocalNet
import AccountRelay.Proofs.Dialogue.Histories
import AccountRelay.Proofs.Pipeline.Candor

/-! # What a net in memory tells of a run

A net answers candidly, whatever is wrong with it: only its bundler ever blames a width, and that of an
operation that it cannot pack (`LocalNet.candid_answer`). It keeps what it was asked
(`LocalNet.asked_of_follows`), and nothing is sent to its bundler but what was handed over
(`LocalNet.sent_of_follows`).
-/

namespace AccountRelay.LocalNet

variable {net after : LocalNet} {exchanges : List (Exchange Services)}

/-- A refusal is candid if its failure is not for a width. -/
theorem candid_refusal {failure : Failure} (narrow : failure.width? = none) {request : ServiceRequest}
    {reply : request.Answer} (refuses : refusal? failure request = some reply) :
    request.Candid reply := by
  have reports : ∀ reported, request.failure? reply = some reported → reported = failure := by
    cases request with
    | now | uptime | pause _ | warn _ | acquire _ | release _ => cases refuses
    | _ =>
        cases refuses
        rintro _ ⟨⟩
        rfl
  intro reported fault same blamed
  rw [reports reported same, narrow] at blamed
  cases blamed

/-- A bundler that refuses what it is handed is candid. -/
theorem candid_take (net : LocalNet) (operation : Operation) (entryPoint : Address) :
    (ServiceRequest.send operation entryPoint).Candid (net.take operation entryPoint).1 := by
  unfold take
  split
  · rintro _ fault ⟨⟩ ⟨⟩
  · cases packs : operation.pack with
    | ok packed => exact nofun
    | error fault =>
        rintro _ _ ⟨⟩ ⟨⟩
        exact ⟨operation, entryPoint, rfl, packs⟩

/-- A net responds candidly. -/
theorem candid_respond (net : LocalNet) (request : ServiceRequest) :
    request.Candid (net.respond request).1 := by
  cases request with
  | send operation entryPoint => exact net.candid_take operation entryPoint
  | codeAt account =>
      simp only [respond]
      split
      · rintro _ _ ⟨⟩ ⟨⟩
      · exact nofun
  | estimate operation entryPoint =>
      simp only [respond]
      cases net.failEstimate with
      | true => rintro _ _ ⟨⟩ ⟨⟩
      | false => exact nofun
  | receipt hash =>
      simp only [respond, lookUp]
      split
      · exact nofun
      · exact nofun
  | tokenBalance token holder =>
      simp only [respond]
      split
      · exact nofun
      · rintro _ _ ⟨⟩ ⟨⟩
  | _ => exact nofun

/-- A net blames a width only where its bundler cannot pack an operation. -/
theorem candid_answer (request : ServiceRequest) (net : LocalNet) :
    request.Candid (answer request net).1 := by
  simp only [answer]
  split
  · split
    · rename_i refuses
      exact candid_refusal rfl refuses
    · exact candid_respond _ request
  · exact candid_respond _ request

/-! ## What is kept -/

/-- By responding a net changes nothing but its receipts, its clock, its warnings and what was sent and
funded. -/
theorem exists_respond_eq (net : LocalNet) (request : ServiceRequest) :
    ∃ pendingPolls uptime warnings sent funded, (net.respond request).2 =
      { net with pendingPolls, uptime, warnings, sent, funded } := by
  cases request with
  | codeAt account => simp only [respond]; split <;> exact ⟨_, _, _, _, _, rfl⟩
  | send operation entryPoint => simp only [respond, take]; split <;> exact ⟨_, _, _, _, _, rfl⟩
  | receipt hash => simp only [respond, lookUp]; split <;> exact ⟨_, _, _, _, _, rfl⟩
  | tokenBalance token holder => simp only [respond]; split <;> exact ⟨_, _, _, _, _, rfl⟩
  | _ => exact ⟨_, _, _, _, _, rfl⟩

/-- Responding writes down no question. -/
theorem asked_respond (net : LocalNet) (request : ServiceRequest) :
    (net.respond request).2.asked = net.asked := by
  obtain ⟨_, _, _, _, _, same⟩ := net.exists_respond_eq request
  rw [same]

/-- Responding ends no outage. -/
theorem outages_respond (net : LocalNet) (request : ServiceRequest) :
    (net.respond request).2.outages = net.outages := by
  obtain ⟨_, _, _, _, _, same⟩ := net.exists_respond_eq request
  rw [same]

/-- Only by being sent something a net comes to have it. -/
theorem sent_respond (net : LocalNet) {request : ServiceRequest}
    (no_send : ∀ operation entryPoint, request ≠ .send operation entryPoint) :
    (net.respond request).2.sent = net.sent := by
  cases request with
  | codeAt account => simp only [respond]; split <;> rfl
  | send operation entryPoint => exact absurd rfl (no_send operation entryPoint)
  | receipt hash => simp only [respond, lookUp]; split <;> rfl
  | tokenBalance token holder => simp only [respond]; split <;> rfl
  | _ => rfl

/-- A net writes down what it was asked over the network, in front of the rest. -/
theorem asked_note (net : LocalNet) (request : ServiceRequest) :
    (net.note request).asked = (if request.isRemote then [request] else []) ++ net.asked := by
  unfold note
  split <;> split <;> rfl

/-- Writing a question down sends nothing. -/
theorem sent_note (net : LocalNet) (request : ServiceRequest) : (net.note request).sent = net.sent := by
  unfold note
  split <;> split <;> rfl

/-- An answer leaves a net as a response does, or only with other outages. -/
theorem answer_cases (request : ServiceRequest) (net : LocalNet) :
    (∃ outages, (answer request net).2 = { net.note request with outages }) ∨
      (answer request net).2 = ((net.note request).respond request).2 := by
  simp only [answer]
  split
  · split
    · exact .inl ⟨_, rfl⟩
    · exact .inr rfl
  · exact .inr rfl

/-- An answer has written down what was asked over the network. -/
theorem asked_answer (request : ServiceRequest) (net : LocalNet) :
    (answer request net).2.asked = (if request.isRemote then [request] else []) ++ net.asked := by
  rw [← asked_note]
  rcases answer_cases request net with ⟨outages, same⟩ | same
  · rw [same]
  · rw [same, asked_respond]

/-- Only the answer to an operation that is sent can have it sent. -/
theorem sent_answer {request : ServiceRequest} (net : LocalNet)
    (no_send : ∀ operation entryPoint, request ≠ .send operation entryPoint) :
    (answer request net).2.sent = net.sent := by
  rw [← sent_note net request]
  rcases answer_cases request net with ⟨outages, same⟩ | same
  · rw [same]
  · rw [same, sent_respond _ no_send]

/-! ## Runs -/

open Dialogue (Follows)

/-- In every course of a net all answers are candid. -/
theorem candid_of_follows (follows : Follows answer net exchanges after) :
    ∀ exchange ∈ exchanges, exchange.request.Candid exchange.reply := by
  intro exchange member
  obtain ⟨before, _, answered⟩ := follows.exists_answer exchange member
  have own := candid_answer exchange.request before
  rw [answered] at own
  exact own

/-- A net keeps the questions that went to another party, latest first. -/
theorem asked_of_follows (follows : Follows answer net exchanges after) :
    after.asked = ((exchanges.map (·.request)).filter (·.isRemote)).reverse ++ net.asked := by
  induction exchanges generalizing net with
  | nil =>
      obtain rfl : after = net := follows
      rfl
  | cons exchange rest ih =>
      obtain ⟨middle, answered, follows⟩ := follows
      have own := asked_answer exchange.request net
      rw [answered] at own
      rw [ih follows, own]
      cases remote : exchange.request.isRemote with
      | true => simp [remote]
      | false => simp [remote]

/-- A course in which nothing is sent leaves what was sent. -/
theorem sent_of_follows (follows : Follows answer net exchanges after)
    (no_send : ∀ exchange ∈ exchanges, ∀ operation entryPoint,
      exchange.request ≠ .send operation entryPoint) : after.sent = net.sent := by
  induction exchanges generalizing net with
  | nil =>
      obtain rfl : after = net := follows
      rfl
  | cons exchange rest ih =>
      obtain ⟨middle, answered, follows⟩ := follows
      obtain ⟨first, others⟩ := List.forall_mem_cons.mp no_send
      have own := sent_answer net first
      rw [answered] at own
      rw [ih follows others, own]

end AccountRelay.LocalNet
