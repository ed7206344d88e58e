import AccountRelay.LocalNet
import AccountRelay.Proofs.Concurrency.Nonces
import AccountRelay.Proofs.Dialogue.Exchanges
import Mathlib.Tactic.Choose

/-! # Worlds

Runs beside each other get their answers from a `World`, which may depend on everything that was done
before. It is consistent when the wallet of an owner and a salt is always the same
(`World.Consistent`), and it counts when its entry point answers with the number of operations of the
sender that were accepted so far, from some first nonce on (`World.Counts`). What a world counts
explains every history with its answers (`History.AnsweredBy.explains`). A net in memory is a world that
is consistent and counts (`World.consistent_ofNet`, `World.counts_ofNet`).
-/

namespace AccountRelay

variable {Id : Type}

/-- The answers that runs get, given what was done before. -/
abbrev World (Id : Type) := History Id → Id → (request : ServiceRequest) → request.Answer

/-- A world in which the wallet of an owner and a salt is always the same. -/
def World.Consistent (world : World Id) : Prop :=
  ∀ {owner salt before after first second left right},
    world before first (.counterfactualAddress owner salt) = (.ok left : Except Failure Address) →
    world after second (.counterfactualAddress owner salt) = (.ok right : Except Failure Address) →
    left = right

/-- A net in memory as a world. It stays as it is, but its entry point counts on from the nonces that
the net has for the operations that were accepted. -/
def World.ofNet (net : LocalNet) : World Id
  | history, _, .nonce sender =>
    match Uint256.ofNat? ((LocalNet.found net.nonces sender 0).toNat +
      (history.accepted sender).length) with
    | some nonce => .ok nonce
    | none => .error (.reported "the entry point is out of nonces")
  | _, _, request => (net.respond request).1

/-- A world that answers as one local net is consistent. -/
theorem World.consistent_ofNet (net : LocalNet) : (World.ofNet net : World Id).Consistent := by
  intro owner salt before after first second left right one two
  rw [← Except.ok.inj one, ← Except.ok.inj two]

/-- In a consistent world the addresses are those of one derivation. -/
theorem World.Consistent.exists_derive {world : World Id} (consistent : world.Consistent) :
    ∃ derive, ∀ history run request, DerivesAs derive request (world history run request) := by
  have derived : ∀ owner salt, ∃ wallet, ∀ history run other,
      world history run (.counterfactualAddress owner salt) = (.ok other : Except Failure Address) →
      other = wallet := by
    intro owner salt
    by_cases answered : ∃ history run wallet,
        world history run (.counterfactualAddress owner salt) =
          (.ok wallet : Except Failure Address)
    · obtain ⟨history, run, wallet, known⟩ := answered
      exact ⟨wallet, fun _ _ _ told => consistent told known⟩
    · exact ⟨owner, fun history run other told => absurd ⟨history, run, other, told⟩ answered⟩
  choose derive same using derived
  refine ⟨derive, ?_⟩
  intro history run request
  cases request with
  | counterfactualAddress owner salt => exact fun wallet told => same owner salt history run wallet told
  | _ => trivial

/-- A world whose entry point counts the accepted operations of each sender from a first nonce on. -/
def World.Counts (world : World Id) (first : Address → Nat) : Prop :=
  ∀ {history run sender nonce},
    world history run (.nonce sender) = (.ok nonce : Except Failure Uint256) →
    nonce.toNat = first sender + (history.accepted sender).length

/-- The entry point of a net in memory counts from the nonces that the net has. -/
theorem World.counts_ofNet (net : LocalNet) : (World.ofNet net : World Id).Counts fun sender =>
    (LocalNet.found net.nonces sender 0).toNat := by
  intro history run sender nonce told
  simp only [World.ofNet] at told
  split at told
  · rename_i known counted
    rw [← Except.ok.inj told]
    exact Uint256.ofNat?_eq_some.mp counted
  · cases told

/-- The entry point of a net in memory answers with the next nonce. -/
theorem World.nonce_ofNet {net : LocalNet} {history : History Id} {run : Id} {sender : Address}
    {nonce : Uint256} (counted : (LocalNet.found net.nonces sender 0).toNat +
      (history.accepted sender).length = nonce.toNat) :
    ofNet net history run (.nonce sender) = (.ok nonce : Except Failure Uint256) := by
  simp only [ofNet, counted]
  rw [Uint256.ofNat?_eq_some.mpr rfl]

namespace History

variable {world : World Id} {first : Address → Nat} {sender : Address}

/-- A history in which each answer is that of a world. -/
def AnsweredBy (world : World Id) : History Id → Prop
  | [] => True
  | ⟨_, .asked _⟩ :: history => AnsweredBy world history
  | ⟨run, .answered request reply⟩ :: history =>
    AnsweredBy world history ∧ reply = world history run request

/-- The beginnings of a history are answered by its world too. -/
theorem AnsweredBy.of_append {later history : History Id}
    (answered : AnsweredBy world (later ++ history)) : AnsweredBy world history := by
  induction later with
  | nil => exact answered
  | cons event later ih =>
      obtain ⟨run, act⟩ := event
      cases act with
      | asked request => exact ih answered
      | answered request reply => exact ih answered.1

/-- Earlier, no more operations had been accepted. -/
theorem length_accepted_le {earlier history : History Id} (part : earlier <:+ history) :
    (earlier.accepted sender).length ≤ (history.accepted sender).length :=
  (part.sublist.filterMap _).length_le

/-- The nonce of a sender after the first events of a history, when the entry point counts. -/
def tally (history : History Id) (first : Address → Nat) (events : Nat) (sender : Address) : Nat :=
  first sender + (accepted sender (history.drop (history.length - events))).length

/-- The tally after a beginning is what the beginning accepted, on top of the first count. -/
theorem tally_length (later before : History Id) :
    (later ++ before).tally first before.length sender =
      first sender + (before.accepted sender).length := by
  have dropped : (later ++ before).drop ((later ++ before).length - before.length) = before := by
    rw [List.length_append, Nat.add_sub_cancel]
    exact List.drop_left
  rw [tally, dropped]

/-- The tally never falls. -/
theorem tally_mono (history : History Id) {earlier later : Nat} (order : earlier ≤ later) :
    history.tally first earlier sender ≤ history.tally first later sender := by
  apply Nat.add_le_add_left
  apply length_accepted_le
  exact List.drop_suffix_drop_left history (Nat.sub_le_sub_left order history.length)

/-- The tally by the time of an answer, which is the last of some events. -/
theorem tally_exchange (later during before : History Id) (asked answered : Event Id) :
    (later ++ answered :: (during ++ asked :: before)).tally first
        (during.length + before.length + 2) sender =
      first sender + (accepted sender (answered :: (during ++ asked :: before))).length := by
  rw [← tally_length later]
  congr 1
  simp [Nat.add_assoc]

/-- The tally by the time of a question. -/
theorem tally_before (later during before : History Id) (asked answered : Event Id) :
    (later ++ answered :: (during ++ asked :: before)).tally first before.length sender =
      first sender + (before.accepted sender).length := by
  rw [← tally_length (later ++ answered :: (during ++ [asked]))]
  simp

/-- What a world counts explains a history with its answers. -/
theorem AnsweredBy.explains {history : History Id} (answered : history.AnsweredBy world)
    (counts : world.Counts first) : history.Explains (history.tally first) where
  grows _ order := history.tally_mono order
  reads := by
    rintro run sender nonce start finish ⟨later, during, before, rfl, -, rfl, rfl⟩
    have told := counts answered.of_append.2.symm
    rw [tally_before, tally_exchange, accepted_cons_of_none rfl, told]
    refine ⟨Nat.add_le_add_left (length_accepted_le ?_) _, Nat.le_refl _⟩
    exact (List.suffix_cons _ before).trans (List.suffix_append _ _)
  advances := by
    rintro run operation entryPoint hash start finish ⟨later, during, before, rfl, -, rfl, rfl⟩
    have taken : (Act.answered (.send operation entryPoint)
        (.ok hash : Except Failure Hash)).accepted? operation.sender = some operation.nonce :=
      if_pos rfl
    rw [tally_before, tally_exchange, accepted_cons_of_some taken, List.length_cons]
    apply Nat.add_lt_add_left
    apply Nat.lt_succ_of_le
    apply length_accepted_le
    exact (List.suffix_cons _ before).trans (List.suffix_append _ _)

end History

end AccountRelay
