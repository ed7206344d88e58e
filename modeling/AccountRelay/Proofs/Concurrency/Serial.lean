import AccountRelay.Proofs.Concurrency.Alone
import AccountRelay.Proofs.LocalNet.Reference

/-! # Runs of one sender come one after another

In any schedule, and whatever fails, the history of runs is serialized (`Runs.serialized_scheduled`): from
the reading of a nonce until the answer of the bundler, and on until the lock is given back, no other run
reads the nonce of the sender or sends for it, and no two operations that are accepted for a sender have
the same nonce.
-/

namespace AccountRelay

variable {Id : Type} [DecidableEq Id]

/-- A history in which the runs of one sender come one after another. -/
structure History.Serialized (history : History Id) : Prop where
  /-- Between a run's question for a nonce and the answer to what it sends, no other run asks for the
  nonce of the sender or sends for it. -/
  until_sent : ∀ {later during before : History Id} {run : Id} {sender : Address}
    {operation : Operation} {entryPoint : Address}
    {reply : (ServiceRequest.send operation entryPoint).Answer},
    history = later ++ ⟨run, .answered (.send operation entryPoint) reply⟩ ::
      (during ++ ⟨run, .asked (.nonce sender)⟩ :: before) →
    operation.sender = sender ∧
      ∀ event ∈ during, event.run ≠ run → ¬ event.act.Concerns sender
  /-- Nor does one as long as the run, failed or not, has not given its lock back. -/
  until_released : ∀ {during before : History Id} {run : Id} {sender : Address},
    history = during ++ ⟨run, .asked (.nonce sender)⟩ :: before →
    (∀ event ∈ during, event.run = run → ∀ other, event.act ≠ .asked (.release other)) →
    ∀ event ∈ during, event.run ≠ run → ¬ event.act.Concerns sender
  /-- When accepted operations are counted, no two of a sender have the same nonce. -/
  distinct_nonces : ∀ {count : Nat → Address → Nat}, history.Explains count →
    ∀ sender, (history.accepted sender).Nodup

/-- Every legal history is serialized, as its runs hold a sender's lock one after another. -/
theorem History.Legal.serialized {history : History Id} (legal : history.Legal) :
    history.Serialized where
  until_sent shape := by
    rw [shape] at legal
    exact legal.of_append.undisturbed_until_sent
  until_released shape kept := by
    rw [shape] at legal
    exact legal.undisturbed_until_released kept
  distinct_nonces explains sender := by
    apply (legal.accepted_pairwise explains sender).imp
    rintro later earlier less rfl
    exact Nat.lt_irrefl _ less

namespace Runs

/-- **Runs of one sender come one after another**, in any schedule and whatever fails, as long as
the wallet of an owner and a salt is always the same. -/
theorem serialized_scheduled {world : World Id} (consistent : world.Consistent)
    (pipeline : Pipeline) (requests : Id → Request) (schedule : List Id) :
    (scheduled world pipeline requests schedule).history.Serialized := by
  obtain ⟨derive, expected⟩ := consistent.exists_derive
  exact (sound_scheduled expected pipeline requests schedule).legal.serialized

/-- A net with one wallet, whose bundler takes what it gets. -/
def takingNet : LocalNet :=
  { LocalNet.obliging with code := [.filled 20 0x11] }

/-- The request of each of two runs for that wallet. -/
def rival : Request where
  wallet := .existing (.filled 20 0x11)

omit [DecidableEq Id] in
/-- A run for the wallet signs an operation with the next nonce. -/
theorem exists_run_signLocked {history : History Id} {nonce : Uint256} (run : Id)
    (counted : (history.accepted (.filled 20 0x11)).length = nonce.toNat) :
    ∃ signed packed before, (Pipeline.onLocalNet.signLocked rival).run
        ((World.ofNet takingNet).answer run) history = (.ok signed, before) ∧
      signed.operation.sender = .filled 20 0x11 ∧ signed.operation.nonce = nonce ∧
      signed.operation.pack = .ok packed ∧
      before.accepted (.filled 20 0x11) = history.accepted (.filled 20 0x11) := by
  obtain ⟨found, resolved⟩ : ∃ found, (Pipeline.onLocalNet.resolver.resolve rival.wallet).run
      ((World.ofNet takingNet).answer run) history = (.ok ⟨.filled 20 0x11, true, none⟩, found) :=
    ⟨_, rfl⟩
  have resolves : (Pipeline.onLocalNet.resolver.resolve rival.wallet).Asks ServiceRequest.IsQuiet :=
    Resolver.asks_resolve _ _ (fun _ => not_false) (fun _ _ => ⟨not_false, not_false⟩)
      fun _ _ => not_false
  have same : found.accepted (.filled 20 0x11) = history.accepted (.filled 20 0x11) :=
    World.accepted_run_of_asks resolves resolved
  have told : World.ofNet takingNet (⟨run, .asked (.nonce (.filled 20 0x11))⟩ :: found) run
      (.nonce (.filled 20 0x11)) = (.ok nonce : Except Failure Uint256) := by
    apply World.nonce_ofNet
    rw [History.accepted_cons_of_none rfl, same, counted]
    exact Nat.zero_add _
  have reads : (Services.nonce (.filled 20 0x11)).run ((World.ofNet takingNet).answer run) found =
      (.ok nonce, ⟨run, .answered (.nonce (.filled 20 0x11)) (.ok nonce : Except Failure Uint256)⟩ ::
        ⟨run, .asked (.nonce (.filled 20 0x11))⟩ :: found) :=
    World.run_asking told .ofExcept
  rw [Pipeline.signLocked, Dialogue.run_bind, resolved]
  dsimp only
  rw [Dialogue.run_bind, reads]
  exact ⟨_, _, _, rfl, rfl, rfl, rfl, same⟩

omit [DecidableEq Id] in
/-- A run for the wallet has its operation accepted with the next nonce. -/
theorem exists_run_sendLocked {history : History Id} {nonce : Uint256} (run : Id)
    (counted : (history.accepted (.filled 20 0x11)).length = nonce.toNat) :
    ∃ hash after, (Pipeline.onLocalNet.sendLocked rival).run
        ((World.ofNet takingNet).answer run) history = (.ok hash, after) ∧
      after.accepted (.filled 20 0x11) = nonce :: history.accepted (.filled 20 0x11) := by
  obtain ⟨signed, packed, before, signs, sender, rfl, packs, same⟩ := exists_run_signLocked run counted
  rw [Pipeline.sendLocked_eq_signLocked, Dialogue.run_bind, signs, ← same, ← sender]
  exact World.exists_run_finish rfl _ packs

/-- A run for the wallet that has the lock and is let alone has its operation accepted. -/
theorem exists_accepted {runs : Runs Id} {run : Id} {next : Except Failure Hash → Consultation Hash}
    {nonce : Uint256} (ready : runs.position run =
      .ready ((Pipeline.onLocalNet.sendLocked rival).attempt >>= next))
    (counted : (runs.history.accepted (.filled 20 0x11)).length = nonce.toNat) :
    ∃ steps hash after, (List.replicate steps run).foldl (step (.ofNet takingNet)) runs =
        { locks := runs.locks
          position := Function.update runs.position run (.ready (next (.ok hash)))
          history := after } ∧
      after.accepted (.filled 20 0x11) = nonce :: runs.history.accepted (.filled 20 0x11) := by
  obtain ⟨hash, after, sends, accepted⟩ := exists_run_sendLocked run counted
  obtain ⟨steps, alone⟩ := exists_alone (.ofNet takingNet) (Pipeline.asks_sendLocked _ rival) ready
  rw [sends] at alone
  exact ⟨steps, hash, after, alone, accepted⟩

/-- Two runs for the wallet, after the steps of a schedule. -/
def rivals (schedule : List Bool) : Runs Bool :=
  scheduled (.ofNet takingNet) .onLocalNet (fun _ => rival) schedule

/-- Rivals who were scheduled go on from where they stood. -/
theorem rivals_append (earlier later : List Bool) :
    rivals (earlier ++ later) = later.foldl (step (.ofNet takingNet)) (rivals earlier) :=
  List.foldl_append

/-- What a run for the wallet does when its attempt under the lock has come to an outcome. -/
def releasing (outcome : Except Failure Hash) : Consultation Hash := do
  Services.asking (.release (.filled 20 0x11)) fun _ => .done ()
  .ofExcept outcome

/-- Both runs have asked for the lock, and one has it: its operation is accepted while the other waits,
which is ready for its own attempt then. -/
theorem exists_handed_over : ∃ later,
    (rivals ([true, true, false, false] ++ later)).position false =
      .ready ((Pipeline.onLocalNet.sendLocked rival).attempt >>= releasing) ∧
    (rivals ([true, true, false, false] ++ later)).history.accepted (.filled 20 0x11) = [0] := by
  have ready : (rivals [true, true, false, false]).position true =
      .ready ((Pipeline.onLocalNet.sendLocked rival).attempt >>= releasing) := rfl
  have counted : ((rivals [true, true, false, false]).history.accepted (.filled 20 0x11)).length =
      (0 : Uint256).toNat := rfl
  obtain ⟨steps, hash, sent, alone, accepted⟩ := exists_accepted ready counted
  -- the lock is given back in two steps, and the other run finds it held with its next look
  refine ⟨List.replicate steps true ++ [true, true, false], ?_⟩
  rw [← List.append_assoc, rivals_append, rivals_append, alone]
  exact ⟨rfl, accepted⟩

/-- Two runs ask for the lock of the wallet. The one that gets it has its operation accepted before the
other, which waits for the lock meanwhile. -/
theorem serialized_rivals :
    (World.ofNet takingNet : World Bool).Consistent ∧ ∃ schedule count,
      let history := (rivals schedule).history
      [⟨false, .asked (.acquire (.filled 20 0x11))⟩, ⟨true, .answered (.acquire (.filled 20 0x11)) ()⟩,
        ⟨true, .asked (.acquire (.filled 20 0x11))⟩] <:+ history ∧
      history.accepted (.filled 20 0x11) = [1, 0] ∧ history.Explains count ∧ history.Serialized := by
  obtain ⟨later, ready, one_accepted⟩ := exists_handed_over
  have counted : ((rivals ([true, true, false, false] ++ later)).history.accepted
      (.filled 20 0x11)).length = (1 : Uint256).toNat := by
    rw [one_accepted]
    rfl
  obtain ⟨steps, hash, after, alone, accepted⟩ := exists_accepted ready counted
  have consistent := @World.consistent_ofNet Bool takingNet
  refine ⟨consistent, [true, true, false, false] ++ later ++ List.replicate steps false, _, ?_, ?_,
    explains_scheduled (@World.counts_ofNet Bool takingNet) _ _ _,
    serialized_scheduled consistent _ _ _⟩
  · rw [List.append_assoc, rivals_append]
    exact history_suffix_foldl _ (rivals [true, true, false, false]) _
  · rw [rivals_append, alone, ← one_accepted]
    exact accepted

end Runs

end AccountRelay
