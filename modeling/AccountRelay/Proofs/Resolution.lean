import AccountRelay.Proofs.Pipeline.Questions

/-! # How a wallet is resolved

The wallet of a salt is found by two questions, for its address and for its code, and only when there
is no code by a third one, for what creates it (`Resolver.ends_inspect_derived_iff`). To resolve a
wallet is to inspect it and then to fund it or not, so a wallet resolves to what an inspection finds
(`Resolver.ends_inspect_of_resolve`, `Resolver.run_inspect_of_resolve`).
-/

namespace AccountRelay.Resolver

variable {resolver : Resolver} {wallet : WalletChoice} {salt : Salt} {resolution : Resolution}
  {exchanges : List (Exchange Services)}

/-- What is found of the wallet of a salt, and by which exchanges. -/
inductive Finds (resolver : Resolver) (salt : Salt) : List (Exchange Services) → Resolution → Prop
  | deployed (sender : Address) (code : Bytes) (some_code : code ≠ []) :
    Finds resolver salt
      [⟨.counterfactualAddress resolver.owner salt, (.ok sender : Except Failure Address)⟩,
        ⟨.codeAt sender, (.ok code : Except Failure Bytes)⟩]
      { sender, deployed := true, init := none }
  | undeployed (sender : Address) (data : Bytes) :
    Finds resolver salt
      [⟨.counterfactualAddress resolver.owner salt, (.ok sender : Except Failure Address)⟩,
        ⟨.codeAt sender, (.ok [] : Except Failure Bytes)⟩,
        ⟨.createAccountCallData resolver.owner salt, (.ok data : Except Failure Bytes)⟩]
      { sender, deployed := false, init := some (resolver.factory, data) }

/-- The wallet of a salt is inspected by finding it. -/
theorem ends_inspect_derived_iff :
    (resolver.inspect (.derived salt)).Ends exchanges (.ok resolution) ↔
      resolver.Finds salt exchanges resolution := by
  constructor
  · intro ends
    obtain ⟨_, _, sender, rfl, derived, looks⟩ := ends.bind_ok
    obtain ⟨_, _, rfl, told⟩ := derived
    obtain ⟨rfl, rfl⟩ := Dialogue.Ends.ofExcept told
    obtain ⟨_, _, there, rfl, looked, finishes⟩ := looks.bind_ok
    obtain ⟨_, _, code, rfl, read, rfl, same⟩ := looked.bind_ok
    obtain ⟨_, _, rfl, told⟩ := read
    obtain ⟨rfl, rfl⟩ := Dialogue.Ends.ofExcept told
    cases same
    cases code with
    | cons first rest =>
        obtain ⟨rfl, same⟩ := finishes
        cases same
        exact .deployed sender (first :: rest) (List.cons_ne_nil _ _)
    | nil =>
        obtain ⟨_, _, data, rfl, written, rfl, same⟩ := finishes.bind_ok
        obtain ⟨_, _, rfl, told⟩ := written
        obtain ⟨rfl, rfl⟩ := Dialogue.Ends.ofExcept told
        cases same
        exact .undeployed sender data
  · rintro (⟨sender, code, some_code⟩ | ⟨sender, data⟩)
    · cases code with
      | nil => exact absurd rfl some_code
      | cons first rest => exact ⟨_, _, rfl, _, _, rfl, rfl, rfl⟩
    · exact ⟨_, _, rfl, _, _, rfl, _, _, rfl, rfl, rfl⟩

/-- What a wallet resolves to is what an inspection finds by the same answers. After that nothing is
asked but to fund the wallet. -/
theorem ends_inspect_of_resolve (ends : (resolver.resolve wallet).Ends exchanges (.ok resolution)) :
    ∃ looking funding, exchanges = looking ++ funding ∧
      (resolver.inspect wallet).Ends looking (.ok resolution) ∧
      ∀ exchange ∈ funding,
        exchange.request = .fund resolution.sender resolver.initialFunding := by
  obtain ⟨looking, _, found, rfl, inspected, ends⟩ := ends.bind_ok
  obtain ⟨funding, _, _, rfl, prepared, rfl, same⟩ := ends.bind_ok
  cases same
  refine ⟨looking, funding, by rw [List.append_nil], inspected, ?_⟩
  have funds : (resolver.prepare resolution).Asks
      (· = ServiceRequest.fund resolution.sender resolver.initialFunding) := by
    unfold prepare
    split
    · trivial
    · split
      · trivial
      · exact ⟨rfl, .ofExcept⟩
  exact funds.of_ends prepared

/-- In every world a wallet resolves to what an inspection finds there. -/
theorem run_inspect_of_resolve {σ : Type}
    {answer : (request : ServiceRequest) → σ → request.Answer × σ} {state : σ}
    (resolves : ((resolver.resolve wallet).run (I := Services) answer state).1 = .ok resolution) :
    ((resolver.inspect wallet).run (I := Services) answer state).1 = .ok resolution := by
  rw [resolve, Dialogue.run_bind] at resolves
  split at resolves
  · rename_i found middle inspected
    rw [Dialogue.run_bind] at resolves
    split at resolves
    · rw [inspected]
      exact resolves
    · cases resolves
  · cases resolves

end AccountRelay.Resolver
