import AccountRelay.LocalMachine
import AccountRelay.Proofs.Pipeline.BareQuestions

/-! # What a machine is asked without the data of the paymaster

A relay does not tell the bundler of the data when it has gas estimated. So all that can depend on them
is the hash that the contract of the paymaster names. On a machine where it does not (`Relay.Disregards`),
requests that differ only in the data end in the same way (`Relay.Disregards.alike_send`).
-/

namespace AccountRelay

open Dialogue (Alike)
open ServiceRequest (askBare)
open Consultation (bared)

section

variable {σ α : Type} {relay : Relay} {answer : (request : MachineRequest) → σ → request.Answer × σ}
  {same : σ → σ → Prop}

/-- A machine on which the hash that a paymaster wants signed does not depend on the data that stand in
for its authorization. -/
structure Relay.Disregards (relay : Relay)
    (answer : (request : MachineRequest) → σ → request.Answer × σ) (same : σ → σ → Prop) : Prop
    extends Likeness (I := Machine) answer same where
  paymasterHash : ∀ paymaster operation window, Alike (I := Machine) answer same
    (relay.answer (.paymasterHash paymaster operation window))
    (relay.answer (.paymasterHash paymaster { operation with
      paymasterAndData := operation.paymasterAndData.take paymasterDataOffset } window))

namespace Relay

/-- A relay does not tell the bundler of the data when it has gas estimated. -/
theorem answer_estimate_withData (relay : Relay) (operation : Operation) (entryPoint : Address)
    (data : Bytes) :
    relay.answer (.estimate { operation with paymasterData := data } entryPoint) =
      relay.answer (.estimate operation entryPoint) :=
  rfl

namespace Disregards

variable (disregards : relay.Disregards answer same)

include disregards

/-- A question and its bare form are served alike. -/
theorem alike_askBare (request : ServiceRequest) : Alike (I := Machine) answer same
    (relay.answer request) ((askBare request).interpret relay.answer) := by
  cases request with
  | paymasterHash paymaster operation window =>
      apply (congrArg (Alike (I := Machine) answer same _) (Dialogue.bind_done _)).mpr
      exact disregards.paymasterHash paymaster operation window
  | estimate operation entryPoint =>
      apply (congrArg (Alike (I := Machine) answer same _) (Dialogue.bind_done _)).mpr
      rw [← relay.answer_estimate_withData operation entryPoint []]
      exact disregards.alike _
  | _ =>
      apply (congrArg (Alike (I := Machine) answer same _) (Dialogue.bind_done _)).mpr
      exact disregards.alike _

/-- A consultation and its bare form are served alike. -/
theorem alike_bared (consultation : Consultation α) : Alike (I := Machine) answer same
    (relay.consult consultation) ((bared consultation).interpret relay.answer) := by
  have asked := Dialogue.interpret_interpret (I := Services) askBare relay.answer consultation
  rw [bared, asked]
  exact Alike.interpret disregards.alike_askBare consultation

/-- Requests that differ only in the data end in the same way on such a machine. -/
theorem alike_send (pipeline : Pipeline) (request : Request) (data : Bytes) :
    Alike (I := Machine) answer same (relay.consult (pipeline.send request))
      (relay.consult (pipeline.send { request with paymasterData := data })) := by
  have bare := disregards.alike_bared (pipeline.send request)
  rw [← pipeline.bared_send request data] at bare
  exact disregards.alike_trans bare (disregards.alike_symm (disregards.alike_bared _))

end Disregards

end Relay

end

/-! ## A machine in memory -/

/-- The request without the data of a call. -/
def NodeRequest.withoutData : NodeRequest → NodeRequest
  | .query (.call call) => .query (.call { call with data := [] })
  | request => request

namespace LocalMachine

/-- Machines are the same without call data when the node was asked the same but for them, and all else is
the same. -/
def SameButCallData (one other : LocalMachine) : Prop :=
  ∃ asked, other = { one with asked } ∧
    asked.map NodeRequest.withoutData = one.asked.map NodeRequest.withoutData

/-- What was asked before makes no difference to looking something up. -/
theorem exists_lookUp_asked (query : NodeQuery) (machine : LocalMachine) :
    ∃ latest, ∀ asked, ({ machine with asked } : LocalMachine).lookUp query =
      ((machine.lookUp query).1, { (machine.lookUp query).2 with asked := latest ++ asked }) := by
  unfold lookUp
  split
  · refine ⟨[.query query], fun asked => ?_⟩
    simp only [nextReply]
    split <;> rfl
  · exact ⟨[], fun _ => rfl⟩

/-- What was asked before makes no difference to a transaction. -/
theorem exists_send_asked (transaction : Transaction) (machine : LocalMachine) :
    ∃ latest, ∀ asked, ({ machine with asked } : LocalMachine).send transaction =
      ((machine.send transaction).1, { (machine.send transaction).2 with asked := latest ++ asked }) := by
  obtain ⟨tree, environment, isConnected, replies, fate, serve, time, uptime, asked, posted, lines,
    warnings⟩ := machine
  cases fate with
  | none =>
      by_cases plain : transaction.data = none
      · obtain ⟨latest, looked⟩ := exists_lookUp_asked .gasPrice
          ⟨tree, environment, isConnected, replies, none, serve, time, uptime, asked, posted, lines,
            warnings⟩
        refine ⟨latest, fun others => ?_⟩
        simp only [send, plain, ↓reduceIte]
        exact congrArg (fun looked => (Except.error "not passed on", looked.2)) (looked others)
      · refine ⟨[], fun _ => ?_⟩
        simp only [send, plain, ↓reduceIte]
        rfl
  | some fate => exact ⟨[.send transaction], fun _ => rfl⟩

/-- A machine answers whatever its node was asked before. -/
theorem exists_answer_asked (request : MachineRequest) (machine : LocalMachine) :
    ∃ latest, ∀ asked, answer request { machine with asked } =
      ((answer request machine).1, { (answer request machine).2 with asked := latest ++ asked }) := by
  cases request with
  | node endpoint request =>
      cases request with
      | query query => exact exists_lookUp_asked query machine
      | send transaction => exact exists_send_asked transaction machine
      | settle transaction =>
          refine ⟨[], fun asked => ?_⟩
          simp only [answer, answerNode]
          split <;> rfl
  | host request =>
      cases request with
      | _ => exact ⟨[], fun _ => rfl⟩
  | _ => exact ⟨[], fun _ => rfl⟩

/-- Machines that were asked the same up to call data answer alike, and stay so. -/
theorem likeness_answer : Likeness (I := Machine) answer SameButCallData where
  symm := by
    rintro one _ ⟨asked, rfl, same⟩
    exact ⟨one.asked, rfl, same.symm⟩
  trans := by
    rintro one _ _ ⟨asked, rfl, same⟩ ⟨asked', rfl, same'⟩
    exact ⟨asked', rfl, same'.trans same⟩
  answers := by
    rintro request one _ ⟨asked, rfl, same⟩
    obtain ⟨latest, answered⟩ := exists_answer_asked request one
    rw [answered asked]
    refine ⟨rfl, _, rfl, ?_⟩
    change (latest ++ asked).map _ = (answer request { one with asked := one.asked }).2.asked.map _
    rw [answered one.asked, List.map_append, List.map_append, same]

/-- Calls of one contract get the same reply, whatever their data. -/
theorem lookUp_call {call other : ContractCall} (same_target : call.target = other.target)
    {one two : LocalMachine} (same : SameButCallData one two) :
    (one.lookUp (.call call)).1 = (two.lookUp (.call other)).1 ∧
      SameButCallData (one.lookUp (.call call)).2 (two.lookUp (.call other)).2 := by
  obtain ⟨asked, rfl, same⟩ := same
  have noted : (NodeRequest.query (.call other) :: asked).map NodeRequest.withoutData =
      (NodeRequest.query (.call call) :: one.asked).map NodeRequest.withoutData := by
    simp only [List.map_cons, NodeRequest.withoutData, same_target, same]
  simp only [lookUp, nextReply, NodeQuery.method]
  split
  · split
    · exact ⟨rfl, _, rfl, noted⟩
    · exact ⟨rfl, _, rfl, noted⟩
    · exact ⟨rfl, _, rfl, noted⟩
    · exact ⟨rfl, _, rfl, noted⟩
  · exact ⟨rfl, asked, rfl, same⟩

/-- What is read from the reply to a call does not depend on the data of the call. -/
theorem alike_wordOf (relay : Relay) (context : Context) {call other : ContractCall}
    (same_target : call.target = other.target) : Alike (I := Machine) answer SameButCallData
      (relay.fromNode (Contracts.wordOf context call))
      (relay.fromNode (Contracts.wordOf context other)) := by
  have asked : Alike (I := Machine) answer SameButCallData
      (Machine.request (.node relay.node (.query (.call call))) :
        MachineWork (Except String Json.Value))
      (Machine.request (.node relay.node (.query (.call other)))) :=
    fun _ _ same => (lookUp_call same_target same).imp_left (congrArg Except.ok)
  exact asked.bind fun reply => likeness_answer.alike _

/-- A machine in memory disregards the data of calls, so it does those of a paymaster. -/
theorem disregards (relay : Relay) : relay.Disregards answer SameButCallData where
  toLikeness := likeness_answer
  paymasterHash := fun _ _ _ => alike_wordOf relay .readPaymasterHash rfl

end LocalMachine

end AccountRelay
