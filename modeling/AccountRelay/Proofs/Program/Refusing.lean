import AccountRelay.LocalMachine
import AccountRelay.Proofs.Outcome
import AccountRelay.Proofs.Registry.Creating

/-! # Commands that are refused

A command reads all the values that its caller wrote before it does anything, and looks for the
wallet in the registry before it connects. `Program.faults` lists what is wrong with the values in
the order in which they are read: the first fault is what the command fails with
(`Program.runCommand_of_faults`). A command without faults begins with the look into the registry
if it works with a recorded wallet (`Program.exists_runCommand_eq`). So whatever the world, a
command that is refused has only looked (`MachineRequest.IsLook`) at files and at the environment,
and no request has gone over the network (`Program.run_refused`).
-/

namespace AccountRelay

open CommandLine (Command)

/-! ## Looks -/

/-- A look asks for nothing over the network. -/
theorem MachineRequest.IsLook.isRemote_eq {request : MachineRequest} (look : request.IsLook) :
    request.isRemote = false := by
  cases request with
  | file | environment | host => rfl
  | node | http => exact look.elim

/-- Looking at a machine in memory changes nothing. -/
theorem LocalMachine.answer_of_isLook {request : MachineRequest} (look : request.IsLook)
    (machine : LocalMachine) : (answer request machine).2 = machine := by
  cases request with
  | file request =>
      cases request with
      | hasEntry | read => rfl
      | createDirectories | lock | unlock | write | rename => exact look.elim
  | environment => rfl
  | node | http | host => exact look.elim

/-- The look into a registry is no more than a look. -/
theorem Registry.asks_requireRegistered (path : String) (wallet : Address) :
    (requireRegistered path wallet).Asks
      fun question => (MachineRequest.file question).IsLook := by
  have loads : (load path).Asks fun question => (MachineRequest.file question).IsLook := by
    rw [load_eq]
    refine ⟨trivial, ?_⟩
    rintro (_ | _)
    · trivial
    · refine ⟨trivial, ?_⟩
      rintro (fault | content)
      · obtain ⟨failure, failed⟩ := ofReply_error path fault
        rw [failed]
        trivial
      · rcases ofReply_ok path content with ⟨records, -, opened⟩ | ⟨-, failure, failed⟩
        · rw [opened]
          trivial
        · rw [failed]
          trivial
  apply loads.bind
  intro registry
  cases registry.get? wallet with
  | some record => trivial
  | none => trivial

namespace Program

/-! ## Reading the command -/

/-- Reads the settings and the command, which is all that a run does before it does what the command
says. -/
def readCommand (words : List String) : Dialogue Machine Stop (Settings × Command) := do
  let settings ← loadSettings.mapError .failure
  let values ← Machine.ofEnvironment (settings.select CommandLine.settingNames)
  match CommandLine.read values words with
  | .error fault => .fail (.usage fault)
  | .ok command => return (settings, command)

/-- The program reads its command, and then runs it. -/
theorem run_eq (words : List String) : run words = readCommand words >>= fun (settings, command) =>
    (runCommand settings command).mapError .failure := by
  unfold run readCommand
  rw [Dialogue.bind_assoc]
  refine congrArg _ (funext fun settings => ?_)
  rw [Dialogue.bind_assoc]
  refine congrArg _ (funext fun values => ?_)
  cases CommandLine.read values words with
  | error fault => rfl
  | ok command => rfl

/-- Reading the command line only looks. -/
theorem asks_readCommand (words : List String) :
    (readCommand words).Asks MachineRequest.IsLook := by
  have loads : loadSettings.Asks MachineRequest.IsLook := by
    have reads : (Files.content? settingsPath : FileWork (Option Bytes)).Asks
        fun question => (MachineRequest.file question).IsLook :=
      ⟨trivial, fun _ => trivial⟩
    apply (Machine.asks_ofFiles reads).bind
    rintro (_ | content)
    · trivial
    · exact Machine.asks_ofEnvironment _
  apply loads.mapError.bind
  intro settings
  apply (Machine.asks_ofEnvironment _).bind
  intro values
  cases CommandLine.read values words with
  | error fault => trivial
  | ok command => trivial

/-! ## Faults of values -/

/-- What is wrong with a value, if it does not parse. -/
def faultOf {α : Type} : Except Failure α → Option Failure
  | .ok _ => none
  | .error failure => some failure

/-- What is wrong with a value of a caller, if it does not parse. -/
def inputFault {α : Type} (value : Except InputError α) : Option Failure :=
  faultOf (value.mapError .input)

/-- What is wrong with the values that a caller wrote, in the order in which the command reads them.
A wallet to send from has to be chosen by exactly one of a salt and an address. -/
def faults : Command → List Failure
  | .account _ _ salt => [inputFault (Input.salt salt)].filterMap id
  | .send _ wallet salt callData => [
      inputFault (salt.mapM Input.salt),
      inputFault (wallet.mapM (Input.address "wallet")),
      if salt.isSome = wallet.isSome then some (.input .walletSelection) else none,
      inputFault (Input.bytes "callData" callData)].filterMap id
  | .transferEth _ wallet recipient amount => [
      inputFault (Input.address "wallet" wallet),
      inputFault (Input.address "to" recipient),
      inputFault (Input.amount "amount" amount)].filterMap id
  | .transferToken _ wallet token recipient amount => [
      inputFault (Input.address "wallet" wallet),
      inputFault (Input.address "token" token),
      inputFault (Input.address "to" recipient),
      inputFault (Input.amount "amount" amount)].filterMap id
  | .balance _ wallet token => [
      inputFault (Input.address "wallet" wallet),
      inputFault (token.mapM (Input.address "token"))].filterMap id
  | .status _ hash _ _ _ => [faultOf (Hash.ofCaller hash)].filterMap id
  | .createWallet _ | .listWallets _ => []

section Values

variable {α β : Type} {others : List (Option Failure)} {fault : Failure} {rest : List Failure}

/-- The first fault is that of the value that is read, or one of those that are read behind it. -/
theorem ofExcept_bind_eq_fail {value : Except Failure α} {next : α → MachineWork β}
    (found : (faultOf value :: others).filterMap id = fault :: rest)
    (behind : ∀ result, value = .ok result → others.filterMap id = fault :: rest →
      next result = .fail fault) : (Dialogue.ofExcept value >>= next) = .fail fault := by
  cases value with
  | ok result => exact behind result rfl found
  | error failure =>
      cases found
      rfl

/-- Where the first of the inputs is at fault its fault ends the work, and else what is behind it does.
-/
theorem written_bind_eq_fail {value : Except InputError α} {next : α → MachineWork β}
    (found : (inputFault value :: others).filterMap id = fault :: rest)
    (behind : ∀ result, value = .ok result → others.filterMap id = fault :: rest →
      next result = .fail fault) : (written value >>= next) = .fail fault := by
  apply ofExcept_bind_eq_fail found
  intro result parsed
  cases value with
  | ok own =>
      cases parsed
      exact behind result rfl
  | error error => cases parsed

end Values

/-- An optional input that is read is there exactly when it was given. -/
theorem isSome_of_mapM {ε α β : Type} {read : α → Except ε β} {value : Option α}
    {result : Option β} (parsed : value.mapM read = .ok result) : result.isSome = value.isSome := by
  cases value with
  | none =>
      cases parsed
      rfl
  | some value =>
      obtain ⟨own, -, ended⟩ := Outcome.bind_eq_ok_iff.mp parsed
      cases ended
      rfl

/-- A command with faults fails with the first one and does nothing. -/
theorem runCommand_of_faults (settings : Settings) {command : Command} {fault : Failure}
    {rest : List Failure} (found : faults command = fault :: rest) :
    runCommand settings command = .fail fault := by
  cases command with
  | account options key salt => exact written_bind_eq_fail found fun _ _ => nofun
  | send options wallet salt callData =>
      refine written_bind_eq_fail found fun chosen salted found => ?_
      refine written_bind_eq_fail found fun named walleted found => ?_
      have selection : inputFault (WalletChoice.ofParts chosen named) =
          if salt.isSome = wallet.isSome then some (.input .walletSelection) else none := by
        rw [← isSome_of_mapM salted, ← isSome_of_mapM walleted]
        rcases chosen with _ | chosen
        · rcases named with _ | named
          · rfl
          · rfl
        · rcases named with _ | named
          · rfl
          · rfl
      rw [← selection] at found
      refine written_bind_eq_fail found fun _ _ found => ?_
      exact written_bind_eq_fail found fun _ _ => nofun
  | transferEth options wallet recipient amount =>
      refine written_bind_eq_fail found fun _ _ found => ?_
      refine written_bind_eq_fail found fun _ _ found => ?_
      exact written_bind_eq_fail found fun _ _ => nofun
  | transferToken options wallet token recipient amount =>
      refine written_bind_eq_fail found fun _ _ found => ?_
      refine written_bind_eq_fail found fun _ _ found => ?_
      refine written_bind_eq_fail found fun _ _ found => ?_
      exact written_bind_eq_fail found fun _ _ => nofun
  | balance options wallet token =>
      refine written_bind_eq_fail found fun _ _ found => ?_
      exact written_bind_eq_fail found fun _ _ => nofun
  | status options hash wait maxWaitSeconds pollIntervalMilliseconds =>
      exact ofExcept_bind_eq_fail found fun _ _ => nofun
  | createWallet | listWallets => cases found

/-! ## Wallets that have to be recorded -/

/-- The registry that a command looks into, and the wallet that it looks for there. -/
def subject? : Command → Option (String × String)
  | .transferEth options wallet _ _ | .transferToken options wallet _ _ _ =>
    some (options.registry, wallet)
  | .balance options wallet _ => some (options.registry, wallet)
  | _ => none

/-- Where no input is at fault, the first is read and the others are not at fault either. -/
theorem exists_ok_of_sound {α : Type} {others : List (Option Failure)} {value : Except InputError α}
    (sound : (inputFault value :: others).filterMap id = []) :
    (∃ result, value = .ok result) ∧ others.filterMap id = [] := by
  cases value with
  | ok result => exact ⟨⟨result, rfl⟩, sound⟩
  | error error => cases sound

/-- A command without faults that works with a recorded wallet looks for it in the registry first. -/
theorem exists_runCommand_eq (settings : Settings) {command : Command} {path text : String}
    (sound : faults command = []) (works : subject? command = some (path, text)) :
    ∃ wallet next, Input.address "wallet" text = .ok wallet ∧
      runCommand settings command =
        Machine.ofFiles (Registry.requireRegistered path wallet) >>= next := by
  cases command with
  | transferEth options wallet recipient amount =>
      cases works
      obtain ⟨⟨wallet, named⟩, sound⟩ := exists_ok_of_sound sound
      obtain ⟨⟨recipient, addressed⟩, sound⟩ := exists_ok_of_sound sound
      obtain ⟨⟨amount, counted⟩, -⟩ := exists_ok_of_sound sound
      refine ⟨wallet, fun _ => submit settings options (.existing wallet)
        (WalletCall.withdrawEth recipient amount), named, ?_⟩
      rw [runCommand, transferEth, named, addressed, counted]
      rfl
  | transferToken options wallet token recipient amount =>
      cases works
      obtain ⟨⟨wallet, named⟩, sound⟩ := exists_ok_of_sound sound
      obtain ⟨⟨token, chosen⟩, sound⟩ := exists_ok_of_sound sound
      obtain ⟨⟨recipient, addressed⟩, sound⟩ := exists_ok_of_sound sound
      obtain ⟨⟨amount, counted⟩, -⟩ := exists_ok_of_sound sound
      refine ⟨wallet, fun _ => submit settings options (.existing wallet)
        (WalletCall.withdrawToken token recipient amount), named, ?_⟩
      rw [runCommand, transferToken, named, chosen, addressed, counted]
      rfl
  | balance options wallet token =>
      cases works
      obtain ⟨⟨wallet, named⟩, sound⟩ := exists_ok_of_sound sound
      obtain ⟨⟨token, chosen⟩, -⟩ := exists_ok_of_sound sound
      refine ⟨wallet, fun _ => do
        let deployment ← connect settings options
        let balance ← (Relay.ofDeployment deployment none none).consult
          (Lookup.balance wallet token)
        Machine.print balance.toDecimal, named, ?_⟩
      rw [runCommand, showBalance, named, chosen]
      rfl
  | account | createWallet | listWallets | send | status => cases works

/-! ## Refusals -/

section Refusals

variable {σ : Type} {answer : (request : MachineRequest) → σ → request.Answer × σ}

/-- A wallet that is not in the registry under a path, or whose registry does not open, when the
registry is looked into in a state of the world. -/
def IsUnrecorded (answer : (request : MachineRequest) → σ → request.Answer × σ) (state : σ)
    (path : String) (wallet : Address) : Prop :=
  ∀ registry, (Dialogue.run answer (Machine.ofFiles (Registry.load path)) state).1 = .ok registry →
    registry.get? wallet = none

/-- The command has a value that does not parse, or it works with a recorded wallet and the wallet is
not recorded. -/
def IsRefused (answer : (request : MachineRequest) → σ → request.Answer × σ) (state : σ)
    (command : Command) : Prop :=
  faults command ≠ [] ∨ ∃ path text wallet, subject? command = some (path, text) ∧
    Input.address "wallet" text = .ok wallet ∧ IsUnrecorded answer state path wallet

/-- A wallet that is not recorded does not pass. -/
theorem run_requireRegistered_of_isUnrecorded {state : σ} {path : String} {wallet : Address}
    (unrecorded : IsUnrecorded answer state path wallet) :
    ∃ failure, (Dialogue.run answer
      (Machine.ofFiles (Registry.requireRegistered path wallet)) state).1 = .error failure := by
  rw [Registry.requireRegistered, Machine.ofFiles_bind, Dialogue.run_bind]
  unfold IsUnrecorded at unrecorded
  cases loaded : Dialogue.run answer (Machine.ofFiles (Registry.load path)) state with
  | mk outcome after =>
      cases outcome with
      | error failure => exact ⟨failure, rfl⟩
      | ok registry =>
          have missing := unrecorded registry (congrArg Prod.fst loaded)
          exact ⟨.notRegistered wallet path, by simp only [missing]; rfl⟩

/-- A command that is refused fails, with its first fault if it has one, and has only looked. -/
theorem ends_of_isRefused (settings : Settings) {command : Command} {state : σ}
    (refused : IsRefused answer state command) :
    ∃ failure exchanges after, (runCommand settings command).Ends exchanges (.error failure) ∧
      Dialogue.Follows answer state exchanges after ∧
      (∀ exchange ∈ exchanges, exchange.request.IsLook) ∧
      ∀ fault rest, faults command = fault :: rest → failure = fault := by
  cases found : faults command with
  | cons fault rest =>
      refine ⟨fault, [], state, ?_, rfl, nofun, ?_⟩
      · rw [runCommand_of_faults settings found]
        exact ⟨rfl, rfl⟩
      · intro own others same
        exact (List.cons_eq_cons.mp same).1
  | nil =>
      obtain ⟨path, text, wallet, works, named, unrecorded⟩ :=
        refused.resolve_left (not_not_intro found)
      obtain ⟨own, next, also_named, same⟩ := exists_runCommand_eq settings found works
      cases named.symm.trans also_named
      obtain ⟨failure, failed⟩ := run_requireRegistered_of_isUnrecorded unrecorded
      obtain ⟨exchanges, ends, follows⟩ := Dialogue.exists_follows_run answer
        (Machine.ofFiles (Registry.requireRegistered path wallet)) state
      rw [failed] at ends
      refine ⟨failure, exchanges, _, ?_, follows, ?_, nofun⟩
      · rw [same]
        exact ends.of_bind_error
      · exact (Machine.asks_ofFiles (Registry.asks_requireRegistered path wallet)).of_ends ends

/-- **What is malformed or not recorded never reaches the network.** If the words are a command and
it is refused in the state in which it was read, then the run fails, with the first fault of its
values if there is one. All that was asked up to then are looks at files and at the environment:
there was no request to the node or to the bundler, and no file was made or changed. A world that
looks do not change is left as it was. -/
theorem run_refused {words : List String} {settings : Settings} {command : Command}
    {state ready : σ}
    (reads : Dialogue.run answer (readCommand words) state = (.ok (settings, command), ready))
    (refused : IsRefused answer ready command) :
    ∃ failure exchanges after,
      Dialogue.run answer (run words) state = (.error (.failure failure), after) ∧
      (∀ fault rest, faults command = fault :: rest → failure = fault) ∧
      (run words).Ends exchanges (.error (.failure failure)) ∧
      Dialogue.Follows answer state exchanges after ∧
      (∀ exchange ∈ exchanges, exchange.request.IsLook ∧ exchange.request.isRemote = false) ∧
      ((∀ request, request.IsLook → ∀ state, (answer request state).2 = state) →
        after = state) := by
  obtain ⟨first, read, follows_first⟩ :=
    Dialogue.exists_follows_run answer (readCommand words) state
  rw [reads] at read follows_first
  have first_looks := (asks_readCommand words).of_ends read
  obtain ⟨failure, rest, after, failed, follows_rest, rest_looks, fault⟩ :=
    ends_of_isRefused settings refused
  have ends : (run words).Ends (first ++ rest) (.error (.failure failure)) := by
    rw [run_eq]
    exact read.of_bind failed.of_mapError
  have follows := Dialogue.follows_append_iff.mpr ⟨ready, follows_first, follows_rest⟩
  have looks := List.forall_mem_append.mpr ⟨first_looks, rest_looks⟩
  refine ⟨failure, first ++ rest, after, ends.run_of_follows follows, fault, ends, follows, ?_, ?_⟩
  · intro exchange member
    exact ⟨looks exchange member, (looks exchange member).isRemote_eq⟩
  · intro inert
    exact follows.after_eq inert looks

/-- With a recipient and an amount that do not parse, the recipient is what the run fails with, and
the machine is left as it was. -/
theorem run_refused_of_two_faults :
    ∃ after, Dialogue.run LocalMachine.answer
      (run ["transfer-eth", "--wallet", "0x4242424242424242424242424242424242424242", "--to", "0x12",
        "--amount", "1.5"]) {} =
        (.error (.failure (.input (.address "to" "0x12"))), after) ∧
      after = {} := by
  let settings : Settings := []
  let options : CommandLine.OperationOptions := {
    deployment := "deployments/base-sepolia.json"
    rpc := none
    bundler := none
    registry := "data/wallets.json"
    ownerKey := none
    paymasterKey := none
    noPaymaster := false
    wait := false
    maxWaitSeconds := 120 }
  let command : Command :=
    .transferEth options "0x4242424242424242424242424242424242424242" "0x12" "1.5"
  have reads : Dialogue.run LocalMachine.answer
      (readCommand ["transfer-eth", "--wallet", "0x4242424242424242424242424242424242424242",
        "--to", "0x12", "--amount", "1.5"]) {} = (.ok (settings, command), {}) := rfl
  have found : faults command =
      [.input (.address "to" "0x12"), .input (.integer "amount" "1.5")] := rfl
  obtain ⟨failure, exchanges, after, ends, fault, -, -, -, unchanged⟩ :=
    run_refused reads (.inl (by rw [found]; exact List.cons_ne_nil _ _))
  rw [fault _ _ found] at ends
  exact ⟨after, ends, unchanged fun _ look => LocalMachine.answer_of_isLook look⟩

end Refusals

end Program

end AccountRelay
