import AccountRelay.Program
import AccountRelay.Proofs.Dialogue.Histories
import AccountRelay.Proofs.Registry.Stored

/-! # How a run creates a wallet

A run that creates a wallet takes the lock of the registry, reads the registry, has a wallet deployed,
writes the longer document next to the registry, lets it take the registry's name, and gives the lock
back. How far it is follows from its exchanges (`Registry.stage`). What it may ask in each stage
(`Registry.Permits`) is all that a run asks (`Program.keeps_createWallet`), and it writes no other
record than that of the wallet which it has had deployed with the salt that comes next
(`Registry.Deploys`).
-/

namespace AccountRelay

open Registry (lockPath tempPath)

/-! ## Quiet questions -/

/-- A question that changes neither a file nor a lock. -/
def MachineRequest.IsQuiet : MachineRequest → Prop
  | .file (.lock _) | .file (.unlock _) | .file (.write _ _) | .file (.rename _ _) => False
  | _ => True

/-- A question for a file or for a variable of the environment. -/
def MachineRequest.IsLook : MachineRequest → Prop
  | .file (.hasEntry _) | .file (.read _) | .environment _ => True
  | _ => False

/-- A look, or a question to the node. -/
def MachineRequest.IsConnecting : MachineRequest → Prop
  | .node _ _ => True
  | request => request.IsLook

/-- To connect, a run may look. -/
theorem MachineRequest.IsLook.isConnecting {request : MachineRequest} (look : request.IsLook) :
    request.IsConnecting := by
  cases request with
  | node => trivial
  | file | environment | http | host => exact look

/-- To connect, a run changes neither a file nor a lock. -/
theorem MachineRequest.IsConnecting.isQuiet {request : MachineRequest}
    (connecting : request.IsConnecting) : request.IsQuiet := by
  cases request with
  | file request =>
      cases request with
      | hasEntry | read | createDirectories => trivial
      | lock | unlock | write | rename => exact connecting
  | environment | node | http | host => trivial

/-- A question that goes past the files. -/
def MachineRequest.IsElsewhere (request : MachineRequest) : Prop :=
  ∀ question, request ≠ .file question

/-- What goes past the files changes neither a file nor a lock. -/
theorem MachineRequest.IsElsewhere.isQuiet {request : MachineRequest}
    (elsewhere : request.IsElsewhere) : request.IsQuiet := by
  cases request with
  | file question => exact absurd rfl (elsewhere question)
  | environment | node | http | host => trivial

/-- File work that goes on goes on through the machine. -/
theorem Machine.ofFiles_bind {α β : Type} (work : FileWork α) (next : α → FileWork β) :
    ofFiles (work >>= next) = ofFiles work >>= fun value => ofFiles (next value) :=
  Dialogue.interpret_bind _ _ _

/-- An attempt at file work is an attempt through the machine. -/
theorem Machine.ofFiles_attempt {α ε ε' : Type} (work : Dialogue Files ε α) :
    ofFiles (work.attempt : Dialogue Files ε' (Except ε α)) = (ofFiles work).attempt := by
  induction work with
  | done value => rfl
  | fail error => rfl
  | ask request follow ih => exact congrArg (Dialogue.ask (I := Machine) (.file request)) (funext ih)

/-- One request asks what it asks. -/
theorem Machine.asks_request {ε : Type} {allowed : MachineRequest → Prop} {question : MachineRequest}
    (permitted : allowed question) :
    (request question : Dialogue Machine ε question.Answer).Asks allowed :=
  ⟨permitted, fun _ => trivial⟩

/-- Work with the environment only looks. -/
theorem Machine.asks_ofEnvironment {ε α : Type} (work : Dialogue Environment ε α) :
    (ofEnvironment work).Asks MachineRequest.IsLook :=
  work.asks_any.interpret fun _ _ => asks_request trivial

/-- File work asks through the machine for the files that it asks for. -/
theorem Machine.asks_ofFiles {ε α : Type} {allowed : MachineRequest → Prop} {work : Dialogue Files ε α}
    (asks : work.Asks fun question => allowed (.file question)) : (ofFiles work).Asks allowed :=
  asks.interpret fun _ permitted => asks_request permitted

/-- Asking the node asks nobody else. -/
theorem Relay.asks_fromNode {α : Type} {allowed : MachineRequest → Prop} (relay : Relay)
    (work : NodeWork α) (permitted : ∀ question, allowed (.node relay.node question)) :
    (relay.fromNode work).Asks allowed :=
  (work.asks_any.interpret fun question _ => Machine.asks_request (permitted question)).attempt

/-- Asking the bundler puts the posts that its work puts. -/
theorem Relay.asks_fromBundler {α : Type} {allowed : MachineRequest → Prop} {work : HttpWork α}
    (asks : work.Asks fun question => allowed (.http question)) : (fromBundler work).Asks allowed :=
  (asks.interpret fun _ permitted => Machine.asks_request permitted).attempt

/-- A relay answers a question without the files. -/
theorem Relay.asks_answer (relay : Relay) (request : ServiceRequest) :
    (relay.answer request).Asks MachineRequest.IsElsewhere := by
  have node {α : Type} (work : NodeWork α) : (relay.fromNode work).Asks MachineRequest.IsElsewhere :=
    relay.asks_fromNode work fun _ => nofun
  have bundler {α : Type} (work : HttpWork α) : (fromBundler work).Asks MachineRequest.IsElsewhere :=
    asks_fromBundler (work.asks_any.mono fun _ _ => nofun)
  cases request with
  | codeAt | gasPrice | chainId | balanceOf | counterfactualAddress | nonce | operationHash
  | paymasterHash | fund | tokenBalance => exact node _
  | estimate | send | receipt | priorityFee => exact bundler _
  | now | uptime | pause | warn => exact Machine.asks_request nofun
  | createAccountCallData | ownerSign | paymasterSign | acquire | release => trivial

/-- A consultation through a relay goes past the files. -/
theorem Relay.asks_consult {α : Type} (relay : Relay) (consultation : Consultation α) :
    (relay.consult consultation).Asks MachineRequest.IsElsewhere :=
  consultation.asks_any.interpret fun request _ => relay.asks_answer request

namespace Program

/-- A question about settings that is a look. -/
def IsLook : (Files.sum Environment).Request → Prop
  | .inl question => (MachineRequest.file question).IsLook
  | .inr _ => True

/-- Loading a deployment only looks. -/
theorem asks_load (path : String) (rpc bundler : Option String) :
    (Deployment.load path rpc bundler).Asks IsLook := by
  have reads : (Files.readText (.readDeployment path) path).Asks
      fun question => (MachineRequest.file question).IsLook :=
    ⟨trivial, fun _ => .ofExcept _⟩
  apply Dialogue.Asks.bind (reads.interpret fun question reading => ?_)
  · intro text
    cases Deployment.Document.read text with
    | none => trivial
    | some document =>
        apply Dialogue.Asks.bind ((Deployment.nodeUrl document rpc).asks_any.interpret fun _ _ => ?_)
        · exact fun _ => .ofExcept _
        · exact ⟨trivial, fun _ => trivial⟩
  · exact ⟨reading, fun _ => trivial⟩

/-- Loading the deployment that options name only looks. -/
theorem asks_loadDeployment (settings : Settings) (options : CommandLine.CommonOptions) :
    (loadDeployment settings options).Asks MachineRequest.IsLook := by
  apply (asks_load options.deployment options.rpc options.bundler).interpret
  rintro (question | name) look
  · exact Machine.asks_request look
  · exact Machine.asks_ofEnvironment (settings.lookUp name)

/-- Connecting looks and asks the node, and nothing else. -/
theorem asks_connect (settings : Settings) (options : CommandLine.CommonOptions) :
    (connect settings options).Asks MachineRequest.IsConnecting := by
  apply ((asks_loadDeployment settings options).mono fun _ => (·.isConnecting)).bind
  intro deployment
  apply (Dialogue.Asks.ofExcept _).bind
  intro _
  have follows : (Lookup.ensureChain deployment.chainId).Asks (· = ServiceRequest.chainId) := by
    refine Dialogue.Asks.bind ⟨rfl, .ofExcept⟩ fun actual => ?_
    split
    · trivial
    · trivial
  apply (follows.interpret ?_).bind
  · exact fun _ => trivial
  · rintro _ rfl
    exact (Relay.ofDeployment deployment none none).asks_fromNode _ fun _ => trivial

/-- Opening a session looks and asks the node, and nothing else. -/
theorem asks_openSession (settings : Settings) (options : CommandLine.OperationOptions) :
    (openSession settings options).Asks MachineRequest.IsConnecting := by
  apply (asks_connect settings options.toCommonOptions).bind
  intro deployment
  apply (Dialogue.Asks.ofExcept _).bind
  intro owner
  apply (Dialogue.Asks.ofExcept _).bind
  exact fun _ => trivial

end Program

namespace Registry

/-! ## Stages -/

/-- How far a run is with the registry. -/
inductive Stage
  /-- Has no lock yet. -/
  | outside
  | locked (token : LockToken)
  /-- Knows the records. -/
  | opened (token : LockToken) (records : List WalletRecord)
  /-- Has written a longer list under the temporary name. -/
  | written (token : LockToken) (records longer : List WalletRecord)
  | recorded (token : LockToken) (records : List WalletRecord)
  /-- Has given the lock back, with a list recorded or without. -/
  | released (recorded : Option (List WalletRecord))

namespace Stage

/-- The lock that a run has. -/
def token? : Stage → Option LockToken
  | .outside | .released _ => none
  | .locked token | .opened token _ | .written token _ _ | .recorded token _ => some token

/-- The list that a run has recorded. -/
def recorded? : Stage → Option (List WalletRecord)
  | .recorded _ records => some records
  | .released own => own
  | _ => none

/-- The stage after an exchange. -/
def next : Stage → Exchange Machine → Stage
  | .outside, ⟨.file (.lock _), .ok token⟩ => .locked token
  | .locked token, ⟨.file (.hasEntry _), false⟩ => .opened token []
  | .locked token, ⟨.file (.read _), .ok content⟩ =>
    match spelled? content with
    | some records => .opened token records
    | none => .locked token
  | .opened token records, ⟨.file (.write _ text), .ok ()⟩ =>
    match Document.read text with
    | some longer => .written token records longer
    | none => .opened token records
  | .written token _ longer, ⟨.file (.rename _ _), .ok ()⟩ => .recorded token longer
  | stage, ⟨.file (.unlock _), _⟩ => .released stage.recorded?
  | stage, _ => stage

end Stage

/-- A quiet question leaves a run in its stage, unless the run has the lock and knows no records yet.
-/
theorem Stage.next_of_quiet {stage : Stage} (unlocked : ∀ token, stage ≠ .locked token)
    {request : MachineRequest} (quiet : request.IsQuiet) (reply : request.Answer) :
    stage.next ⟨request, reply⟩ = stage := by
  cases stage with
  | locked token => exact absurd rfl (unlocked token)
  | outside | opened | written | recorded | released =>
      cases request with
      | file request =>
          cases request with
          | lock | unlock | write | rename => exact quiet.elim
          | hasEntry | read | createDirectories => rfl
      | environment | node | http | host => rfl

/-! What an exchange of each kind may change. -/

/-- Of whether a file is there a run learns, at most, that there are no records yet. -/
theorem Stage.next_hasEntry (stage : Stage) (path : String) (there : Bool) :
    stage.next ⟨.file (.hasEntry path), there⟩ = stage ∨ ∃ token, stage = .locked token ∧
      there = false ∧ stage.next ⟨.file (.hasEntry path), there⟩ = .opened token [] := by
  cases stage with
  | locked token =>
      cases there with
      | true => exact .inl rfl
      | false => exact .inr ⟨token, rfl, rfl, rfl⟩
  | outside | opened | written | recorded | released => exact .inl rfl

/-- From reading a file a run learns, at most, which records are stored. -/
theorem Stage.next_read (stage : Stage) (path : String) (reply : Except FileFault Bytes) :
    stage.next ⟨.file (.read path), reply⟩ = stage ∨ ∃ token content records,
      stage = .locked token ∧ reply = .ok content ∧ spelled? content = some records ∧
        stage.next ⟨.file (.read path), reply⟩ = .opened token records := by
  cases stage with
  | locked token =>
      cases reply with
      | error fault => exact .inl rfl
      | ok content =>
          cases spelled : spelled? content with
          | none => exact .inl (by rw [Stage.next, spelled])
          | some records =>
              exact .inr ⟨token, content, records, rfl, rfl, spelled, by rw [Stage.next, spelled]⟩
  | outside | opened | written | recorded | released => exact .inl rfl

/-- By writing a file a run gets, at most, a longer list ready. -/
theorem Stage.next_write (stage : Stage) (path text : String) (reply : Except FileFault Unit) :
    stage.next ⟨.file (.write path text), reply⟩ = stage ∨ ∃ token records longer,
      stage = .opened token records ∧ reply = .ok () ∧ Document.read text = some longer ∧
        stage.next ⟨.file (.write path text), reply⟩ = .written token records longer := by
  cases stage with
  | opened token records =>
      cases reply with
      | error fault => exact .inl rfl
      | ok =>
          cases document : Document.read text with
          | none => exact .inl (by rw [Stage.next, document])
          | some longer =>
              exact .inr ⟨token, records, longer, rfl, rfl, rfl, by rw [Stage.next, document]⟩
  | outside | locked | written | recorded | released => exact .inl rfl

/-- Making directories leaves a run in its stage. -/
theorem Stage.next_createDirectories (stage : Stage) (path : String) (reply : Except FileFault Unit) :
    stage.next ⟨.file (.createDirectories path), reply⟩ = stage := by
  cases stage <;> rfl

/-- Who gives the lock back is outside again, with what was recorded. -/
theorem Stage.next_unlock (stage : Stage) (token : LockToken) (reply : Unit) :
    stage.next ⟨.file (.unlock token), reply⟩ = .released stage.recorded? := by
  cases stage <;> rfl

/-- A question that goes past the files leaves a run in its stage. -/
theorem Stage.next_elsewhere (stage : Stage) {request : MachineRequest}
    (elsewhere : ∀ question, request ≠ .file question) (reply : request.Answer) :
    stage.next ⟨request, reply⟩ = stage := by
  cases request with
  | file question => exact absurd rfl (elsewhere question)
  | environment | node | http | host => cases stage <;> rfl

/-- What is recorded stays recorded. -/
theorem Stage.recorded?_next {stage : Stage} {records : List WalletRecord}
    (recorded : stage.recorded? = some records) (exchange : Exchange Machine) :
    (stage.next exchange).recorded? = some records := by
  obtain ⟨request, reply⟩ := exchange
  cases stage with
  | outside | locked | opened | written => cases recorded
  | recorded | released =>
      cases request with
      | file request => cases request <;> exact recorded
      | environment | node | http | host => exact recorded

/-- The stage of a run after its exchanges. -/
def stage (heard : List (Exchange Machine)) : Stage :=
  heard.foldl Stage.next .outside

/-- The stage after one more exchange is the next one. -/
theorem stage_concat (heard : List (Exchange Machine)) (exchange : Exchange Machine) :
    stage (heard ++ [exchange]) = (stage heard).next exchange := by
  rw [stage, List.foldl_append]
  rfl

/-- What was recorded after some exchanges stays recorded after more. -/
theorem recorded?_stage_append {first : List (Exchange Machine)} {records : List WalletRecord}
    (recorded : (stage first).recorded? = some records) (more : List (Exchange Machine)) :
    (stage (first ++ more)).recorded? = some records := by
  induction more generalizing first with
  | nil => rwa [List.append_nil]
  | cons exchange more ih =>
      rw [← List.singleton_append, ← List.append_assoc]
      apply ih
      rw [stage_concat]
      exact Stage.recorded?_next recorded exchange

/-! ## What a run may ask -/

variable (settings : Settings) (options : CommandLine.OperationOptions)

/-- Whether a run has taken the lock, has read records from the registry, and has had the wallet of a
further record deployed, with the salt that came next. -/
def Deploys (heard : List (Exchange Machine)) (records : List WalletRecord) (record : WalletRecord) :
    Prop :=
  ∃ locking token loading opening session deploying,
    locking ++ loading ++ opening ++ deploying <+: heard ∧
      (Machine.ofFiles (lock options.registry)).Ends locking (.ok token) ∧
      (Machine.ofFiles (load options.registry)).Ends loading (.ok ⟨options.registry, records⟩) ∧
      (Program.openSession settings options).Ends opening (.ok session) ∧
      (session.relay.consult (session.pipeline.deployWallet
        (Registry.mk options.registry records).nextSalt (session.paymaster options))).Ends deploying
          (.ok record)

/-- What a run may ask. -/
def Permits (heard : List (Exchange Machine)) : MachineRequest → Prop
  | .file (.lock path) => path = lockPath options.registry ∧ stage heard = .outside
  | .file (.unlock token) => (stage heard).token? = some token
  | .file (.hasEntry path) | .file (.read path) =>
    ∀ token, stage heard = .locked token → path = options.registry
  | .file (.write path text) =>
    path = tempPath options.registry ∧ ∃ token records record,
      stage heard = .opened token records ∧ text = Document.render (records ++ [record])
  | .file (.rename source target) =>
    source = tempPath options.registry ∧ target = options.registry ∧ ∃ token records record,
      stage heard = .written token records (records ++ [record]) ∧
        Deploys settings options heard records record
  | _ => True

variable {settings options} {heard later : List (Exchange Machine)} {records : List WalletRecord}
  {record : WalletRecord} {token : LockToken}

/-- A deployment that was had is had in all longer histories. -/
theorem Deploys.of_prefix (deploys : Deploys settings options heard records record)
    (before : heard <+: later) : Deploys settings options later records record := by
  obtain ⟨locking, token, loading, opening, session, deploying, within, ends⟩ := deploys
  exact ⟨locking, token, loading, opening, session, deploying, within.trans before, ends⟩

variable (settings options) in
/-- Quiet questions leave a run in its stage, unless it has the lock and knows no records yet. -/
theorem keeps_of_asks {α : Type} {work : MachineWork α} (asks : work.Asks MachineRequest.IsQuiet)
    (unlocked : ∀ token, stage heard ≠ .locked token) :
    work.Keeps (.byHistory (Permits settings options)) (fun _ after => stage after = stage heard)
      heard := by
  apply Dialogue.Keeps.of_asks asks (fun after => stage after = stage heard) rfl
  · intro now request same quiet
    cases request with
    | file request =>
        cases request with
        | lock | unlock | write | rename => exact quiet.elim
        | hasEntry | read => exact fun token locked => absurd (same.symm.trans locked) (unlocked token)
        | createDirectories => trivial
    | environment | node | http | host => trivial
  · intro now request reply same quiet
    rw [stage_concat, same]
    exact Stage.next_of_quiet unlocked quiet reply

/-- Making the directory of a registry changes neither a file nor a lock. -/
theorem asks_makeDirectory (path : String) :
    (Machine.ofFiles (makeDirectory path)).Asks MachineRequest.IsQuiet := by
  unfold makeDirectory
  split
  · exact ⟨trivial, fun _ => (Dialogue.Asks.ofExcept _).interpret fun _ => id⟩
  · trivial

variable (settings) in
/-- To lock the registry a run asks only what is permitted, and it has the lock exactly if that
succeeds. -/
theorem keeps_lock (outside : stage heard = .outside) :
    (Machine.ofFiles (lock options.registry)).Keeps (.byHistory (Permits settings options))
      (fun outcome after => match outcome with
        | .ok token => stage after = .locked token
        | .error _ => stage after = .outside) heard := by
  unfold lock
  rw [Machine.ofFiles_bind]
  have unlocked (token : LockToken) : stage heard ≠ .locked token := by
    rw [outside]
    exact nofun
  apply (keeps_of_asks settings options (asks_makeDirectory options.registry) unlocked).bind
  · intro _ after same
    rw [outside] at same
    refine ⟨⟨rfl, same⟩, ?_⟩
    rintro (fault | token) _
    · have stays : stage (after ++ [⟨.file (.lock (lockPath options.registry)), .error fault⟩]) =
          .outside :=
        (stage_concat _ _).trans (congrArg (Stage.next · _) same)
      cases fault with
      | unopened | taken => exact stays
    · exact (stage_concat _ _).trans (congrArg (Stage.next · _) same)
  · exact fun _ after same => same.trans outside

/-- To open the registry a run with the lock asks only what is permitted, and it knows the stored
records if that succeeds. -/
theorem keeps_load (locked : stage heard = .locked token) :
    (Machine.ofFiles (load options.registry)).Keeps (.byHistory (Permits settings options))
      (fun outcome after => match outcome with
        | .ok registry => registry.path = options.registry ∧
            stage after = .opened token registry.records
        | .error _ => (stage after).token? = some token) heard := by
  rw [load_eq]
  refine ⟨fun _ _ => rfl, ?_⟩
  rintro (_ | _) _
  · exact ⟨rfl, (stage_concat _ _).trans (congrArg (Stage.next · _) locked)⟩
  · have still : stage (heard ++ [⟨.file (.hasEntry options.registry), true⟩]) = .locked token :=
      (stage_concat _ _).trans (congrArg (Stage.next · _) locked)
    refine ⟨fun _ _ => rfl, ?_⟩
    intro (reply : Except FileFault Bytes) _
    have then_stage := (stage_concat _ ⟨.file (.read options.registry), reply⟩).trans
      (congrArg (Stage.next · _) still)
    change Dialogue.Keeps _ _ (Machine.ofFiles (ofReply options.registry reply)) _
    cases reply with
    | error fault =>
        obtain ⟨failure, failed⟩ := ofReply_error options.registry fault
        rw [failed]
        exact congrArg Stage.token? then_stage
    | ok content =>
        rcases ofReply_ok options.registry content with
          ⟨records, spelled, opened⟩ | ⟨spelled, failure, failed⟩
        · rw [opened]
          simp only [Stage.next, spelled] at then_stage
          exact ⟨rfl, then_stage⟩
        · rw [failed]
          simp only [Stage.next, spelled] at then_stage
          exact congrArg Stage.token? then_stage

/-- To save a record whose wallet was deployed a run asks only what is permitted, and keeps the lock;
if it succeeds, the list is recorded. -/
theorem keeps_save (opened : stage heard = .opened token records)
    (deploys : Deploys settings options heard records record) :
    (Machine.ofFiles (save ⟨options.registry, records ++ [record]⟩)).Keeps
      (.byHistory (Permits settings options))
      (fun outcome after => (stage after).token? = some token ∧
        (outcome = .ok () → stage after = .recorded token (records ++ [record]))) heard := by
  unfold save
  rw [Machine.ofFiles_bind]
  have unlocked (token : LockToken) : stage heard ≠ .locked token := by
    rw [opened]
    exact nofun
  have made := keeps_of_asks settings options (asks_makeDirectory options.registry) unlocked
  apply made.exchanged.bind
  · rintro _ _ ⟨same, own, rfl, -⟩
    have now := same.trans opened
    refine ⟨⟨rfl, token, records, record, now, rfl⟩, ?_⟩
    intro (written : Except FileFault Unit) _
    have then_stage := (stage_concat _ ⟨.file (.write (tempPath options.registry)
      (Document.render (records ++ [record]))), written⟩).trans (congrArg (Stage.next · _) now)
    cases written with
    | error fault => exact ⟨congrArg Stage.token? then_stage, nofun⟩
    | ok =>
        simp only [Stage.next, Document.read_render] at then_stage
        have before (extra : List (Exchange Machine)) : heard <+: heard ++ own ++ extra :=
          (List.prefix_append heard own).trans (List.prefix_append _ extra)
        refine ⟨⟨rfl, rfl, token, records, record, then_stage, deploys.of_prefix (before _)⟩, ?_⟩
        intro (renamed : Except FileFault Unit) _
        have at_last := (stage_concat _ ⟨.file (.rename (tempPath options.registry)
          options.registry), renamed⟩).trans (congrArg (Stage.next · _) then_stage)
        cases renamed with
        | error fault => exact ⟨congrArg Stage.token? at_last, nofun⟩
        | ok => exact ⟨congrArg Stage.token? at_last, fun _ => at_last⟩
  · rintro _ _ ⟨same, -⟩
    exact ⟨by rw [same, opened]; rfl, nofun⟩

/-- To record a wallet that was deployed a run asks only what is permitted, and keeps the lock; if it
succeeds, the record is there. -/
theorem keeps_create (opened : stage heard = .opened token records)
    (deploys : Deploys settings options heard records record) :
    (Machine.ofFiles (create ⟨options.registry, records⟩ record)).Keeps
      (.byHistory (Permits settings options))
      (fun outcome after => (stage after).token? = some token ∧ ∀ change, outcome = .ok change →
        change.outcome = .ok () → stage after = .recorded token (records ++ [record])) heard := by
  unfold create
  split
  · refine ⟨by rw [opened]; rfl, ?_⟩
    intro change same success
    cases same
    cases success
  · rw [Machine.ofFiles_bind, Machine.ofFiles_attempt]
    have saved : ((Machine.ofFiles (save ⟨options.registry, records ++ [record]⟩)).attempt :
        MachineWork (Except Failure Unit)).Keeps (.byHistory (Permits settings options))
        (fun outcome after => (stage after).token? = some token ∧
          (outcome = .ok (.ok ()) → stage after = .recorded token (records ++ [record]))) heard := by
      apply Dialogue.Keeps.attempt
      apply (keeps_save opened deploys).mono
      rintro outcome after ⟨held, recorded⟩
      exact ⟨held, fun success => recorded (Except.ok.inj success)⟩
    apply saved.bind
    · rintro outcome after ⟨held, recorded⟩
      refine ⟨held, ?_⟩
      intro change same success
      cases same
      exact recorded (congrArg _ success)
    · rintro failure after ⟨held, -⟩
      exact ⟨held, nofun⟩

end Registry

namespace Program

open Registry (Deploys Permits stage)

/-! ## The whole run -/

/-- What a run does with the lock in hand, up to the record of the wallet. -/
def createRecorded (settings : Settings) (options : CommandLine.OperationOptions) :
    MachineWork (Session × Creation) := do
  let registry ← Machine.ofFiles (Registry.load options.registry)
  let session ← openSession settings options
  let creation ← session.relay.record
    (session.pipeline.createWallet registry (session.paymaster options))
  return (session, creation)

/-- Tells of a wallet that was created. -/
def announce (options : CommandLine.OperationOptions) (session : Session) (creation : Creation) :
    MachineWork Unit := do
  let record ← .ofExcept creation.outcome
  Machine.print ("wallet:     " ++ record.address.toText)
  match record.operationHash with
  | some hash => report session options hash
  | none => return ()

/-- A run with the lock records a wallet, and tells of it afterwards. -/
theorem createLocked_eq (settings : Settings) (options : CommandLine.OperationOptions) :
    createLocked settings options = createRecorded settings options >>= fun (session, creation) =>
      announce options session creation := by
  rw [createRecorded, Dialogue.bind_assoc]
  refine congrArg (Dialogue.andThen _) (funext fun registry => ?_)
  rw [Dialogue.bind_assoc]
  refine congrArg (Dialogue.andThen _) (funext fun session => ?_)
  rw [Dialogue.bind_assoc]
  rfl

/-- A report prints, and waits if it has to. -/
theorem asks_report {allowed : MachineRequest → Prop} (options : CommandLine.OperationOptions)
    (session : Session) (hash : Hash) (prints : ∀ line, allowed (.host (.print line)))
    (waits : ∀ interval timeout,
      (session.relay.consult (Submission.wait hash interval timeout lookupRounds)).Asks allowed) :
    (report session options hash).Asks allowed := by
  have shows (line : String) : (Machine.print line : MachineWork Unit).Asks allowed :=
    Machine.asks_request (prints line)
  apply (shows _).bind
  intro _
  split
  · have awaits (interval timeout : Duration) :
        (awaitReceipt session.relay hash interval timeout).Asks allowed := by
      apply (waits interval timeout).bind
      rintro (_ | receipt)
      · trivial
      · trivial
    apply (awaits _ _).mapError.bind
    intro receipt
    apply (shows _).bind
    intro _
    split
    · exact shows _
    · trivial
  · trivial

/-- Telling of a wallet goes past the files. -/
theorem asks_announce (options : CommandLine.OperationOptions) (session : Session)
    (creation : Creation) : (announce options session creation).Asks MachineRequest.IsElsewhere := by
  have prints (line : String) : (Machine.print line : MachineWork Unit).Asks MachineRequest.IsElsewhere :=
    Machine.asks_request nofun
  have reports (hash : Hash) : (report session options hash).Asks MachineRequest.IsElsewhere :=
    asks_report options session hash (fun _ => nofun) fun _ _ => session.relay.asks_consult _
  apply (Dialogue.Asks.ofExcept _).bind
  intro record
  apply (prints _).bind
  intro _
  split
  · exact reports _
  · trivial

/-- A run asks the services first, and the files only for a record. -/
theorem record_createWallet (relay : Relay) (pipeline : Pipeline) (registry : Registry)
    (paymaster : Option Address) :
    relay.record (pipeline.createWallet registry paymaster) =
      relay.consult (pipeline.deployWallet registry.nextSalt paymaster).attempt >>= fun
        | .error failure => .done { registry, outcome := .error failure }
        | .ok record => Machine.ofFiles (registry.create record) >>= fun change =>
            .done { registry := change.registry, outcome := change.outcome.map fun _ => record } := by
  rw [Relay.record, Pipeline.createWallet, Dialogue.interpret_bind, Dialogue.interpret_inl]
  refine congrArg (Dialogue.andThen _) (funext ?_)
  rintro (failure | record)
  · rfl
  · rw [Dialogue.interpret_bind, Dialogue.interpret_inr]
    rfl

variable {settings : Settings} {options : CommandLine.OperationOptions} {token : LockToken}
  {locking loading opening : List (Exchange Machine)} {records : List WalletRecord} {session : Session}

/-- A run that knows the records asks only what is permitted to create a wallet, and one that succeeds
has recorded it behind them. -/
theorem keeps_record
    (opened : stage (locking ++ loading ++ opening) = .opened token records)
    (locks : (Machine.ofFiles (Registry.lock options.registry)).Ends locking (.ok token))
    (loads : (Machine.ofFiles (Registry.load options.registry)).Ends loading
      (.ok ⟨options.registry, records⟩))
    (opens : (openSession settings options).Ends opening (.ok session)) :
    (session.relay.record (session.pipeline.createWallet ⟨options.registry, records⟩
      (session.paymaster options))).Keeps (.byHistory (Permits settings options))
      (fun outcome after => (stage after).token? = some token ∧ ∀ creation record,
        outcome = .ok creation → creation.outcome = .ok record →
          stage after = .recorded token (records ++ [record])) (locking ++ loading ++ opening) := by
  rw [record_createWallet]
  have unlocked (other : LockToken) : stage (locking ++ loading ++ opening) ≠ .locked other := by
    rw [opened]
    exact nofun
  have asks := session.relay.asks_consult (session.pipeline.deployWallet
    (Registry.mk options.registry records).nextSalt (session.paymaster options)).attempt
  -- To deploy the wallet leaves the files alone, so the lock and the records read stand as before.
  have deployment := Registry.keeps_of_asks settings options (asks.mono fun _ => (·.isQuiet)) unlocked
  apply deployment.exchanged.bind
  · rintro (failure | record) _ ⟨same, deploying, rfl, deploys⟩
    · refine ⟨by rw [same, opened]; rfl, ?_⟩
      intro creation record ended success
      cases ended
      cases success
    · have deploys : Deploys settings options _ records record :=
        ⟨locking, token, loading, opening, session, deploying, List.prefix_rfl, locks, loads, opens,
          deploys.of_interpret_attempt⟩
      apply (Registry.keeps_create (same.trans opened) deploys).bind
      · rintro change after ⟨held, recorded⟩
        refine ⟨held, ?_⟩
        intro creation other ended success
        cases ended
        cases changed : change.outcome with
        | error failure =>
            rw [changed] at success
            cases success
        | ok =>
            rw [changed] at success
            cases success
            exact recorded change rfl changed
      · rintro failure after ⟨held, -⟩
        exact ⟨held, fun _ _ failed => nomatch failed⟩
  · rintro failure _ ⟨same, -⟩
    exact ⟨by rw [same, opened]; rfl, fun _ _ failed => nomatch failed⟩

/-- A run with the lock asks only what is permitted to record a wallet, and one that succeeds has
recorded it. -/
theorem keeps_createRecorded (locked : stage locking = .locked token)
    (locks : (Machine.ofFiles (Registry.lock options.registry)).Ends locking (.ok token)) :
    (createRecorded settings options).Keeps (.byHistory (Permits settings options))
      (fun outcome after => (stage after).token? = some token ∧ ∀ session creation record,
        outcome = .ok (session, creation) → creation.outcome = .ok record →
          ∃ records, stage after = .recorded token (records ++ [record])) locking := by
  apply (Registry.keeps_load locked).exchanged.bind
  · rintro ⟨path, records⟩ _ ⟨⟨same_path, opened⟩, loading, rfl, loads⟩
    obtain rfl : path = options.registry := same_path
    have unlocked (other : LockToken) : stage (locking ++ loading) ≠ .locked other := by
      rw [opened]
      exact nofun
    have opening := Registry.keeps_of_asks settings options
      ((asks_openSession settings options).mono fun _ => (·.isQuiet)) unlocked
    apply opening.exchanged.bind
    · rintro session _ ⟨same, opening, rfl, opens⟩
      have creates := keeps_record (same.trans opened) locks loads opens
      apply creates.bind
      · rintro creation after ⟨held, recorded⟩
        refine ⟨held, ?_⟩
        intro other_session other record ended success
        cases ended
        exact ⟨records, recorded creation record rfl success⟩
      · rintro failure after ⟨held, -⟩
        exact ⟨held, fun _ _ _ failed => nomatch failed⟩
    · rintro failure _ ⟨same, -⟩
      exact ⟨by rw [same, opened]; rfl, fun _ _ _ failed => nomatch failed⟩
  · rintro failure _ ⟨held, -⟩
    exact ⟨held, fun _ _ _ failed => nomatch failed⟩

/-- A run keeps the lock to the end, whatever comes of the creation. -/
theorem keeps_createLocked (locked : stage locking = .locked token)
    (locks : (Machine.ofFiles (Registry.lock options.registry)).Ends locking (.ok token)) :
    (createLocked settings options).Keeps (.byHistory (Permits settings options))
      (fun _ after => (stage after).token? = some token) locking := by
  rw [createLocked_eq]
  apply (keeps_createRecorded locked locks).bind
  · rintro ⟨session, creation⟩ after ⟨held, recorded⟩
    cases ended : creation.outcome with
    | error failure =>
        have silent : announce options session creation = .fail failure := by
          unfold announce
          rw [ended]
          rfl
        change Dialogue.Keeps _ _ (announce options session creation) _
        rw [silent]
        exact held
    | ok record =>
        obtain ⟨records, at_last⟩ := recorded session creation record rfl ended
        have unlocked (other : LockToken) : stage after ≠ .locked other := by
          rw [at_last]
          exact nofun
        have announces := Registry.keeps_of_asks settings options
          ((asks_announce options session creation).mono fun _ => (·.isQuiet)) unlocked
        apply announces.mono
        intro _ later same
        rw [same]
        exact held
  · exact fun _ _ ended => ended.1

/-- **A run that creates a wallet** asks at each point only what is permitted by what it has had. -/
theorem keeps_createWallet (settings : Settings) (options : CommandLine.OperationOptions) :
    (createWallet settings options).Keeps (.byHistory (Permits settings options))
      (fun _ _ => True) [] := by
  apply (Registry.keeps_lock settings rfl).exchanged.bind
  · rintro token locking ⟨locked, own, same, locks⟩
    obtain rfl : locking = own := same
    have attempts : ((createLocked settings options).attempt :
        MachineWork (Except Failure Unit)).Keeps (.byHistory (Permits settings options))
        (fun _ after => (stage after).token? = some token) locking :=
      .attempt (keeps_createLocked locked locks)
    apply attempts.bind
    · intro outcome after held
      exact ⟨held, fun _ _ => Dialogue.Keeps.ofExcept trivial⟩
    · intro _ _ _
      trivial
  · intro _ _ _
    trivial

/-! ## What a run leaves behind -/

/-- Whether a run has created a wallet, and was told so, with this record. -/
def HasCreated (settings : Settings) (options : CommandLine.OperationOptions)
    (heard : List (Exchange Machine)) (record : WalletRecord) : Prop :=
  ∃ locking token creating session creation, locking ++ creating <+: heard ∧
    (Machine.ofFiles (Registry.lock options.registry)).Ends locking (.ok token) ∧
    (createRecorded settings options).Ends creating (.ok (session, creation)) ∧
    creation.outcome = .ok record

/-- Whether a run has derived the address of the wallet of a counter, for the owner and with the
contracts of its own session. -/
def HasDerived (settings : Settings) (options : CommandLine.OperationOptions)
    (heard : List (Exchange Machine)) (counter : UInt64) (address : Address) : Prop :=
  ∃ before opening session derivation, before ++ opening ++ derivation <+: heard ∧
    (openSession settings options).Ends opening (.ok session) ∧
    (session.relay.consult (session.pipeline.resolver.counterfactualAddress
      (Salt.ofCounter counter))).Ends derivation (.ok address)

variable {heard : List (Exchange Machine)} {record : WalletRecord}

/-- A run that has created a wallet has recorded a list that ends in its record. -/
theorem HasCreated.recorded? (created : HasCreated settings options heard record) :
    ∃ records, (stage heard).recorded? = some (records ++ [record]) := by
  obtain ⟨locking, token, creating, session, creation, ⟨more, rfl⟩, locks, creates, success⟩ := created
  have starts : stage [] = .outside := rfl
  have locked : stage locking = .locked token := (Registry.keeps_lock settings starts).of_ends locks
  obtain ⟨-, recorded⟩ := (keeps_createRecorded locked locks).of_ends creates
  obtain ⟨records, at_last⟩ := recorded session creation record rfl success
  refine ⟨records, Registry.recorded?_stage_append ?_ more⟩
  rw [at_last]
  rfl

/-- A wallet that was deployed has the counter that was asked for, and the address that was derived
from it. -/
theorem ends_deployWallet {relay : Relay} {pipeline : Pipeline} {counter : UInt64}
    {paymaster : Option Address} {deploying : List (Exchange Machine)}
    (deploys : (relay.consult (pipeline.deployWallet counter paymaster)).Ends deploying (.ok record)) :
    record.salt = counter ∧ ∃ derivation, derivation <+: deploying ∧
      (relay.consult (pipeline.resolver.counterfactualAddress (Salt.ofCounter counter))).Ends
        derivation (.ok record.address) := by
  unfold Relay.consult Pipeline.deployWallet at deploys
  simp only [Dialogue.interpret_bind] at deploys
  obtain ⟨derivation, rest, address, rfl, derives, deploys⟩ := deploys.bind_ok
  obtain ⟨sending, rest, hash, rfl, -, deploys⟩ := deploys.bind_ok
  obtain ⟨clock, rest, createdAt, rfl, -, deploys⟩ := deploys.bind_ok
  obtain ⟨-, same⟩ := deploys
  cases same
  exact ⟨rfl, derivation, List.prefix_append _ _, derives⟩

/-- A wallet that was deployed behind some records has the salt that came next. -/
theorem salt_of_deploys (deploys : Deploys settings options heard records record) :
    record.salt = UInt64.ofNat (records.length + 1) := by
  obtain ⟨locking, token, loading, opening, session, deploying, -, -, -, -, deploys⟩ := deploys
  rw [(ends_deployWallet deploys).1, Registry.nextSalt_eq]

/-- The address of a wallet that was deployed was derived from its salt. -/
theorem hasDerived_of_deploys (deploys : Deploys settings options heard records record) :
    HasDerived settings options heard record.salt record.address := by
  obtain ⟨locking, token, loading, opening, session, deploying, within, -, -, opens, deploys⟩ := deploys
  obtain ⟨same, derivation, first, derives⟩ := ends_deployWallet deploys
  refine ⟨locking ++ loading, opening, session, derivation, ?_, opens, same ▸ derives⟩
  exact ((List.prefix_append_right_inj _).mpr first).trans within

end Program

end AccountRelay
