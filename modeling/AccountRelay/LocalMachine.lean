import AccountRelay.Environment
import AccountRelay.Machine
import AccountRelay.Storage.FileTree

/-! # A machine in memory

A machine that lives in one value: files in a tree, an environment, a node that replies from a list,
endpoints that reply by a rule, and a host whose clock moves when it is told to pause and while an
endpoint is asked. It keeps what it was asked and what it was told.
-/

namespace AccountRelay

/-- What becomes of a transaction that is passed on. -/
inductive TransactionFate
  | refused
  /-- Nobody knows of it any longer. -/
  | dropped
  /-- It is part of a block, with a status. -/
  | included (status : Option Nat)
deriving DecidableEq

/-- The state of the machine. -/
structure LocalMachine where
  tree : FileTree := {}
  environment : List (String × String) := []
  /-- Whether the node is reached. -/
  isConnected : Bool := true
  /-- What the node replies to a method: one reply after the other, and the last one again and
  again. -/
  replies : List (String × List (Except String Json.Value)) := []
  /-- What becomes of transactions. Without a fate none is passed on: sending one fails when the
  price of gas has been looked up. -/
  fate : Option TransactionFate := none
  /-- What endpoints reply. -/
  serve : HttpRequest → Except String HttpReply := fun _ => .error "not reached"
  /-- The time in seconds since the epoch. -/
  time : Int := 1700000000
  uptime : Duration := ⟨0⟩
  /-- The requests that reached the node, latest first. -/
  asked : List NodeRequest := []
  /-- The requests to endpoints, latest first. -/
  posted : List HttpRequest := []
  /-- The lines shown, latest first. -/
  lines : List String := []
  /-- The warnings given, latest first. -/
  warnings : List Warning := []

namespace LocalMachine

/-- The next reply to a method, and the machine after it. -/
def nextReply (machine : LocalMachine) (method : String) :
    Except String Json.Value × LocalMachine :=
  match machine.replies.lookup method with
  | none | some [] => (.error "method not found", machine)
  | some [reply] => (reply, machine)
  | some (reply :: rest) => (reply, { machine with replies := (method, rest) :: machine.replies })

/-- The node answers a lookup. -/
def lookUp (machine : LocalMachine) (query : NodeQuery) :
    Except String Json.Value × LocalMachine :=
  if machine.isConnected then
    { machine with asked := .query query :: machine.asked }.nextReply query.method
  else (.error "not reached", machine)

/-- How long a request to an endpoint takes. -/
def requestTime : Duration := ⟨100000⟩

/-- The machine after a span of time. -/
def later (machine : LocalMachine) (span : Duration) : LocalMachine :=
  { machine with uptime := ⟨machine.uptime.nanoseconds + span.nanoseconds⟩ }

/-- The hash of every transaction. -/
def transactionHash : Hash := Octets.filled 32 0xab

/-- The node takes a transaction, or it is not passed on. A transaction without data is one whose
price is looked up first. -/
def send (machine : LocalMachine) (transaction : Transaction) :
    Except String Hash × LocalMachine :=
  match machine.fate with
  | none =>
    (.error "not passed on",
      if transaction.data = none then (machine.lookUp .gasPrice).2 else machine)
  | some fate =>
    (if fate = .refused then .error "refused" else .ok transactionHash,
      { machine with asked := .send transaction :: machine.asked })

/-- The node answers a request. -/
def answerNode : (request : NodeRequest) → LocalMachine → request.Answer × LocalMachine
  | .query query, machine => machine.lookUp query
  | .send transaction, machine => machine.send transaction
  | .settle transaction, machine =>
    match machine.fate with
    | some (.included status) => (.ok (some { transaction, status }), machine)
    | _ => (.ok none, machine)

/-- The host answers a request. -/
def answerHost : (request : HostRequest) → LocalMachine → request.Answer × LocalMachine
  | .now, machine => (machine.time, machine)
  | .uptime, machine => (machine.uptime, machine)
  | .pause span, machine => ((), machine.later span)
  | .warn warning, machine => ((), { machine with warnings := warning :: machine.warnings })
  | .print line, machine => ((), { machine with lines := line :: machine.lines })

/-- The machine answers a request. -/
def answer : (request : MachineRequest) → LocalMachine → request.Answer × LocalMachine
  | .file request, machine =>
    let (answer, tree) := FileTree.answer request machine.tree
    (answer, { machine with tree })
  | .environment name, machine => (Environment.find? machine.environment name, machine)
  | .node _ request, machine => answerNode request machine
  | .http request, machine =>
    (machine.serve request,
      { machine.later requestTime with posted := request :: machine.posted })
  | .host request, machine => answerHost request machine

/-- Does work with the machine. -/
def run {ε α : Type} (machine : LocalMachine) (work : Dialogue Machine ε α) :
    Except ε α × LocalMachine :=
  work.run answer machine

end LocalMachine

end AccountRelay
