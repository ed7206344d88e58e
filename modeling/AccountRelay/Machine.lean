import AccountRelay.Environment
import AccountRelay.Http.Request
import AccountRelay.Node.Request
import AccountRelay.Services
import AccountRelay.Signing
import AccountRelay.Storage.Files

/-! # The machine

All that the program asks of what is around it: files, the environment, the chain's node, endpoints
over HTTP, and the host with its clocks and its two ways of telling something. Work that asks one of
these is work for the machine.
-/

namespace AccountRelay

/-- A request to the host. -/
inductive HostRequest
  /-- The time in seconds since the epoch. -/
  | now
  /-- The time on a clock that never goes back. -/
  | uptime
  | pause (span : Duration)
  | warn (warning : Warning)
  /-- Shows a line of the result. -/
  | print (line : String)
deriving DecidableEq

/-- The type of the answer to a request. -/
def HostRequest.Answer : HostRequest → Type
  | .now => Int
  | .uptime => Duration
  | .pause _ | .warn _ | .print _ => Unit

/-- Where the node is, and the key that transactions are signed with. -/
structure NodeEndpoint where
  url : String
  signer : Option SecretKey := none

/-- A request to the machine. -/
inductive MachineRequest
  | file (request : FileRequest)
  | environment (name : String)
  | node (endpoint : NodeEndpoint) (request : NodeRequest)
  | http (request : HttpRequest)
  | host (request : HostRequest)

/-- The type of the answer to a request. -/
def MachineRequest.Answer : MachineRequest → Type
  | .file request => request.Answer
  | .environment _ => Option String
  | .node _ request => request.Answer
  | .http _ => Except String HttpReply
  | .host request => request.Answer

/-- The requests to the machine. -/
abbrev Machine : Interface := ⟨MachineRequest, MachineRequest.Answer⟩

/-- A computation that asks the machine. -/
abbrev MachineWork := Dialogue Machine Failure

/-- Whether a request reaches another party over a network. -/
def MachineRequest.isRemote : MachineRequest → Bool
  | .node _ _ | .http _ => true
  | _ => false

namespace Machine

variable {ε α : Type}

/-- Makes one request. -/
def request (request : MachineRequest) : Dialogue Machine ε request.Answer :=
  .ask (I := Machine) request .done

/-- Work with files. -/
def ofFiles (work : Dialogue Files ε α) : Dialogue Machine ε α :=
  work.interpret fun question => request (.file question)

/-- Work with the environment. -/
def ofEnvironment (work : Dialogue Environment ε α) : Dialogue Machine ε α :=
  work.interpret fun name => request (.environment name)

/-- Work with the node at an endpoint. -/
def ofNode (endpoint : NodeEndpoint) (work : Dialogue ChainNode ε α) : Dialogue Machine ε α :=
  work.interpret fun question => request (.node endpoint question)

/-- Work with endpoints over HTTP. -/
def ofHttp (work : Dialogue Http ε α) : Dialogue Machine ε α :=
  work.interpret fun question => request (.http question)

/-- The time in seconds since the epoch. -/
def now : Dialogue Machine ε Int :=
  request (.host .now)

/-- The time on a clock that never goes back. -/
def uptime : Dialogue Machine ε Duration :=
  request (.host .uptime)

/-- Lets a span of time go by. -/
def pause (span : Duration) : Dialogue Machine ε Unit :=
  request (.host (.pause span))

/-- Tells the operator. -/
def warn (warning : Warning) : Dialogue Machine ε Unit :=
  request (.host (.warn warning))

/-- Shows a line of the result. -/
def print (line : String) : Dialogue Machine ε Unit :=
  request (.host (.print line))

/-- Shows several lines. -/
def printAll : List String → Dialogue Machine ε Unit
  | [] => .done ()
  | line :: rest => do
    print line
    printAll rest

end Machine

end AccountRelay
