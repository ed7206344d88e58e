import AccountRelay.Program
import Std.Time.DateTime.Timestamp

/-! # The command line

The outer layer of the program: it answers what the program asks of files, the environment, the
clocks and the console, and prints how the program ended. It carries no transport to a network, so
every endpoint is one that is not reached.
-/

namespace AccountRelay.Console

/-- A fault of the file system, in the words of the system. -/
def faultOf (error : IO.Error) : FileFault :=
  .other (toString error)

/-- The outcome of an action on files. -/
def attempted {α : Type} (action : IO α) : IO (Except FileFault α) := do
  match ← action.toBaseIO with
  | .ok value => return .ok value
  | .error error => return .error (faultOf error)

/-- The files whose locks are held, each under its number. -/
abbrev Locks := IO.Ref (Array IO.FS.Handle)

/-- Opens and locks a file. -/
def lockFile (locks : Locks) (path : String) : IO (Except LockFault LockToken) := do
  match ← attempted (IO.FS.Handle.mk path .append) with
  | .error fault => return .error (.unopened fault)
  | .ok handle =>
    if ← handle.tryLock true then
      let number := (← locks.get).size
      locks.modify (·.push handle)
      return .ok ⟨number⟩
    else return .error (.taken .lockHeld)

/-- Gives back a lock. -/
def unlockFile (locks : Locks) (token : LockToken) : IO Unit := do
  match (← locks.get)[token.file]? with
  | some handle => handle.unlock
  | none => return ()

/-- Answers a question about files. -/
def answerFile (locks : Locks) : (request : FileRequest) → IO request.Answer
  | .hasEntry path => return (← attempted (IO.FS.realPath path)).isOk
  | .read path => return (← attempted (IO.FS.readBinFile path)).map fun content => content.toList
  | .createDirectories path => attempted (IO.FS.createDirAll path)
  | .lock path => lockFile locks path
  | .unlock token => unlockFile locks token
  | .write path content => attempted (IO.FS.writeFile path content)
  | .rename source target => attempted (IO.FS.rename source target)

/-- Why no endpoint is reached. -/
def offline : String := "no transport to the network"

/-- Answers a request to the node. -/
def answerNode : (request : NodeRequest) → request.Answer
  | .query _ => .error offline
  | .send _ => .error offline
  | .settle _ => .error offline

/-- Answers a request to the host. -/
def answerHost : (request : HostRequest) → IO request.Answer
  | .now => return (← Std.Time.Timestamp.now).toSecondsSinceUnixEpoch.val
  | .uptime => return ⟨← IO.monoNanosNow⟩
  | .pause span => IO.sleep (UInt32.ofNat (span.nanoseconds / 1000000))
  | .warn warning => IO.eprintln ("WARN " ++ warning.message)
  | .print line => IO.println line

/-- Answers a request. -/
def answer (locks : Locks) : (request : MachineRequest) → IO request.Answer
  | .file request => answerFile locks request
  | .environment name => IO.getEnv name
  | .node _ request => return answerNode request
  | .http _ => return .error offline
  | .host request => answerHost request

/-- A failure as it is shown: what failed, and below it what caused that. -/
def shown (failure : Failure) : String :=
  match failure.chain with
  | [] => "Error"
  | [message] => "Error: " ++ message
  | message :: causes =>
    "Error: " ++ message ++ "\n\nCaused by:" ++
      String.join (causes.map fun cause => "\n    " ++ cause)

/-- The names of the commands. -/
def commandNames : String :=
  ", ".intercalate ((CommandLine.namesIn CommandLine.commandForms ["wallet"]).tail)

/-- Shows why the words are no command. -/
def showUsage : CommandLine.UsageFault → IO UInt32
  | .help => do
    IO.println ("Commands: " ++ commandNames)
    return 0
  | .version => do
    IO.println "aa-relay 0.1.0"
    return 0
  | fault => do
    IO.eprintln ("error: " ++ fault.name ++ "\nCommands: " ++ commandNames)
    return 2

/-- Runs the program and shows how it ended; the answer is the exit code. -/
def run (words : List String) : IO UInt32 := do
  let locks ← IO.mkRef #[]
  match ← (Program.run words).perform (answer locks) with
  | .ok () => return 0
  | .error (.usage fault) => showUsage fault
  | .error (.failure failure) =>
    IO.eprintln (shown failure)
    return 1

end AccountRelay.Console

/-- Runs the program with the words behind its name. -/
def main (words : List String) : IO UInt32 :=
  AccountRelay.Console.run words
