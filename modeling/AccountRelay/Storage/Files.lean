import AccountRelay.Bytes
import AccountRelay.Dialogue
import AccountRelay.Failure

/-! # Files

The questions to a file system that a registry of wallets asks. A lock is on the file itself and
not on its name, and it can be held once.
-/

namespace AccountRelay

/-- Why a lock was not obtained. -/
inductive LockFault
  /-- The file could not be opened. -/
  | unopened (fault : FileFault)
  /-- Somebody else has the lock. -/
  | taken (fault : FileFault)
deriving DecidableEq

/-- A lock that is held. -/
structure LockToken where
  file : Nat
deriving DecidableEq

/-- A question to the file system. -/
inductive FileRequest
  /-- Whether there is a file or a directory. -/
  | hasEntry (path : String)
  | read (path : String)
  /-- Makes a directory and all that it lies in, unless they are there. -/
  | createDirectories (path : String)
  /-- Opens a file, which is made if it is missing, and locks it. -/
  | lock (path : String)
  | unlock (token : LockToken)
  /-- Replaces the content of a file, which is made if it is missing. -/
  | write (path content : String)
  /-- Moves a file to another name, instead of the file of that name. -/
  | rename (source target : String)
deriving DecidableEq

/-- The type of the answer to a question. -/
def FileRequest.Answer : FileRequest → Type
  | .hasEntry _ => Bool
  | .read _ => Except FileFault Bytes
  | .createDirectories _ => Except FileFault Unit
  | .lock _ => Except LockFault LockToken
  | .unlock _ => Unit
  | .write _ _ => Except FileFault Unit
  | .rename _ _ => Except FileFault Unit

/-- The questions to the file system. -/
abbrev Files : Interface := ⟨FileRequest, FileRequest.Answer⟩

/-- A computation that asks the file system. -/
abbrev FileWork := Dialogue Files Failure

namespace Files

/-- Asks one question and goes on with the answer. -/
def asking {α : Type} (request : FileRequest) (next : request.Answer → FileWork α) : FileWork α :=
  .ask request next

/-- A failure of the file system in its own words. -/
def failure (fault : FileFault) : Failure :=
  .external .files fault.message

/-- Whether there is a file or a directory. -/
def hasEntry (path : String) : FileWork Bool :=
  asking (.hasEntry path) .done

/-- The text that a file holds. -/
def textOf (content : Bytes) : Except FileFault String :=
  match Bytes.text? content with
  | some text => .ok text
  | none => .error .notText

/-- Reads a file as text, in an attempt that names its failure. -/
def readText (context : Context) (path : String) : FileWork String :=
  asking (.read path) fun (answer : Except FileFault Bytes) =>
    .ofExcept ((answer.bind textOf).mapError fun fault => .within context (failure fault))

/-- Reads a file if there is one that can be read. -/
def content? (path : String) : FileWork (Option Bytes) :=
  asking (.read path) fun (answer : Except FileFault Bytes) => .done answer.toOption

/-- Makes a directory and all that it lies in. -/
def createDirectories (context : Context) (path : String) : FileWork Unit :=
  asking (.createDirectories path) fun (answer : Except FileFault Unit) =>
    .ofExcept (answer.mapError fun fault => .within context (failure fault))

/-- Replaces the content of a file. -/
def write (context : Context) (path content : String) : FileWork Unit :=
  asking (.write path content) fun (answer : Except FileFault Unit) =>
    .ofExcept (answer.mapError fun fault => .within context (failure fault))

end Files

end AccountRelay
