import AccountRelay.Bytes

/-! # Locks of senders

Operations of one sender are built one after another: a run takes the sender's lock before it reads
the nonce and gives it back once the bundler has answered. Each sender that somebody waits for has a
mutex of its own, kept in a map from senders to mutexes. A ticket is one acquire: it is queued until
the lock is handed to it, granted until its run looks, and held from then on.

A ticket of a held lock gives back in two halves: `release` takes it away and hands the mutex to the
first ticket in the queue, and `tidy` removes the sender's entry of the map when no ticket refers to
its mutex any more. A ticket that is given up before it is held is released without tidying.
-/

namespace AccountRelay

/-- How far an acquire has come. -/
inductive Stage
  /-- Waits behind others. -/
  | queued
  /-- Has been handed the lock and has not noticed yet. -/
  | granted
  /-- Has the lock. -/
  | held
deriving DecidableEq

/-- One acquire that is neither given back nor given up. -/
structure Ticket (Id : Type) where
  id : Id
  sender : Address
  /-- The mutex that the acquire found in the map. -/
  mutex : Nat
  stage : Stage
deriving DecidableEq

/-- The map from senders to mutexes, and the acquires in the order they were started. -/
structure SenderLocks (Id : Type) where
  entries : List (Address × Nat) := []
  tickets : List (Ticket Id) := []
  /-- The number of mutexes made so far, which names the next one. -/
  made : Nat := 0

namespace SenderLocks

variable {Id : Type} [DecidableEq Id]

/-- The ticket of an acquire. -/
def ticket? (locks : SenderLocks Id) (id : Id) : Option (Ticket Id) :=
  locks.tickets.find? (·.id = id)

/-- The mutex that the map stores for a sender. -/
def mutex? (locks : SenderLocks Id) (sender : Address) : Option Nat :=
  locks.entries.lookup sender

/-- Whether some ticket has been given the mutex, noticed or not. -/
def isTaken (locks : SenderLocks Id) (mutex : Nat) : Bool :=
  locks.tickets.any fun ticket => ticket.mutex = mutex ∧ ticket.stage ≠ .queued

/-- The locks with a mutex for the sender, made if there is none. -/
def withMutex (locks : SenderLocks Id) (sender : Address) : Nat × SenderLocks Id :=
  match locks.mutex? sender with
  | some mutex => (mutex, locks)
  | none =>
    (locks.made,
      { locks with entries := locks.entries ++ [(sender, locks.made)], made := locks.made + 1 })

/-- Starts an acquire and looks once: the lock is held at once when nobody has been given it. -/
def acquire (locks : SenderLocks Id) (id : Id) (sender : Address) : SenderLocks Id :=
  let (mutex, locks) := locks.withMutex sender
  let stage := if locks.isTaken mutex then .queued else .held
  { locks with tickets := locks.tickets ++ [{ id, sender, mutex, stage }] }

/-- A ticket after a look: one that has been handed the lock holds it. -/
def Ticket.looked (ticket : Ticket Id) : Ticket Id :=
  if ticket.stage = .granted then { ticket with stage := .held } else ticket

/-- Looks whether an acquire has got its lock. -/
def poll (locks : SenderLocks Id) (id : Id) : SenderLocks Id :=
  { locks with
    tickets := locks.tickets.map fun ticket =>
      if ticket.id = id then Ticket.looked ticket else ticket }

/-- The tickets with the first queued one of a mutex granted. -/
def grantFirst (mutex : Nat) : List (Ticket Id) → List (Ticket Id)
  | [] => []
  | ticket :: rest =>
    if ticket.mutex = mutex ∧ ticket.stage = .queued then { ticket with stage := .granted } :: rest
    else ticket :: grantFirst mutex rest

/-- Hands a mutex that nobody has to the first ticket in its queue. -/
def handOver (locks : SenderLocks Id) (mutex : Nat) : SenderLocks Id :=
  if locks.isTaken mutex then locks
  else { locks with tickets := grantFirst mutex locks.tickets }

/-- Takes a ticket away and hands its mutex on. -/
def release (locks : SenderLocks Id) (ticket : Ticket Id) : SenderLocks Id :=
  handOver { locks with tickets := locks.tickets.filter (·.id ≠ ticket.id) } ticket.mutex

/-- Removes a sender's entry when no ticket refers to its mutex. -/
def tidy (locks : SenderLocks Id) (sender : Address) : SenderLocks Id :=
  match locks.mutex? sender with
  | none => locks
  | some mutex =>
    if locks.tickets.any (·.mutex = mutex) then locks
    else { locks with entries := locks.entries.filter (·.1 ≠ sender) }

/-- Gives back a held lock, or gives up an acquire that does not hold it yet. -/
def drop (locks : SenderLocks Id) (id : Id) : SenderLocks Id :=
  match locks.ticket? id with
  | none => locks
  | some ticket =>
    let released := locks.release ticket
    if ticket.stage = .held then released.tidy ticket.sender else released

/-- The number of senders in the map. -/
def size (locks : SenderLocks Id) : Nat :=
  locks.entries.length

end SenderLocks

end AccountRelay
