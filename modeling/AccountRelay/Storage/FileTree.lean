import AccountRelay.Bytes
import AccountRelay.Storage.Files
import AccountRelay.Storage.Path

/-! # A file system in memory

Names lead to files, and a file is known by a number, so that a content or a lock belongs to the
file whatever becomes of its name. Paths are walked from the directory that the tree stands for, and
every segment on the way has to be a directory.
-/

namespace AccountRelay

/-- What a name stands for. -/
inductive Entry
  | directory
  | file (number : Nat)
deriving DecidableEq

/-- The names of a file system, each with the way from the root of the tree, and the files. -/
structure FileTree where
  entries : List (List String × Entry) := []
  contents : List (Nat × Bytes) := []
  /-- The number of files made so far, which names the next one. -/
  made : Nat := 0
  /-- The files whose lock is held. -/
  locked : List Nat := []
deriving DecidableEq

namespace FileTree

/-- What a way from the root leads to. -/
def entry? (tree : FileTree) (way : List String) : Option Entry :=
  if way = [] then some .directory else tree.entries.lookup way

/-- The content of a file. -/
def content (tree : FileTree) (number : Nat) : Bytes :=
  (tree.contents.lookup number).getD []

/-- The content under a way from the root, if it leads to a file. -/
def content? (tree : FileTree) (way : List String) : Option Bytes :=
  match tree.entry? way with
  | some (.file number) => some (tree.content number)
  | _ => none

/-- The number of bytes that a name may have at most. -/
def longestName : Nat := 255

/-- Goes down from a directory along segments, the last of which need not be there. -/
def walk (tree : FileTree) (way : List String) : List String → Except FileFault (List String)
  | [] => .ok way
  | segment :: rest =>
    if segment = "" ∨ segment = "." then walk tree way rest
    else if segment = ".." then walk tree way.dropLast rest
    else if longestName < segment.utf8ByteSize then .error .nameTooLong
    else
      let next := way ++ [segment]
      if rest.all (·.isEmpty) then .ok next
      else
        match tree.entry? next with
        | some .directory => walk tree next rest
        | some (.file _) => .error .notADirectory
        | none => .error .notFound

/-- The number of bytes that a path may have at most. -/
def longestPath : Nat := 4095

/-- The way that a path names, which may lead nowhere yet; the empty path names none, and no name
holds the character zero. -/
def locate (tree : FileTree) (path : String) : Except FileFault (List String) :=
  if path.isEmpty then .error .notFound
  else if '\x00' ∈ path.toList then .error .zeroCharacter
  else if longestPath < path.utf8ByteSize then .error .nameTooLong
  else tree.walk [] ((Path.segments path.toList).map String.ofList)

/-- What a path leads to; behind a file there is no slash. -/
def find (tree : FileTree) (path : String) : Except FileFault Entry := do
  let way ← tree.locate path
  match tree.entry? way with
  | none => .error .notFound
  | some .directory => return .directory
  | some (.file number) =>
    if Path.endsInSlash path then .error .notADirectory else return .file number

/-- Whether a path leads to something. -/
def hasEntry (tree : FileTree) (path : String) : Bool :=
  (tree.find path).isOk

/-- Whether a path leads to a directory. -/
def isDirectory (tree : FileTree) (path : String) : Bool :=
  match tree.find path with
  | .ok .directory => true
  | _ => false

/-- Reads a file. -/
def read (tree : FileTree) (path : String) : Except FileFault Bytes := do
  match ← tree.find path with
  | .directory => .error .isADirectory
  | .file number => return tree.content number

/-- Whether a new name can be put under a way. -/
def hasRoom (tree : FileTree) (way : List String) : Except FileFault Unit :=
  match tree.entry? way.dropLast with
  | some .directory => .ok ()
  | some (.file _) => .error .notADirectory
  | none => .error .notFound

/-- The tree with a name for a directory. -/
def makeDirectory (tree : FileTree) (path : String) : Except FileFault FileTree := do
  let way ← tree.locate path
  match tree.entry? way with
  | some _ => .error .alreadyExists
  | none =>
    tree.hasRoom way
    return { tree with entries := tree.entries ++ [(way, .directory)] }

/-- Makes a directory, and before it those it lies in, as far as they are missing. The count bounds
how many there can be. -/
def makeDirectories : Nat → FileTree → String → Except FileFault Unit × FileTree
  | 0, tree, _ => (.error .notFound, tree)
  | count + 1, tree, path =>
    if path.isEmpty then (.ok (), tree)
    else
      match tree.makeDirectory path with
      | .ok tree => (.ok (), tree)
      | .error .notFound =>
        match Path.parent? path with
        | none => (.error .notFound, tree)
        | some parent =>
          match makeDirectories count tree parent with
          | (.error fault, tree) => (.error fault, tree)
          | (.ok (), tree) =>
            match tree.makeDirectory path with
            | .ok tree => (.ok (), tree)
            | .error fault =>
              (if tree.isDirectory path then .ok () else .error fault, tree)
      | .error fault => (if tree.isDirectory path then .ok () else .error fault, tree)

/-- The file of a path, made without content if it is missing. -/
def openFile (tree : FileTree) (path : String) : Except FileFault (Nat × FileTree) := do
  let way ← tree.locate path
  if Path.endsInSlash path then .error .isADirectory
  match tree.entry? way with
  | some .directory => .error .isADirectory
  | some (.file number) => return (number, tree)
  | none =>
    tree.hasRoom way
    return (tree.made,
      { tree with
        entries := tree.entries ++ [(way, .file tree.made)]
        contents := (tree.made, []) :: tree.contents
        made := tree.made + 1 })

/-- The tree with another content of a file. -/
def withContent (tree : FileTree) (number : Nat) (content : Bytes) : FileTree :=
  { tree with contents := (number, content) :: tree.contents.filter (·.1 ≠ number) }

/-- The tree after a file has been written. -/
def write (tree : FileTree) (path : String) (content : Bytes) : Except FileFault FileTree := do
  let (number, tree) ← tree.openFile path
  return tree.withContent number content

/-- The tree without a name. -/
def removeEntry (tree : FileTree) (way : List String) : FileTree :=
  { tree with entries := tree.entries.filter (·.1 ≠ way) }

/-- The tree after a file has been moved to another name. Directories stay where they are. -/
def rename (tree : FileTree) (source target : String) : Except FileFault FileTree := do
  let origin ← tree.find source
  let start ← tree.locate source
  let goal ← tree.locate target
  match origin with
  | .directory => .error (.other "Directories stay where they are")
  | .file number =>
    if Path.endsInDots target then .error .inUse
    if Path.endsInSlash target then .error .notADirectory
    if tree.entry? goal = some .directory then .error .isADirectory
    tree.hasRoom goal
    let bare := (tree.removeEntry start).removeEntry goal
    return { bare with entries := bare.entries ++ [(goal, .file number)] }

/-- Opens and locks a file. -/
def lock (tree : FileTree) (path : String) : Except LockFault LockToken × FileTree :=
  match tree.openFile path with
  | .error fault => (.error (.unopened fault), tree)
  | .ok (number, tree) =>
    if number ∈ tree.locked then (.error (.taken .lockHeld), tree)
    else (.ok ⟨number⟩, { tree with locked := number :: tree.locked })

/-- The tree after a change that can fail. -/
def changed (tree : FileTree) : Except FileFault FileTree → Except FileFault Unit × FileTree
  | .ok tree => (.ok (), tree)
  | .error fault => (.error fault, tree)

/-- Answers the questions of `Files`. -/
def answer : (request : FileRequest) → FileTree → request.Answer × FileTree
  | .hasEntry path, tree => (tree.hasEntry path, tree)
  | .read path, tree => (tree.read path, tree)
  | .createDirectories path, tree => makeDirectories (path.length + 1) tree path
  | .lock path, tree => tree.lock path
  | .unlock token, tree => ((), { tree with locked := tree.locked.filter (· ≠ token.file) })
  | .write path content, tree => tree.changed (tree.write path (Bytes.ofText content))
  | .rename source target, tree => tree.changed (tree.rename source target)

/-- The tree with one more file, and with the directories that it lies in. -/
def withFile (tree : FileTree) (path : String) (content : Bytes) : Except FileFault FileTree := do
  let directory := (Path.parent? path).getD ""
  let (outcome, tree) := makeDirectories (directory.length + 1) tree directory
  outcome
  tree.write path content

/-- All names of the tree, each with the content of its file; a directory has none, and its name
ends in a slash. -/
def listing (tree : FileTree) : List (String × Option Bytes) :=
  tree.entries.map fun (way, entry) =>
    match entry with
    | .directory => ("/".intercalate way ++ "/", none)
    | .file number => ("/".intercalate way, some (tree.content number))

/-- Does file work in the tree. -/
def run {α : Type} (tree : FileTree) (work : FileWork α) : Except Failure α × FileTree :=
  Dialogue.run answer work tree

end FileTree

end AccountRelay
