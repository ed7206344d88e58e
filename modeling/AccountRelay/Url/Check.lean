import AccountRelay.Url.Host

/-! # URLs

Whether a text is a URL on its own. Blanks and controls around it and line breaks inside it do not
count. A scheme that leads to a server needs a host, whatever the number of slashes in front of it;
any other scheme may do without.
-/

namespace AccountRelay.Url

/-- What follows a scheme, and the scheme in small letters. -/
structure Schemed where
  scheme : String
  rest : List Char

/-- The kinds of schemes, which read hosts by different rules. -/
inductive SchemeKind
  /-- Leads to a server by its name. -/
  | server
  | file
  | other
deriving DecidableEq

/-- The kind of a scheme. -/
def schemeKind (scheme : String) : SchemeKind :=
  if ["http", "https", "ws", "wss", "ftp"].contains scheme then .server
  else if scheme = "file" then .file
  else .other

/-- A text without what does not count in a URL. -/
def significant (text : List Char) : List Char :=
  let isEdge (c : Char) := c.toNat ≤ 0x20
  let inner := ((text.dropWhile isEdge).reverse.dropWhile isEdge).reverse
  inner.filter fun c => !(c = '\t' || c = '\n' || c = '\r')

/-- Whether a character may stand in a scheme behind the first letter. -/
def isSchemeCharacter (c : Char) : Bool :=
  c.isAlphanum || c = '+' || c = '-' || c = '.'

/-- Splits a text at the colon behind its scheme. -/
def scheme? : List Char → Option Schemed
  | [] => none
  | first :: rest =>
    if first.isAlpha then
      match rest.dropWhile isSchemeCharacter with
      | ':' :: behind =>
        some ⟨String.ofList ((first :: rest.takeWhile isSchemeCharacter).map Char.toLower), behind⟩
      | _ => none
    else none

/-- Whether a character ends the part of a URL that names a server. -/
def endsAuthority (kind : SchemeKind) (c : Char) : Bool :=
  c = '/' || c = '?' || c = '#' || (c = '\\' && kind ≠ .other)

/-- Checks what follows the host: nothing, or a port of 16 bits behind a colon. -/
def checkPort : List Char → Except UrlFault Unit
  | ':' :: rest =>
    match numberIn? 10 (rest.takeWhile (· ≠ '\\')) with
    | some number => if number < 65536 then .ok () else .error .port
    | none => .error .port
  | _ => .ok ()

/-- A host and what follows it: the host ends at a colon outside brackets. -/
def splitHost (inside : Bool) : List Char → List Char × List Char
  | [] => ([], [])
  | c :: rest =>
    if c = ':' && !inside then ([], c :: rest)
    else
      let (host, behind) := splitHost (c = '[' || (inside && c ≠ ']')) rest
      (c :: host, behind)

/-- Checks a host and a port. -/
def checkServer (kind : SchemeKind) (text : List Char) : Except UrlFault Unit := do
  let (host, behind) := splitHost false text
  if host.isEmpty then
    if kind = .server || behind.head? = some ':' then .error .emptyHost else .ok ()
  else
    match kind with
    | .other => checkOpaqueHost host
    | _ => checkHost host
    checkPort behind

/-- The part in front of the last `@` and the part behind it. -/
def splitUser (authority : List Char) : Option (List Char) × List Char :=
  let reversed := authority.reverse
  match reversed.dropWhile (· ≠ '@') with
  | [] => (none, authority)
  | _ :: front => (some front.reverse, (reversed.takeWhile (· ≠ '@')).reverse)

/-- Checks what follows the slashes behind a scheme. A user without a host is a fault, and so is
nothing on both sides of an `@` when more follows. -/
def checkAuthority (kind : SchemeKind) (text : List Char) : Except UrlFault Unit :=
  let authority := text.takeWhile fun c => !endsAuthority kind c
  let ends := (text.dropWhile fun c => !endsAuthority kind c).isEmpty
  match splitUser authority with
  | (none, server) => checkServer kind server
  | (some user, server) =>
    let lonely := if user.isEmpty then !ends else user ≠ [':']
    if server.isEmpty && lonely then .error .emptyHost else checkServer kind server

/-- Whether a text is the name of a drive. -/
def isDrive : List Char → Bool
  | [letter, mark] => letter.isAlpha && (mark = ':' || mark = '|')
  | _ => false

/-- Checks the host that two slashes announce for a file. -/
def checkFile : List Char → Except UrlFault Unit
  | first :: second :: rest =>
    let isSlash (c : Char) := c = '/' || c = '\\'
    let host := rest.takeWhile fun c => !endsAuthority .file c
    if isSlash first && isSlash second && !host.isEmpty && !isDrive host then checkHost host
    else .ok ()
  | _ => .ok ()

/-- Checks a URL that has to stand on its own. -/
def check (text : String) : Except UrlFault Unit :=
  match scheme? (significant text.toList) with
  | none => .error .relative
  | some ⟨scheme, rest⟩ =>
    match schemeKind scheme, rest with
    | .server, rest => checkAuthority .server (rest.dropWhile fun c => c = '/' || c = '\\')
    | .file, rest => checkFile rest
    | .other, '/' :: '/' :: rest => checkAuthority .other rest
    | .other, _ => .ok ()

end AccountRelay.Url
