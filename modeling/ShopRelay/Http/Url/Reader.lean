import ShopRelay.Http.Host
import ShopRelay.Http.Url.Path

/-!
Reading addresses, alone or relative to another one. What can be repaired is repaired: case,
backslashes, dot segments and characters that must be escaped.
-/

namespace ShopRelay.Http.Url

def isQueryEscaped (special : Bool) (c : Char) : Bool :=
  Domain.isControl c || " \"#<>".toList.contains c || (special && c == '\'')

def isUserEscaped (c : Char) : Bool := isPathEscaped c || "/:;=@[\\]^|".toList.contains c

def isSchemeChar (c : Char) : Bool := c.isAlphanum || c == '+' || c == '-' || c == '.'

/-- Blanks and controls at either end and line breaks anywhere do not count. -/
def cleaned (s : String) : List Char :=
  let isEdge (c : Char) : Bool := c ≤ ' '
  let trimmed := ((s.toList.dropWhile isEdge).reverse.dropWhile isEdge).reverse
  trimmed.filter fun c => c != '\t' && c != '\n' && c != '\r'

/-- The scheme in lower case, and what follows its colon. -/
def splitScheme? (cs : List Char) : Option (String × List Char) := do
  let (scheme, rest) ← Text.splitFirst? ':' cs
  guard (scheme.all isSchemeChar && scheme.head?.any Char.isAlpha)
  return (String.ofList (scheme.map Char.toLower), rest)

/-- What stands before a mark, and what follows it if it is there. -/
def cutAt (mark : Char) (cs : List Char) : List Char × Option (List Char) :=
  match Text.splitFirst? mark cs with
  | some (before, after) => (before, some after)
  | none => (cs, none)

/-- What follows a scheme: the place or the path, then the query and the fragment. -/
structure Tail where
  body : List Char
  query : Option (List Char)
  fragment : Option (List Char)

namespace Tail

def ofList (cs : List Char) : Tail :=
  let (rest, fragment) := cutAt '#' cs
  let (body, query) := cutAt '?' rest
  ⟨body, query, fragment⟩

/-- The slashes at the front, which may be backslashes. -/
def slashes (t : Tail) : Nat := (t.body.takeWhile (isSlash true)).length

def drop (n : Nat) (t : Tail) : Tail := { t with body := t.body.drop n }

def escapedFragment (t : Tail) : Option String :=
  t.fragment.map fun f => String.ofList (escapeWhere isFragmentEscaped f)

/-- The address with the query and the fragment of a tail. -/
def under (t : Tail) (scheme : String) (authority : Option Authority) (path : String) : Url :=
  { scheme, authority, path
    query := t.query.map fun q => String.ofList (escapeWhere (isQueryEscaped (isSpecial scheme)) q)
    fragment := t.escapedFragment }

end Tail

/-- What stands before the last `@`, if there is one, and what follows it. -/
def cutUser (cs : List Char) : Option (List Char) × List Char :=
  let location := (cs.reverse.takeWhile (· != '@')).reverse
  if location.length = cs.length then (none, cs)
  else (some (cs.take (cs.length - location.length - 1)), location)

/-- The host ends at a colon that does not stand in brackets. -/
def hostSpan (isInside : Bool) : List Char → List Char × List Char
  | [] => ([], [])
  | c :: rest =>
    if c == ':' && !isInside then ([], c :: rest)
    else
      let (host, after) := hostSpan (c == '[' || (isInside && c != ']')) rest
      (c :: host, after)

/-- The port behind a host when it is not the standard one, and what follows it. A backslash may
follow it in any scheme. -/
def port? (scheme : String) (cs : List Char) : Option (Option Nat × List Char) :=
  match cs with
  | ':' :: rest => do
    let (digits, after) := rest.span Char.isDigit
    let n := Text.ofDigits digits
    guard (n < 65536 && (after.isEmpty || after.head? = some '\\'))
    return (if digits.isEmpty || standardPorts.lookup scheme = some n then none else some n, after)
  | _ => some (none, cs)

/-- The user and the password, if it is not empty. -/
def credentials (cs : List Char) : String × Option String :=
  let escaped (part : List Char) := String.ofList (escapeWhere isUserEscaped part)
  let (user, password) := cutAt ':' cs
  (escaped user, (password.filter (!·.isEmpty)).map escaped)

/-- An address from what follows the slashes before its authority. -/
def place? (scheme : String) (t : Tail) : Option Url := do
  let special := isSpecial scheme
  let (text, path) := t.body.span (!isSlash special ·)
  let (userinfo, location) := cutUser text
  let (user, password) := credentials (userinfo.getD [])
  let (host, rest) := hostSpan false location
  -- an address without a host has neither a user nor a port
  guard (!host.isEmpty || (user.isEmpty && password.isNone && rest.isEmpty))
  let isLast := path.isEmpty && t.query.isNone && t.fragment.isNone
  guard (userinfo ≠ some [] || !location.isEmpty || isLast)
  let host ← if special then Host.read? host else Host.readOpaque? host
  let (port, rest) ← port? scheme rest
  let path := rest ++ path
  let path := if path.isEmpty && !special then "" else Path.absolute special path
  return t.under scheme (some { user, password, host, port }) path

/-- The address of a file; a drive or this computer itself is no host. -/
def file? (t : Tail) : Option Url := do
  let (host, path) := (t.body.drop 2).span (!isSlash true ·)
  if t.slashes < 2 then
    return t.under "file" (some (.ofHost "")) (Path.file t.body).1
  else if Path.isDrive host then
    return t.under "file" (some (.ofHost "")) (Path.file (host ++ path)).1
  else
    let host ← if host.isEmpty then some "" else Host.read? host
    let (path, hasDrive) := Path.file path
    let isHere := hasDrive || host = "localhost"
    return t.under "file" (some (.ofHost (if isHere then "" else host))) path

/-- What a text without a scheme means at an address of the web. -/
def relative? (base : Url) (t : Tail) : Option Url :=
  if t.body.isEmpty then
    if t.query.isSome then some (t.under base.scheme base.authority base.path)
    else some { base with fragment := t.escapedFragment }
  else if t.slashes = 0 then
    some (t.under base.scheme base.authority (Path.relative true base.path t.body))
  else if t.slashes = 1 then
    some (t.under base.scheme base.authority (Path.absolute true t.body))
  -- of plain slashes only two are dropped, so that a third one ends an empty host
  else if t.body.take 2 = ['/', '/'] then place? base.scheme (t.drop 2)
  else place? base.scheme (t.drop t.slashes)

/-- Without two slashes at the front the scheme of the base alone says nothing. -/
def isWithin (base : Option Url) (scheme : String) (t : Tail) : Bool :=
  t.slashes < 2 && base.any (·.scheme == scheme)

/-- What a text means as an address, at another address of the web if one is given. -/
def readAt? (base : Option Url) (s : String) : Option Url :=
  let cs := cleaned s
  match splitScheme? cs with
  | none => do relative? (← base) (.ofList cs)
  | some (scheme, rest) =>
    let t := Tail.ofList rest
    if scheme == "file" then file? t
    else if isSpecial scheme then
      if isWithin base scheme t then do relative? (← base) t
      else place? scheme (t.drop t.slashes)
    else
      match t.body with
      | '/' :: '/' :: _ => place? scheme (t.drop 2)
      | '/' :: _ => some (t.under scheme none (Path.absolute false t.body))
      | body => some (t.under scheme none (String.ofList (escapeWhere Domain.isControl body)))

def read? (s : String) : Option Url := readAt? none s

end ShopRelay.Http.Url
