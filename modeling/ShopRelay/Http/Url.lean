import ShopRelay.Http.Percent
import ShopRelay.Text.Digits

/-!
Addresses: a scheme, for most schemes an authority with a host, a path, and at times a query and a
fragment. All parts are kept as they are written.
-/

namespace ShopRelay.Http

structure Authority where
  user : String
  password : Option String
  /-- Empty where an address has no host. -/
  host : String
  /-- None when it is the standard one of the scheme. -/
  port : Option Nat
deriving DecidableEq, Repr

namespace Authority

def ofHost (host : String) : Authority := ⟨"", none, host, none⟩

/-- The host with its port. -/
def location (a : Authority) : String :=
  match a.port with
  | some n => a.host ++ ":" ++ String.ofList (Text.digits n)
  | none => a.host

def text (a : Authority) : String :=
  let credentials := a.user ++ a.password.elim "" (":" ++ ·)
  (if credentials.isEmpty then "" else credentials ++ "@") ++ a.location

/-- A user and a password are taken out of an address; a name that is not UTF-8 is no user. -/
def withoutCredentials (a : Authority) : Authority :=
  let reads (s : String) : Bool := (Text.decodeUtf8? (unescape (Text.encodeUtf8 s))).isSome
  if reads a.user && (!a.user.isEmpty || a.password.any reads) then
    { a with user := "", password := none }
  else a

end Authority

structure Url where
  scheme : String
  authority : Option Authority
  path : String
  query : Option String
  fragment : Option String
deriving DecidableEq, Repr

namespace Url

def hasHost (u : Url) : Bool := u.authority.any fun a => !a.host.isEmpty

def withoutCredentials (u : Url) : Url :=
  { u with authority := u.authority.map Authority.withoutCredentials }

/-- The path and the query, which a request names. -/
def target (u : Url) : String :=
  let path := if u.path.isEmpty then "/" else u.path
  path ++ u.query.elim "" ("?" ++ ·)

/-- A path of two slashes would read as an authority, so a dot keeps them apart from the scheme. -/
def text (u : Url) : String :=
  let place := match u.authority with
    | some a => "//" ++ a.text
    | none => if u.path.toList.take 2 = ['/', '/'] then "/." else ""
  let query := u.query.elim "" ("?" ++ ·)
  let fragment := u.fragment.elim "" ("#" ++ ·)
  u.scheme ++ ":" ++ place ++ u.path ++ query ++ fragment

/-- The schemes of the web, whose addresses always have a host, with their standard ports. -/
def standardPorts : List (String × Nat) :=
  [("http", 80), ("https", 443), ("ws", 80), ("wss", 443), ("ftp", 21)]

/-- The schemes whose addresses are read with care for slips, such as backslashes. -/
def isSpecial (scheme : String) : Bool :=
  scheme == "file" || (standardPorts.lookup scheme).isSome

end Url

end ShopRelay.Http
