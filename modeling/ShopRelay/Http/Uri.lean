import ShopRelay.Http.Url.Reader

/-!
Addresses as a request writes them: strict in what an authority may hold, and without a fragment.
An address with no slashes after its scheme is one authority as a whole.
-/

namespace ShopRelay.Http

structure Uri where
  scheme : Option String
  authority : String
  path : String
  query : Option String
deriving DecidableEq, Repr

namespace Uri

def text (u : Uri) : String :=
  match u.scheme with
  | none => u.authority
  | some scheme =>
    let path := if u.path.isEmpty then "/" else u.path
    scheme ++ "://" ++ u.authority ++ path ++ u.query.elim "" ("?" ++ ·)

def maxLength : Nat := 65534

def maxSchemeLength : Nat := 64

/-- More colons than an IPv6 address and its port have are never allowed. -/
def maxColons : Nat := 8

def isAuthorityChar (c : Char) : Bool := c.isAlphanum || "!$&'()*+,-.;=_~".toList.contains c

/-- What has been seen of an authority since the last mark that made it forgotten. -/
structure Seen where
  colons : Nat
  percent : Bool
  opened : Bool
  closed : Bool

/-- An `@` shows that what went before was a user, a bracket that it was an IPv6 address; escapes
and several colons may stand only there. -/
def Seen.step? (s : Seen) (c : Char) : Option Seen :=
  match c with
  | ':' => if s.colons < maxColons then some { s with colons := s.colons + 1 } else none
  | '@' => some { s with colons := 0, percent := false }
  | '[' => if s.percent || s.opened then none else some { s with opened := true }
  | ']' =>
    if s.opened && !s.closed then some { s with colons := 0, percent := false, closed := true }
    else none
  | '%' => some { s with percent := true }
  | _ => if isAuthorityChar c then some s else none

def isAuthority (cs : List Char) : Bool :=
  cs.getLast? ≠ some '@' && (cs.foldlM Seen.step? ⟨0, false, false, false⟩).any fun s =>
    s.colons ≤ 1 && !s.percent && s.opened == s.closed

def isPathChar (c : Char) : Bool := ' ' < c && !"#<>?\x60".toList.contains c

def isQueryChar (c : Char) : Bool := ' ' < c && !"\"#<>".toList.contains c

/-- A scheme counts only with two slashes after it. -/
def splitScheme (cs : List Char) : Option (List Char) × List Char :=
  let scheme := cs.takeWhile Url.isSchemeChar
  match cs.drop scheme.length with
  | ':' :: '/' :: '/' :: rest => (some scheme, rest)
  | _ => (none, cs)

/-- Reads an address that begins with its scheme. -/
def read? (s : String) : Option Uri := do
  guard (s.utf8ByteSize ≤ maxLength)
  let (scheme, rest) := splitScheme s.toList
  let (authority, rest) := rest.span fun c => c != '/' && c != '?' && c != '#'
  guard (isAuthority authority)
  match scheme with
  | none =>
    guard rest.isEmpty
    return ⟨none, String.ofList authority, "", none⟩
  | some scheme =>
    guard (scheme.length ≤ maxSchemeLength && !authority.isEmpty)
    let t := Url.Tail.ofList rest
    guard (t.body.all isPathChar && t.query.all (·.all isQueryChar))
    return ⟨some (String.ofList scheme), String.ofList authority, String.ofList t.body,
      t.query.map String.ofList⟩

end Uri

end ShopRelay.Http
