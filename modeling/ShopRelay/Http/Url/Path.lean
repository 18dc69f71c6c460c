import ShopRelay.Http.Domain
import ShopRelay.Http.Url

/-!
Paths of addresses as segments. Dot segments are carried out as a path is read, and what may not
stand in a path is escaped.
-/

namespace ShopRelay.Http.Url

def isFragmentEscaped (c : Char) : Bool := Domain.isControl c || " \"<>\x60".toList.contains c

def isPathEscaped (c : Char) : Bool := isFragmentEscaped c || "#?\x7b\x7d".toList.contains c

def isSlash (special : Bool) (c : Char) : Bool := c == '/' || (special && c == '\\')

namespace Path

/-- The escaped segments of a text; a slash at the front begins the first one. -/
def segments (special : Bool) (cs : List Char) : List (List Char) :=
  let slashed := cs.map fun c => if isSlash special c then '/' else c
  let inside := if slashed.head? = some '/' then slashed.drop 1 else slashed
  Text.split '/' (escapeWhere isPathEscaped inside)

/-- The dots that a segment stands for, escaped or not. -/
def dots? : List Char → Option Nat
  | [] => some 0
  | '.' :: rest => (dots? rest).map (· + 1)
  | '%' :: '2' :: e :: rest =>
    if e == 'e' || e == 'E' then (dots? rest).map (· + 1) else none
  | _ => none

/-- A segment such as `C:` names a drive, and so does one with a bar for the colon. -/
def isDrive : List Char → Bool
  | [letter, mark] => letter.isAlpha && (mark == ':' || mark == '|')
  | _ => false

/-- Goes from a directory along some segments; the last segment stands first. Two dots lead out of
a directory but not out of a drive. In a file's path the drive at the front is written with a
colon. -/
def walk (isFile : Bool) (directory : List (List Char)) : List (List Char) → List (List Char)
  | [] => directory
  | segment :: rest =>
    let count := dots? segment
    let isDot := count = some 1 || count = some 2
    let reached :=
      if count = some 2 then if directory.head?.any isDrive then directory else directory.drop 1
      else if count = some 1 then directory
      else if isFile && directory.isEmpty && isDrive segment then [segment.take 1 ++ [':']]
      else segment :: directory
    walk isFile (if isDot && rest.isEmpty then [] :: reached else reached) rest

def write (segments : List (List Char)) : String := String.ofList (segments.flatMap ('/' :: ·))

/-- The path of a text from the root. -/
def absolute (special : Bool) (cs : List Char) : String :=
  write (walk false [] (segments special cs)).reverse

/-- The path of a text from the place of another path, whose last segment does not count. -/
def relative (special : Bool) (base : String) (cs : List Char) : String :=
  let directory := (Text.split '/' (base.toList.drop 1)).reverse.drop 1
  write (walk false directory (segments special cs)).reverse

/-- The path of a file, without empty segments at the front, and whether it begins with a drive. -/
def file (cs : List Char) : String × Bool :=
  let all := (walk true [] (segments true cs)).reverse
  let named := all.dropWhile List.isEmpty
  (write (if named.isEmpty then [[]] else named), all.head?.any isDrive)

end Path

end ShopRelay.Http.Url
