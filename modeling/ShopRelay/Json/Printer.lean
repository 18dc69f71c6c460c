import ShopRelay.Json.Tree
import ShopRelay.Number.Shortest
import ShopRelay.Text.Hex

/-!
Printing JSON in one line without blanks. Only the quote, the backslash and the characters below
the space are escaped; floating-point numbers have the fewest digits that read back.
-/

namespace ShopRelay.Json

open Number

namespace Printer

def escape (c : Char) : List Char :=
  if c == '"' then ['\\', '"']
  else if c == '\\' then ['\\', '\\']
  else if c == '\x08' then ['\\', 'b']
  else if c == '\x0c' then ['\\', 'f']
  else if c == '\n' then ['\\', 'n']
  else if c == '\r' then ['\\', 'r']
  else if c == '\t' then ['\\', 't']
  else if c < ' ' then '\\' :: 'u' :: '0' :: '0' :: Text.hexByte (UInt8.ofNat c.toNat)
  else [c]

def string (s : String) : List Char := '"' :: s.toList.flatMap escape ++ ['"']

/-- Digits with a point after the first, and an exponent with its sign. -/
def exponential (s : Scientific) : List Char :=
  let ds := Text.digits s.digits
  let e := s.exponent + ds.length - 1
  let places := match ds.drop 1 with
    | [] => []
    | places => '.' :: places
  ds.take 1 ++ places ++ 'e' :: (if e < 0 then '-' else '+') :: Text.digits e.natAbs

/-- Plain notation while the first digit stands for 10^-5 to 10^15. -/
def magnitude (s : Scientific) : List Char :=
  let e := s.exponent + (Text.digits s.digits).length - 1
  if -5 ≤ e ∧ e ≤ 15 then s.positional true else exponential s

def float (f : Format) (x : Binary) : List Char :=
  (if x.negative then ['-'] else []) ++
    (if x.isZero then "0.0".toList else magnitude (f.shortest x))

def single : Single → List Char
  | .finite x => float Format.single x
  | .infinite _ => "null".toList

mutual

def tree : Tree → List Char
  | .null => "null".toList
  | .bool true => "true".toList
  | .bool false => "false".toList
  | .int n => Text.intDigits n
  | .float x => float Format.double x
  | .single x => single x
  | .str s => string s
  | .arr [] => ['[', ']']
  | .arr (t :: rest) => '[' :: tree t ++ items rest
  | .obj [] => ['\x7b', '\x7d']
  | .obj ((k, t) :: rest) => '\x7b' :: string k ++ ':' :: tree t ++ members rest
  | .unreadable => []

def items : List Tree → List Char
  | [] => [']']
  | t :: rest => ',' :: tree t ++ items rest

def members : List (String × Tree) → List Char
  | [] => ['\x7d']
  | (k, t) :: rest => ',' :: string k ++ ':' :: tree t ++ members rest

end

end Printer

def Tree.print (t : Tree) : String := String.ofList (Printer.tree t)

def Value.print (v : Value) : String := (Tree.ofValue v).print

end ShopRelay.Json
