import ShopRelay.Json.Printer
import ShopRelay.Number.Decimal
import ShopRelay.Text.Blank

/-!
Members of an app's answer, read as the type that is needed. A required member that is absent or
unusable names its error; an optional one is then left out.
-/

namespace ShopRelay.Answer

open Json
open Number (Decimal)

/-- Why an answer of an app was rejected. -/
inductive AnswerError where
  | unexpectedShape (expected : String)
  | missingField (field : String)
  | invalidDecimal (field : String) (value : Value)
  | invalidField (field : String)

def AnswerError.message : AnswerError → String
  | .unexpectedShape expected => "expected " ++ expected ++ " in app response"
  | .missingField field => "missing field '" ++ field ++ "'"
  | .invalidDecimal field value => "field '" ++ field ++ "' is not a decimal: " ++ value.print
  | .invalidField field => "field '" ++ field ++ "' has an unexpected type"

abbrev Read := Except AnswerError

def object (v : Value) (expected : String) : Read (Dict Value) :=
  match v with
  | .obj members => .ok members
  | _ => .error (.unexpectedShape expected)

def items (v : Value) (expected : String) : Read (List Value) :=
  match v with
  | .arr items => .ok items
  | _ => .error (.unexpectedShape expected)

/-- Null, false, zero and whatever is empty are not true. -/
def isTrue : Value → Bool
  | .null => false
  | .bool b => b
  | .int n => n != 0
  | .float x => !x.isZero
  | .str s => !s.isEmpty
  | .arr items => !items.isEmpty
  | .obj members => !members.isEmpty

/-- A string, or a number by its JSON text. -/
def toText? : Value → Option String
  | .str s => some s
  | .int n => some (Value.int n).print
  | .float x => some (Value.float x).print
  | _ => none

/-- A whole number of 64 bits, or a string that holds one. -/
def toInt? : Value → Option Int
  | .int n => if Text.isInt64 n then some n else none
  | .str s => Text.readInt64? (Text.trim s)
  | _ => none

/-- A number by its JSON text, or a string that holds an amount. -/
def toDecimal? : Value → Option Decimal
  | .str s => Decimal.read? (Text.trim s)
  | .int n => Decimal.read? (Value.int n).print
  | .float x => Decimal.read? (Value.float x).print
  | _ => none

def optionalText (d : Dict Value) (field : String) : Option String := (d.get? field).bind toText?

def optionalInt (d : Dict Value) (field : String) : Option Int := (d.get? field).bind toInt?

/-- Whether a member is there and true. -/
def flag (d : Dict Value) (field : String) : Bool := (d.get? field).any isTrue

def required (d : Dict Value) (field : String) : Read Value :=
  match d.get? field with
  | some v => .ok v
  | none => .error (.missingField field)

def requiredText (d : Dict Value) (field : String) : Read String := do
  match toText? (← required d field) with
  | some s => return s
  | none => throw (.invalidField field)

def requiredInt (d : Dict Value) (field : String) : Read Int := do
  match toInt? (← required d field) with
  | some n => return n
  | none => throw (.invalidField field)

def requiredDecimal (d : Dict Value) (field : String) : Read Decimal := do
  let v ← required d field
  match toDecimal? v with
  | some x => return x
  | none => throw (.invalidDecimal field v)

/-- A text that is not empty. -/
def nonEmpty (s : Option String) : Option String := s.filter (!·.isEmpty)

end ShopRelay.Answer
