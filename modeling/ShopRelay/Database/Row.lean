import ShopRelay.Database.Statement

/-!
Reading the columns of a row. A column that the row lacks is a fault, and so is one that holds a
value of another type, or none where it must have one.
-/

namespace ShopRelay.Database

open Time (Timestamp)

namespace Cell

def bool? : Cell → Option Bool
  | .bool b => some b
  | _ => none

def int? : Cell → Option Int
  | .int n => some n
  | _ => none

def single? : Cell → Option Number.Single
  | .single x => some x
  | _ => none

def double? : Cell → Option Number.Binary
  | .double x => some x
  | _ => none

def text? : Cell → Option String
  | .text s => some s
  | _ => none

def uuid? : Cell → Option Uuid
  | .uuid id => some id
  | _ => none

def time? : Cell → Option Timestamp
  | .time t => some t
  | _ => none

def json? : Cell → Option Json.Value
  | .json v => some v
  | _ => none

def texts? : Cell → Option (List String)
  | .texts ss => some ss
  | _ => none

end Cell

namespace Row

variable {α : Type}

def cell (row : Row) (column : String) : Except Fault Cell :=
  match List.lookup column row with
  | some cell => .ok cell
  | none => .error (.missingColumn column)

/-- A column that may hold no value. -/
def optional (row : Row) (column : String) (read : Cell → Option α) :
    Except Fault (Option α) := do
  match ← row.cell column with
  | .null => return none
  | cell =>
    match read cell with
    | some x => return some x
    | none => throw (.mismatchedColumn column)

def required (row : Row) (column : String) (read : Cell → Option α) : Except Fault α := do
  match ← row.optional column read with
  | some x => return x
  | none => throw (.nullColumn column)

/-- A column that names one of some choices. -/
def choice (row : Row) (column : String) (ofName? : String → Option α)
    (unknown : String → Fault) : Except Fault α := do
  let name ← row.required column Cell.text?
  match ofName? name with
  | some x => return x
  | none => throw (unknown name)

end Row

/-- All rows of a statement, each read. -/
def readAll {α : Type} (s : Statement) (read : Row → Except Fault α) : Task session (List α) := do
  let rows ← fetchAll s
  Task.ofExcept (rows.mapM read)

/-- The first row of a statement, read, if there is any. -/
def readFirst? {α : Type} (s : Statement) (read : Row → Except Fault α) :
    Task session (Option α) := do
  match ← fetchFirst? s with
  | none => return none
  | some row => return some (← Task.ofExcept (read row))

/-- A change that must touch a row. -/
def change (s : Statement) (missing : Fault) : Task session Unit := do
  let outcome ← execute s
  if outcome.affected = 0 then Task.fail missing

end ShopRelay.Database
