import ShopRelay.Json.Value
import ShopRelay.Number.Binary
import ShopRelay.Task
import ShopRelay.Time.Timestamp

/-!
Statements of the database and its replies. A statement holds its parameters apart from its text,
which names them `$1`, `$2` and so on.
-/

namespace ShopRelay.Database

open Time (Timestamp)

/-- A parameter of a statement, or a cell of a row. -/
inductive Cell where
  | null
  | bool (b : Bool)
  | int (n : Int)
  | single (x : Number.Single)
  | double (x : Number.Binary)
  | text (s : String)
  | uuid (id : Uuid)
  | time (t : Timestamp)
  | json (v : Json.Value)
  | texts (ss : List String)
  | uuids (ids : List Uuid)
  | times (ts : List Timestamp)

/-- A parameter that may be missing. -/
def Cell.ofOption {α : Type} (cell : α → Cell) : Option α → Cell
  | some x => cell x
  | none => .null

structure Statement where
  text : String
  parameters : List Cell

/-- A part of a statement that is put together: text, or a place for a parameter. -/
inductive Piece where
  | sql (text : String)
  | parameter (cell : Cell)

/-- The text of some pieces, in which the first parameter has the given number. -/
def numberedText : Nat → List Piece → String
  | _, [] => ""
  | n, .sql text :: rest => text ++ numberedText n rest
  | n, .parameter _ :: rest => "$" ++ toString n ++ numberedText (n + 1) rest

def Piece.cell? : Piece → Option Cell
  | .sql _ => none
  | .parameter cell => some cell

def Statement.ofPieces (pieces : List Piece) : Statement :=
  ⟨numberedText 1 pieces, pieces.filterMap Piece.cell?⟩

abbrev Row := List (String × Cell)

structure Outcome where
  rows : List Row
  /-- How many rows a change touched. -/
  affected : Nat

inductive Call where
  | connect
  | begin
  | commit
  | rollback
  | execute (s : Statement)

def Call.Answer : Call → Type
  | .execute _ => Outcome
  | .connect | .begin | .commit | .rollback => Unit

/-- A call is replied with the text of an error when it fails. -/
def session : Interface where
  Call := Call
  Reply c := Except String c.Answer

def perform (c : Call) : Task session c.Answer :=
  Program.bind (Program.ask session c) fun
    | .ok x => Task.done x
    | .error text => Task.fail (.database text)

def connect : Task session Unit :=
  Task.context "failed to connect to the database" (perform .connect)

def execute (s : Statement) : Task session Outcome := perform (.execute s)

def fetchAll (s : Statement) : Task session (List Row) := do
  let outcome ← execute s
  return outcome.rows

/-- The first row, if there is any. -/
def fetchFirst? (s : Statement) : Task session (Option Row) := do
  let rows ← fetchAll s
  return rows.head?

/-- Undoes what was done when a task fails; how that went does not matter. -/
def orRollback {α : Type} (t : Task session α) : Task session α :=
  Program.bind t fun
    | .ok x => Task.done x
    | .error e => Program.bind (Program.ask session .rollback) fun _ => Task.fail e

/-- Runs a task as a transaction: all that it changes is committed, or nothing is. -/
def transaction {α : Type} (committing : String) (t : Task session α) : Task session α := do
  perform .begin
  orRollback do
    let x ← t
    Task.context committing (perform .commit)
    return x

end ShopRelay.Database
