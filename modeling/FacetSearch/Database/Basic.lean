import FacetSearch.Database.Fault
import FacetSearch.Sql.Fragment

/-!
# The database

A database is known by its answers: what it replies to a command may depend on all commands
sent before, and so may whether it lends a connection. A session is a computation that sends
commands; it stops at the first fault. Rolling back after a fault is not recorded as a command.
-/

namespace FacetSearch

/-- A statement that a session sends. -/
inductive Command where
  | begin
  /-- Makes the transaction read a single snapshot. -/
  | snapshot
  /-- Limits the time of every later statement of the transaction. -/
  | limitTime (milliseconds : Nat)
  | commit
  | ping
  | query (statement : Statement)
deriving DecidableEq, Repr

namespace Command

/-- The SQL that is sent. -/
def statement : Command → Statement
  | begin => ⟨"BEGIN", []⟩
  | snapshot => ⟨"SET TRANSACTION ISOLATION LEVEL REPEATABLE READ, READ ONLY", []⟩
  | limitTime milliseconds =>
    ⟨"SELECT set_config('statement_timeout', $1, true)",
      [.text (toString milliseconds ++ "ms")]⟩
  | commit => ⟨"COMMIT", []⟩
  | ping => ⟨"SELECT 1", []⟩
  | query s => s

end Command

/-- A value in a row. -/
inductive Cell where
  | null
  | text (value : String)
  | bigint (value : Int)
deriving DecidableEq, Repr

namespace Cell

def text? : Cell → Option String
  | text s => some s
  | _ => none

def bigint? : Cell → Option Int
  | bigint n => some n
  | _ => none

/-- A cell that may be NULL. -/
def nullable? (read : Cell → Option α) : Cell → Option (Option α)
  | null => some none
  | c => (read c).map some

end Cell

abbrev Row := List Cell

/-- The answer to a command. -/
inductive Reply where
  | rows (rows : List Row)
  | refused (code message : String)
deriving DecidableEq, Repr

/-- The commands sent so far, the oldest first. -/
abbrev Log := List Command

structure Database where
  /-- Why no connection can be had after the commands of the log, if none can. -/
  fault : Log → Option PoolFault
  /-- The reply to a command that is sent after those of the log. -/
  answer : Log → Command → Reply

/-- A computation that talks to the database. -/
abbrev Session := ExceptT Fault (StateM Log)

namespace Database

/-- Takes a connection from the pool, without a command. -/
def connect (db : Database) : Session Unit := ExceptT.mk fun log =>
  (match db.fault log with
    | some fault => .error (.pool fault)
    | none => .ok (),
  log)

/-- Sends a command and takes the rows of its reply. -/
def send (db : Database) (c : Command) : Session (List Row) := ExceptT.mk fun log =>
  (match db.answer log c with
    | .rows rows => .ok rows
    | .refused code message => .error (.server code message),
  log ++ [c])

/-- Sends a command whose rows do not matter. -/
def execute (db : Database) (c : Command) : Session Unit := do
  let _ ← db.send c

/-- Runs a query and reads all its rows. -/
def fetchAll (db : Database) (read : Row → Option α) (s : Statement) : Session (List α) := do
  let rows ← db.send (.query s)
  match rows.mapM read with
  | some values => return values
  | none => throw .undecodable

/-- Runs a query and reads its first row, if there is one. -/
def fetchFirst (db : Database) (read : Row → Option α) (s : Statement) :
    Session (Option α) := do
  let rows ← db.send (.query s)
  match rows.head? with
  | none => return none
  | some row =>
    match read row with
    | some value => return some value
    | none => throw .undecodable

end Database

namespace Row

/-- The only cell of a row. -/
def text? : Row → Option String
  | [c] => c.text?
  | _ => none

def bigint? : Row → Option Int
  | [c] => c.bigint?
  | _ => none

end Row

end FacetSearch
