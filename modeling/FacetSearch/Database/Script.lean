import FacetSearch.Database.Basic

/-!
# Scripted databases

A database that follows a script. Commands that control a session or a transaction succeed
unless the script says otherwise; queries take the replies of the script in turn, and find
no rows when these are used up.
-/

namespace FacetSearch

/-- The kinds of commands that control a session or a transaction. -/
inductive ControlKind where
  | begin
  | snapshot
  | limitTime
  | commit
  | ping
deriving DecidableEq, Repr

/-- The kind of a command, unless it is a query. -/
def Command.control? : Command → Option ControlKind
  | begin => some .begin
  | snapshot => some .snapshot
  | limitTime _ => some .limitTime
  | commit => some .commit
  | ping => some .ping
  | query _ => none

structure Script where
  fault : Option PoolFault := none
  /-- The refusals of control commands, by code and message. -/
  refusals : List (ControlKind × String × String) := []
  replies : List Reply := []

namespace Script

/-- The number of queries among commands. -/
def queryCount (log : Log) : Nat := log.countP fun c => c.control?.isNone

def answer (s : Script) (log : Log) (c : Command) : Reply :=
  match c.control? with
  | some kind =>
    match s.refusals.lookup kind with
    | some (code, message) => .refused code message
    | none => .rows []
  | none => (s.replies[queryCount log]?).getD (.rows [])

def database (s : Script) : Database := ⟨fun _ => s.fault, s.answer⟩

end Script

end FacetSearch
