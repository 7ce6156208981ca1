import StatementMapper.Database
import StatementMapper.Table

set_option autoImplicit false

namespace StatementMapper.Rehearsal

inductive Operation where
  | connect
  | query
  | execute
  | commit
  | rollback
  | close
deriving DecidableEq, Repr

def Operation.all : List Operation := [connect, query, execute, commit, rollback, close]

def Operation.name : Operation → String
  | connect => "connect"
  | query => "query"
  | execute => "execute"
  | commit => "commit"
  | rollback => "rollback"
  | close => "close"

def Operation.ofName? (name : String) : Option Operation := all.find? fun operation => operation.name = name

structure Received where
  number : Nat
  columns : List String
  row : List Value
  stopped : Bool

structure Recording where
  calls : List Operation := []
  requests : List Request := []
  log : List String := []
  received : List Received := []
  responses : Table String Rows := []
  counts : Table String Nat := []
  failures : Table Operation String := []

namespace Recording

def count (operation : Operation) (recording : Recording) : Nat := recording.calls.count operation

def write (line : String) (recording : Recording) : Recording := { recording with log := recording.log ++ [line] }

def respond (id : String) (rows : Rows) (recording : Recording) : Recording :=
  { recording with responses := Table.put id rows recording.responses }

def affect (id : String) (count : Nat) (recording : Recording) : Recording :=
  { recording with counts := Table.put id count recording.counts }

def spoil (operation : Operation) (text : String) (recording : Recording) : Recording :=
  { recording with failures := Table.put operation text recording.failures }

def heal (operation : Operation) (recording : Recording) : Recording :=
  { recording with failures := Table.erase operation recording.failures }

def settled (recording : Recording) : Recording := { recording with requests := [], log := [], received := [] }

def check (operation : Operation) : Action Recording Unit := do
  let failure ← Action.look fun recording => Table.get? operation recording.failures
  match failure with
  | some text => Action.fail (.execution (.reported text))
  | none => pure ()

def call (operation : Operation) : Action Recording Unit := do
  Action.change fun recording => { recording with calls := recording.calls ++ [operation] }
  check operation

def keep (request : Request) : Action Recording Unit :=
  Action.change fun recording => { recording with requests := recording.requests ++ [request] }

def echo (request : Request) : Rows :=
  let columns := (List.range request.inputs.length).map fun index => "p" ++ toString (index + 1)
  ⟨"sql" :: columns, [.text request.sql :: request.inputs]⟩

def query (request : Request) : Action Recording Rows := do
  keep request
  call .query
  Action.look fun recording => (Table.get? request.statement recording.responses).getD (echo request)

def violates (sql : String) : Bool := (Text.cut? "FAIL".toList sql.toList).isSome

def execute (request : Request) : Action Recording Nat := do
  keep request
  call .execute
  if violates request.sql then Action.fail (.execution (.reported "constraint violated"))
  else Action.look fun recording => (Table.get? request.statement recording.counts).getD 1

def database : Database Recording where
  query := query
  execute := execute
  commit := call .commit
  rollback := call .rollback
  close := call .close

def connect : Action Recording (Database Recording) := do
  check .connect
  pure database

def receiver {S : Type} (change : (Recording → Recording) → S → S) (stopAfter : Option Nat) : RowHandler S where
  receive number columns row state :=
    let stopped := stopAfter = some number
    (stopped, change (fun recording =>
      { recording with received := recording.received ++ [⟨number, columns, row, stopped⟩] }) state)

end Recording

end StatementMapper.Rehearsal
