import DumpFlow.Session.Request
import DumpFlow.Simulation.Cursor

/-!
A database that answers by a script: it knows beforehand, for each table, each statement and each
kind of request, what it will answer and after how long. It logs the requests in their order.
-/

namespace DumpFlow.Simulation

/-- The kinds of requests that the script sets delays for. -/
inductive RequestKind where
  | metadata
  | prepare
  | closeStatement
  | begin
  | dump
  | commit
  | closeTransaction
  | next
  | closeRows
  | closeClient
  deriving DecidableEq, Repr

/-- What becomes of a dump: whether it is refused, its paths, what comes after the last one, and
what closing its rows gives. -/
structure DumpScript where
  refusal : Option ClientFault
  paths : List String
  failureAtEnd : Option ClientFault
  failureAtClose : Option ClientFault
  deriving DecidableEq, Repr

namespace DumpScript

def empty : DumpScript := ⟨none, [], none, none⟩

instance : Inhabited DumpScript := ⟨empty⟩

end DumpScript

/-- Delays are in milliseconds. -/
structure Script where
  tables : Dictionary TableMetadata
  tableFailures : Dictionary ClientFault
  prepareFailures : Dictionary ClientFault
  closeStatementFailure : Option ClientFault
  beginFailure : Option ClientFault
  commitFailure : Option ClientFault
  closeTransactionFailure : Option ClientFault
  closeClientFailure : Option ClientFault
  dumps : Dictionary DumpScript
  delays : RequestKind → Nat
  /-- Oldest first. -/
  log : List Request
  cursors : List Cursor

namespace Script

/-- Directories are not the database's to create. -/
def kind? : Request → Option RequestKind
  | .tableMetadata _ => some .metadata
  | .prepare _ => some .prepare
  | .closeStatement _ => some .closeStatement
  | .createTransaction _ => some .begin
  | .createDirectory _ => none
  | .dump _ _ _ _ => some .dump
  | .nextPath _ => some .next
  | .closeRows _ => some .closeRows
  | .commit _ _ => some .commit
  | .closeTransaction _ => some .closeTransaction
  | .closeClient => some .closeClient

def receive (s : Script) (q : Request) : Script × Nat :=
  match kind? q with
  | some kind => ({ s with log := s.log ++ [q] }, s.delays kind)
  | none => (s, 0)

def outcome : Option ClientFault → Except ClientFault Unit
  | some fault => .error fault
  | none => .ok ()

def reply : Except ClientFault Unit → Reply
  | .ok _ => .done
  | .error fault => .failed fault

def dumpScript (s : Script) (statement : String) : DumpScript :=
  (s.dumps.find? statement).getD default

/-- The answer to a request with a ticket, when its time has come. -/
def answer (s : Script) (ticket : Nat) : Request → Script × Reply
  | .tableMetadata name =>
    (s,
      match s.tableFailures.find? name, s.tables.find? name with
      | some fault, _ => .failed fault
      | none, some m => .metadata m
      | none, none => .failed (.notFound ("no table " ++ name)))
  | .prepare statement => (s, reply (outcome (s.prepareFailures.find? statement)))
  | .closeStatement _ => (s, reply (outcome s.closeStatementFailure))
  | .createTransaction _ => (s, reply (outcome s.beginFailure))
  | .createDirectory _ => (s, .done)
  | .dump _ statement _ _ =>
    let d := s.dumpScript statement.text
    match d.refusal with
    | some fault => (s, .failed fault)
    | none =>
      ({ s with cursors :=
        ⟨ticket, d.paths, outcome d.failureAtEnd, outcome d.failureAtClose⟩ :: s.cursors }, .done)
  | .nextPath rows =>
    match Cursor.advance rows.ticket s.cursors with
    | (.ok path, cursors) => ({ s with cursors := cursors }, .path path)
    | (.error fault, cursors) => ({ s with cursors := cursors }, .failed fault)
  | .closeRows rows => (s, reply (Cursor.closing rows.ticket s.cursors))
  | .commit _ _ => (s, reply (outcome s.commitFailure))
  | .closeTransaction _ => (s, reply (outcome s.closeTransactionFailure))
  | .closeClient => (s, reply (outcome s.closeClientFailure))

end Script

end DumpFlow.Simulation
