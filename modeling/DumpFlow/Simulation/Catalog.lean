import DumpFlow.Session.Request
import DumpFlow.Simulation.Cursor

/-!
A database in memory: it knows some tables, compiles every statement but those listed as invalid,
and writes one file per dump. It fails where it is told to and counts what it is asked for.
-/

namespace DumpFlow.Simulation

/-- Where a catalog fails. -/
inductive CatalogFault where
  | metadataIo
  | beginIo
  | beginServer
  | dumpServer
  | commitServer
  | closeTransaction
  | closeClient
  deriving DecidableEq, Repr

structure CatalogCounts where
  metadataCalls : Nat
  /-- All statements that were to be prepared, oldest first. -/
  prepared : List String
  openStatements : Nat
  transactions : Nat
  options : List TransactionOption
  transactionCloses : Nat
  clientCloses : Nat
  commits : Nat
  dumps : Nat
  dumpsInFlight : Nat
  greatestInFlight : Nat
  deriving DecidableEq, Repr

def CatalogCounts.zero : CatalogCounts := ⟨0, [], 0, 0, [], 0, 0, 0, 0, 0, 0⟩

/-- Delays are in milliseconds. -/
structure Catalog where
  tables : Dictionary TableMetadata
  invalidStatements : List String
  rejectedDumps : List String
  faults : List CatalogFault
  dumpDelay : Nat
  beginDelay : Nat
  counts : CatalogCounts
  cursors : List Cursor

namespace Catalog

def make (tables : List TableMetadata) (invalidStatements rejectedDumps : List String)
    (faults : List CatalogFault) (dumpDelay beginDelay : Nat) : Catalog :=
  ⟨.ofList (tables.map fun m => (m.name, m)), invalidStatements, rejectedDumps, faults, dumpDelay,
    beginDelay, .zero, []⟩

/-- A table of which nothing but the name is told. -/
def plainTable (name : String) : TableMetadata :=
  (TableMetadata.named name).withColumn "id" "INT"

def fails (c : Catalog) (fault : CatalogFault) : Bool :=
  c.faults.contains fault

def rejectsDump (c : Catalog) (statement : String) : Bool :=
  c.fails .dumpServer || c.rejectedDumps.contains statement

def count (c : Catalog) (f : CatalogCounts → CatalogCounts) : Catalog :=
  { c with counts := f c.counts }

def enterDump (n : CatalogCounts) : CatalogCounts :=
  { n with
    dumpsInFlight := n.dumpsInFlight + 1
    greatestInFlight := max n.greatestInFlight (n.dumpsInFlight + 1) }

def leaveDump (n : CatalogCounts) : CatalogCounts :=
  { n with dumpsInFlight := n.dumpsInFlight - 1, dumps := n.dumps + 1 }

def rejectsTransactions (c : Catalog) : Option ClientFault :=
  if c.fails .beginIo then some (.io "connection lost")
  else if c.fails .beginServer then some (.server "transaction rejected")
  else none

/-- What a request does on arrival, and after how long it is answered. Refusals come at once. -/
def receive (c : Catalog) : Request → Catalog × Nat
  | .tableMetadata _ => (c.count fun n => { n with metadataCalls := n.metadataCalls + 1 }, 0)
  | .prepare statement => (c.count fun n => { n with prepared := n.prepared ++ [statement] }, 0)
  | .createTransaction option =>
    (c.count fun n => { n with options := n.options ++ [option] },
      if c.rejectsTransactions.isSome then 0 else c.beginDelay)
  | .dump _ statement _ _ =>
    if c.rejectsDump statement.text then (c, 0) else (c.count enterDump, c.dumpDelay)
  | .closeTransaction _ =>
    (c.count fun n => { n with transactionCloses := n.transactionCloses + 1 }, 0)
  | .closeClient => (c.count fun n => { n with clientCloses := n.clientCloses + 1 }, 0)
  | .closeStatement _ | .createDirectory _ | .nextPath _ | .closeRows _ | .commit _ _ => (c, 0)

/-- Done, unless the catalog is told to fail there. -/
def doneUnless (c : Catalog) (place : CatalogFault) (fault : ClientFault) : Catalog × Reply :=
  (c, if c.fails place then .failed fault else .done)

/-- The answer to a request with a ticket, when its time has come. -/
def answer (c : Catalog) (ticket : Nat) : Request → Catalog × Reply
  | .tableMetadata name =>
    (c,
      if c.fails .metadataIo then .failed (.io "connection lost")
      else
        match c.tables.find? name with
        | some m => .metadata m
        | none => .failed (.notFound ("table " ++ name)))
  | .prepare statement =>
    if c.invalidStatements.contains statement then
      (c, .failed (.compile ("cannot compile: " ++ statement)))
    else (c.count fun n => { n with openStatements := n.openStatements + 1 }, .done)
  | .closeStatement _ =>
    (c.count fun n => { n with openStatements := n.openStatements - 1 }, .done)
  | .createTransaction _ =>
    match c.rejectsTransactions with
    | some fault => (c, .failed fault)
    | none => (c.count fun n => { n with transactions := n.transactions + 1 }, .done)
  | .dump _ statement destination _ =>
    if c.rejectsDump statement.text then
      (c, .failed (.server ("dump rejected: " ++ statement.text)))
    else
      ({ c.count leaveDump with
        cursors := ⟨ticket, [(destination.join "1").text], .ok (), .ok ()⟩ :: c.cursors }, .done)
  | .nextPath rows =>
    match Cursor.advance rows.ticket c.cursors with
    | (.ok path, cursors) => ({ c with cursors := cursors }, .path path)
    | (.error fault, cursors) => ({ c with cursors := cursors }, .failed fault)
  | .commit _ _ =>
    if c.fails .commitServer then (c, .failed (.server "serialization failure"))
    else (c.count fun n => { n with commits := n.commits + 1 }, .done)
  | .closeTransaction _ => c.doneUnless .closeTransaction (.io "connection reset")
  | .closeClient => c.doneUnless .closeClient (.server "session already expired")
  | .closeRows _ | .createDirectory _ => (c, .done)

end Catalog

end DumpFlow.Simulation
