import DumpFlow.Metadata
import DumpFlow.Transaction
import DumpFlow.Profile
import DumpFlow.Fault

/-!
What a session asks of the database and of the file system, and how it is answered. Every request
gets a ticket when it is issued; what a successful request opens, a statement, a transaction or
a row set, is known by the ticket of that request from then on.
-/

namespace DumpFlow

structure Statement where
  ticket : Nat
  text : String
  deriving DecidableEq, Repr

structure Transaction where
  ticket : Nat
  deriving DecidableEq, Repr

/-- The files written by a dump, told one after the other. -/
structure RowSet where
  ticket : Nat
  deriving DecidableEq, Repr

/-- A statement is prepared without placeholders and dumped without parameters. -/
inductive Request where
  | tableMetadata (name : String)
  | prepare (statement : String)
  | closeStatement (statement : Statement)
  | createTransaction (option : TransactionOption)
  | createDirectory (path : Path)
  | dump (transaction : Transaction) (statement : Statement) (destination : Path)
      (profile : DumpProfile)
  | nextPath (rows : RowSet)
  | closeRows (rows : RowSet)
  | commit (transaction : Transaction) (status : CommitStatus)
  | closeTransaction (transaction : Transaction)
  | closeClient
  deriving DecidableEq

inductive Reply where
  | done
  | metadata (metadata : TableMetadata)
  /-- The next file of a row set, if there is one left. -/
  | path (path : Option String)
  | failed (fault : ClientFault)
  /-- The file system refuses. -/
  | denied (reason : String)
  deriving DecidableEq, Repr

end DumpFlow
