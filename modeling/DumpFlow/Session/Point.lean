import DumpFlow.Session.Request
import DumpFlow.Monitor.Event

/-!
The points at which a call on a session can stand. From each point a call takes one action, on the
state of the session, its transaction, its registered targets, its monitor or its database; calls
on one session interleave between any two actions.
-/

namespace DumpFlow.Session

inductive RegisterPoint where
  | checkState
  /-- Is the target registered already? -/
  | lookUp
  | resolveTable
  | prepareQuery
  | closeStatement (statement : Statement)
  /-- Register the target with what is known of it, unless it has been meanwhile. -/
  | enroll (info : DumpInfo)
  | announce (info : DumpInfo)
  deriving DecidableEq, Repr

inductive BeginPoint where
  | checkState
  | checkTargets
  | start
  | announce
  | create (option : TransactionOption)
  /-- No transaction was created. -/
  | fail (fault : DumpFault)
  | store (transaction : Transaction)
  | run
  /-- The session was closed meanwhile; the transaction may still be its own to close. -/
  | reclaim (fault : StateFault)
  | closeAbandoned (transaction : Transaction) (fault : StateFault)
  deriving Repr

inductive ExecutePoint where
  | checkState
  | borrow
  | lookUp (transaction : Transaction)
  | prepare (transaction : Transaction)
  | announceStart (transaction : Transaction) (statement : Statement)
  | createDirectory (transaction : Transaction) (statement : Statement)
  | dump (transaction : Transaction) (statement : Statement)
  | fetch (statement : Statement) (rows : RowSet)
  | announceFile (statement : Statement) (rows : RowSet) (path : String)
  /-- After the last row, or after the fault of a row. -/
  | closeRows (statement : Statement) (rows : RowSet) (fault : Option ClientFault)
  | announceFinish (statement : Statement)
  | closeStatement (statement : Statement) (outcome : Outcome)
  deriving Repr

inductive CommitPoint where
  | start
  | borrow
  | announce (transaction : Transaction)
  | commit (transaction : Transaction)
  | fail (fault : DumpFault)
  | settle
  deriving Repr

inductive ClosePoint where
  | start
  | take
  | closeTransaction (transaction : Transaction)
  /-- With the failure to close the transaction, if it failed. -/
  | closeClient (failure : Option Diagnostic)
  deriving Repr

inductive Point where
  | register (target : Target) (at_ : RegisterPoint)
  | begin (at_ : BeginPoint)
  | execute (target : Target) (at_ : ExecutePoint)
  | commit (at_ : CommitPoint)
  | close (at_ : ClosePoint)
  deriving Repr

end DumpFlow.Session
