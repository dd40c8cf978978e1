import DumpFlow.Lifecycle
import DumpFlow.Target
import DumpFlow.Text.Literal

/-!
What can go wrong. A diagnostic reports a problem of the environment or the database; all other
faults are misuse: an operation out of turn, an argument that cannot be used, a target that nobody
handles. Each fault is a value that says what happened; its wording is in `message`.
-/

namespace DumpFlow

/-- An answer of the database client that is not a success. -/
inductive ClientFault where
  | notFound (reason : String)
  | compile (reason : String)
  | io (reason : String)
  | server (reason : String)
  deriving DecidableEq, Repr

namespace ClientFault

def message : ClientFault → String
  | notFound reason => "not found: " ++ reason
  | compile reason => "compile error: " ++ reason
  | io reason => "I/O error: " ++ reason
  | server reason => "server error: " ++ reason

def isIo : ClientFault → Bool
  | io _ => true
  | _ => false

/-- What lies behind a fault: an I/O fault wraps the error of the system. -/
def causes : ClientFault → List String
  | io reason => [reason]
  | _ => []

end ClientFault

inductive DiagnosticKind where
  | tableNotFound
  | prepareFailure
  | beginFailure
  | operationFailure
  | commitFailure
  | ioError
  | serverError
  | unknown
  deriving DecidableEq, Repr

namespace DiagnosticKind

def all : List DiagnosticKind :=
  [tableNotFound, prepareFailure, beginFailure, operationFailure, commitFailure, ioError,
    serverError, unknown]

def code : DiagnosticKind → String
  | tableNotFound => "TABLE_NOT_FOUND"
  | prepareFailure => "PREPARE_FAILURE"
  | beginFailure => "BEGIN_FAILURE"
  | operationFailure => "OPERATION_FAILURE"
  | commitFailure => "COMMIT_FAILURE"
  | ioError => "IO_ERROR"
  | serverError => "SERVER_ERROR"
  | unknown => "UNKNOWN"

end DiagnosticKind

/-- A session operation that needs a state or a transaction. -/
inductive Operation where
  | register
  | begin
  | execute
  | commit
  deriving DecidableEq, Repr

namespace Operation

def name : Operation → String
  | register => "register"
  | begin => "begin"
  | execute => "execute"
  | commit => "commit"

/-- The operation as what a session is asked to do. -/
def phrase : Operation → String
  | register => "register a target"
  | begin => "begin"
  | execute => "execute a target"
  | commit => "commit"

end Operation

/-- An operation that comes out of turn. -/
inductive StateFault where
  | unexpected (operation : Operation) (expected actual : Lifecycle)
  | transition (source goal actual : Lifecycle)
  | noTargets
  | noTransaction (operation : Operation)
  | reported (text : String)
  deriving DecidableEq, Repr

namespace StateFault

def message : StateFault → String
  | unexpected operation expected actual =>
    "cannot " ++ operation.phrase ++ ": session must be " ++ expected.name ++ " but is " ++
      actual.name
  | transition source goal actual =>
    "cannot change session state from " ++ source.name ++ " to " ++ goal.name ++
      ": session is " ++ actual.name
  | noTargets => "cannot begin: no dump targets are registered"
  | noTransaction operation => "cannot " ++ operation.name ++ ": transaction is not available"
  | reported text => text

end StateFault

/-- An argument that cannot be used. -/
inductive ArgumentFault where
  | noWorkers
  | noLabel (destination : Path)
  | noSubject (kind : TargetKind) (label : String)
  | repeatedDestination (destination : Path)
  | noNameLength
  | escapeNotAscii (c : Char)
  | delimiterNotAscii (c : Char)
  | replacementNotPlain (c : Char)
  | noTableName
  | unusableName (name : String)
  | noQueryLabel (command : String)
  | noQueryAfterLabel (command : String)
  | noQuery
  | noFileName (destination : Path)
  | delimiterInFileName (delimiter : Char) (destination : Path)
  | tableNotRegistered (name : String)
  | queryNotRegistered (label : String)
  | reported (text : String)
  deriving DecidableEq, Repr

namespace ArgumentFault

def message : ArgumentFault → String
  | noWorkers => "worker count must be greater than 0"
  | noLabel destination => "target without a label: " ++ destination.text
  | noSubject kind label => "target without a " ++ kind.name ++ " to dump: " ++ label
  | repeatedDestination destination => "duplicate destination: " ++ destination.text
  | noNameLength => "maximum name length must be greater than 0"
  | escapeNotAscii c => "escape character must be ASCII: " ++ Text.quoteChar c
  | delimiterNotAscii c => "delimiter must be ASCII: " ++ Text.quoteChar c
  | replacementNotPlain c => "replacement character is not a plain character: " ++ Text.quoteChar c
  | noTableName => "table name must not be empty"
  | unusableName name => "name cannot be used as a destination: " ++ Text.quoteText name
  | noQueryLabel command => "query label must not be empty: " ++ Text.quoteText command
  | noQueryAfterLabel command => "query must not be empty: " ++ Text.quoteText command
  | noQuery => "query must not be empty"
  | noFileName destination => "destination has no usable file name: " ++ destination.text
  | delimiterInFileName delimiter destination =>
    "destination name must not contain '" ++ delimiter.toString ++ "': " ++ destination.text
  | tableNotRegistered name => "table is not registered: " ++ name
  | queryNotRegistered label => "query is not registered: " ++ label
  | reported text => text

end ArgumentFault

/-- A target that nobody handles. -/
inductive SupportFault where
  | noOperation (kind : TargetKind) (label : String)
  | otherKind (expected actual : TargetKind) (label : String)
  | reported (text : String)
  deriving DecidableEq, Repr

namespace SupportFault

def message : SupportFault → String
  | noOperation kind label =>
    "no operation is registered for " ++ kind.name ++ " targets: " ++ label
  | otherKind expected actual label =>
    expected.name ++ " operation cannot handle " ++ actual.name ++ " target: " ++ label
  | reported text => text

end SupportFault

inductive Misuse where
  | state (fault : StateFault)
  | argument (fault : ArgumentFault)
  | support (fault : SupportFault)
  deriving DecidableEq, Repr

def Misuse.message : Misuse → String
  | state fault => "Invalid state: " ++ fault.message
  | argument fault => "Invalid argument: " ++ fault.message
  | support fault => "Unsupported operation: " ++ fault.message

/-- What a diagnostic goes back to. -/
inductive Cause where
  | client (fault : ClientFault)
  /-- The error of an operating system. -/
  | system (reason : String)
  | misuse (fault : Misuse)
  /-- The end of a job that panicked. -/
  | panic (payload : String)
  | diagnostic (kind : DiagnosticKind) (message : String) (source : Option Cause)
  deriving Repr

namespace Cause

/-- The text of a job's end; the place of the job's number is marked. -/
def panicText (payload : String) : String :=
  "task # panicked with message " ++ Text.quoteText payload

def diagnosticText (kind : DiagnosticKind) (message : String) : String :=
  "[" ++ kind.code ++ "] " ++ message

def message : Cause → String
  | client fault => fault.message
  | system reason => reason
  | misuse fault => fault.message
  | panic payload => panicText payload
  | diagnostic kind message _ => diagnosticText kind message

/-- The text of a cause and of all that lie behind it. -/
def chain : Cause → List String
  | client fault => fault.message :: fault.causes
  | system reason => [reason]
  | misuse fault => [fault.message]
  | panic payload => [panicText payload]
  | diagnostic kind message none => [diagnosticText kind message]
  | diagnostic kind message (some source) => diagnosticText kind message :: source.chain

end Cause

/-- A report for the user. Failures that followed the reported one are kept as suppressed. -/
structure Diagnostic where
  kind : DiagnosticKind
  text : String
  source : Option Cause
  suppressed : List Diagnostic
  deriving Repr

namespace Diagnostic

def message (d : Diagnostic) : String :=
  Cause.diagnosticText d.kind d.text

def chain (d : Diagnostic) : List String :=
  match d.source with
  | some source => source.chain
  | none => []

def suppress (d later : Diagnostic) : Diagnostic :=
  { d with suppressed := d.suppressed ++ [later] }

def toCause (d : Diagnostic) : Cause :=
  .diagnostic d.kind d.text d.source

end Diagnostic

/-- The diagnostic of a client fault: an I/O fault is always reported as such. -/
def ClientFault.classify (fault : ClientFault) (otherwise : DiagnosticKind) (text : String) :
    Diagnostic :=
  ⟨if fault.isIo then .ioError else otherwise, text, some (.client fault), []⟩

inductive DumpFault where
  | diagnostic (d : Diagnostic)
  | misuse (fault : Misuse)
  deriving Repr

namespace DumpFault

def message : DumpFault → String
  | diagnostic d => d.message
  | misuse fault => fault.message

def isDiagnostic : DumpFault → Bool
  | diagnostic _ => true
  | misuse _ => false

def state (fault : StateFault) : DumpFault := .misuse (.state fault)

def argument (fault : ArgumentFault) : DumpFault := .misuse (.argument fault)

def support (fault : SupportFault) : DumpFault := .misuse (.support fault)

/-- Every fault as a diagnostic: misuse is one of unknown kind that goes back to the misuse. -/
def toDiagnostic : DumpFault → Diagnostic
  | diagnostic d => d
  | misuse fault => ⟨.unknown, fault.message, some (.misuse fault), []⟩

end DumpFault

/-- The outcome of an operation that gives no value. -/
abbrev Outcome := Except DumpFault Unit

end DumpFlow
