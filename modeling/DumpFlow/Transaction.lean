import DumpFlow.Dictionary

/-!
Settings of a run's transaction and the option with which the database is asked for it.
-/

namespace DumpFlow

inductive TransactionKind where
  | short
  | long
  | readOnly
  deriving DecidableEq, Repr

namespace TransactionKind

instance : Inhabited TransactionKind := ⟨readOnly⟩

def all : List TransactionKind := [short, long, readOnly]

def name : TransactionKind → String
  | short => "short"
  | long => "long"
  | readOnly => "read_only"

end TransactionKind

/-- How far a commit must have got before it is answered. -/
inductive CommitStatus where
  | accepted
  | available
  | stored
  | propagated
  deriving DecidableEq, Repr

namespace CommitStatus

instance : Inhabited CommitStatus := ⟨stored⟩

def all : List CommitStatus := [accepted, available, stored, propagated]

def name : CommitStatus → String
  | accepted => "accepted"
  | available => "available"
  | stored => "stored"
  | propagated => "propagated"

/-- The name as progress messages give it. -/
def title : CommitStatus → String
  | accepted => "Accepted"
  | available => "Available"
  | stored => "Stored"
  | propagated => "Propagated"

end CommitStatus

structure TransactionOption where
  kind : TransactionKind
  label : Option String
  writePreserve : List String
  inclusiveReadAreas : List String
  deriving DecidableEq, Repr, Inhabited

structure TransactionSettings where
  kind : TransactionKind
  label : Option String
  writePreserve : List String
  enableReadAreas : Bool
  commitStatus : CommitStatus
  deriving DecidableEq, Repr

namespace TransactionSettings

/-- The settings of a run that asks for nothing else. -/
def standard : TransactionSettings :=
  ⟨default, some "tgdump", [], false, default⟩

instance : Inhabited TransactionSettings := ⟨standard⟩

/-- The option for a run that dumps `tables`. Only a long transaction preserves writes, and a short
one has no read areas. -/
def toOption (s : TransactionSettings) (tables : List String) : TransactionOption where
  kind := s.kind
  label := s.label
  writePreserve := if s.kind = .long then s.writePreserve else []
  inclusiveReadAreas := if s.enableReadAreas ∧ s.kind ≠ .short then ascendingTexts tables else []

end TransactionSettings

end DumpFlow
