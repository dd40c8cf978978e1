import DumpFlow.Fault

/-!
Targets with the same destination are moved apart: each gets its rank among them behind its file
name, after a delimiter that no file name contains. A file name that is not text takes no rank.
-/

namespace DumpFlow.Conflict

/-- How many of `targets` share the destination `p`. -/
def sharers (targets : List Target) (p : Path) : Nat :=
  targets.countP fun t => t.destination.Same p

variable (spelling : Path.Spelling) (delimiter : Char)

/-- The file name of a destination, which must be text without the delimiter. -/
def checkFileName (destination : Path) : Except DumpFault String :=
  match spelling.fileName? destination with
  | none => .error (.argument (.noFileName (spelling.shown destination)))
  | some name =>
    if delimiter ∈ name.toList then
      .error (.argument (.delimiterInFileName delimiter (spelling.shown destination)))
    else .ok name

/-- `p` with the rank behind its file name. -/
def numbered (p : Path) (rank : Nat) : Path :=
  let name := (spelling.fileName? p).getD ""
  p.withFileName (spelling.write (name ++ delimiter.toString ++ toString rank))

/-- `all` are the targets of the whole list and `earlier` those in front of `targets`. -/
def renumber (all : List Target) : (earlier targets : List Target) → List Target
  | _, [] => []
  | earlier, t :: rest =>
    let moved :=
      if sharers all t.destination < 2 then t
      else
        t.withDestination
          (numbered spelling delimiter t.destination (sharers earlier t.destination + 1))
    moved :: renumber all (earlier ++ [t]) rest

/-- The first destination that cannot take a rank. -/
def firstFault (targets : List Target) : Option DumpFault :=
  targets.findSome? fun t =>
    match checkFileName spelling delimiter t.destination with
    | .error fault => some fault
    | .ok _ => none

/-- The targets moved apart, their destinations spelled so. -/
def resolveIn (targets : List Target) : Except DumpFault (List Target) :=
  match firstFault spelling delimiter targets with
  | some fault => .error fault
  | none => .ok (renumber spelling delimiter targets [] targets)

def resolve (targets : List Target) : Except DumpFault (List Target) :=
  resolveIn .text delimiter targets

end DumpFlow.Conflict
