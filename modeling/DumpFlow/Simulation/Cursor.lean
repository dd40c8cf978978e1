import DumpFlow.Fault

/-!
Row sets of a simulated database, by the ticket of the dump that opened them.
-/

namespace DumpFlow.Simulation

/-- The paths that are left of a row set, what comes after the last one, and what closing it
gives. -/
structure Cursor where
  ticket : Nat
  paths : List String
  atEnd : Except ClientFault Unit
  atClose : Except ClientFault Unit

namespace Cursor

/-- The next path of the row set with a ticket, and the row sets without it. -/
def advance (ticket : Nat) : List Cursor → Except ClientFault (Option String) × List Cursor
  | [] => (.ok none, [])
  | c :: cs =>
    if c.ticket = ticket then
      match c.paths with
      | path :: paths => (.ok (some path), { c with paths := paths } :: cs)
      | [] => (c.atEnd.map fun _ => none, c :: cs)
    else ((advance ticket cs).1, c :: (advance ticket cs).2)

/-- What closing the row set with a ticket gives. -/
def closing (ticket : Nat) (cs : List Cursor) : Except ClientFault Unit :=
  match cs.find? (·.ticket = ticket) with
  | some c => c.atClose
  | none => .ok ()

end Cursor

end DumpFlow.Simulation
