/-!
Doing something over and over until it cannot be done any more.
-/

namespace DumpFlow

variable {α : Type}

/-- What is left after as many steps as can be taken, but not more than the given number. -/
def exhaust (step? : α → Option α) : Nat → α → α
  | 0, a => a
  | n + 1, a =>
    match step? a with
    | some a' => exhaust step? n a'
    | none => a

end DumpFlow
