/-!
Names as SQL identifiers. A plain identifier stands as it is; any other name is put between double
quotes, with each quote in it written twice.
-/

namespace DumpFlow.Identifier

def isFirst (c : Char) : Bool :=
  c.isAlpha || c == '_'

def isLater (c : Char) : Bool :=
  c.isAlphanum || c == '_'

def isPlain : List Char → Bool
  | [] => false
  | c :: cs => isFirst c && cs.all isLater

def doubleQuotes (cs : List Char) : List Char :=
  cs.flatMap fun c => if c = '"' then ['"', '"'] else [c]

def quote (name : String) : String :=
  if isPlain name.toList then name
  else String.ofList ('"' :: doubleQuotes name.toList ++ ['"'])

/-- The statement that dumps the table `name`. -/
def selectAll (name : String) : String :=
  "SELECT * FROM " ++ quote name

end DumpFlow.Identifier
