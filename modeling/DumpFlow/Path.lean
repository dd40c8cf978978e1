import DumpFlow.Text.Utf8

/-!
Paths of a file system whose separator is `/`. A path is its text; what it leads to is its list of
components, and two paths are the same when those lists are. Repeated separators and `.` inside
a path do not count as components, `.` at its start and `..` do.

The file system knows a path by its bytes, which need not be UTF-8. Such a path is spelled with one
character for each byte.
-/

namespace DumpFlow

structure Path where
  text : String
  deriving DecidableEq, Repr, Inhabited

namespace Path

inductive Component where
  | root
  | current
  | parent
  | name (text : String)
  deriving DecidableEq, Repr

/-- Where a path starts. -/
inductive Anchor where
  | root
  | current
  | none
  deriving DecidableEq, Repr

/-- The pieces between separators; there is always at least one, possibly empty. -/
def pieces (cs : List Char) : List (List Char) :=
  cs.splitOn '/'

/-- A piece that is no component. -/
def isIdle (piece : List Char) : Bool :=
  piece == [] || piece == ['.']

def component? (piece : List Char) : Option Component :=
  if isIdle piece then none
  else if piece == ['.', '.'] then some .parent
  else some (.name (String.ofList piece))

/-- The start of a path and the pieces after it. -/
def unfold (p : Path) : Anchor × List (List Char) :=
  match p.text.toList with
  | '/' :: cs => (.root, pieces cs)
  | cs =>
    match pieces cs with
    | ['.'] :: rest => (.current, rest)
    | body => (.none, body)

def Anchor.components : Anchor → List Component
  | .root => [.root]
  | .current => [.current]
  | .none => []

def components (p : Path) : List Component :=
  p.unfold.1.components ++ p.unfold.2.filterMap component?

/-- Both lead to the same place by the same steps. -/
def Same (p q : Path) : Prop :=
  p.components = q.components

instance (p q : Path) : Decidable (p.Same q) :=
  inferInstanceAs (Decidable (_ = _))

/-- The text of a start and the pieces after it. -/
def fold : Anchor → List (List Char) → Path
  | .root, body => ⟨String.ofList ('/' :: List.intercalate ['/'] body)⟩
  | .current, body => ⟨String.ofList ('.' :: body.flatMap ('/' :: ·))⟩
  | .none, body => ⟨String.ofList (List.intercalate ['/'] body)⟩

/-- Without the pieces at the end that are no components. -/
def dropIdle (body : List (List Char)) : List (List Char) :=
  (body.reverse.dropWhile isIdle).reverse

/-- The path without its last component, if that is a name or `..`. -/
def parent? (p : Path) : Option Path :=
  match p.components.getLast? with
  | some (.name _) | some .parent =>
    some (fold p.unfold.1 (dropIdle (dropIdle p.unfold.2).dropLast))
  | some .current => some ⟨""⟩
  | _ => none

/-- The last component, if it is a name. -/
def fileName? (p : Path) : Option String :=
  match p.components.getLast? with
  | some (.name s) => some s
  | _ => none

/-- The path `s` seen from `p`; an absolute `s` stands for itself. -/
def join (p : Path) (s : String) : Path :=
  if s.toList.head? = some '/' then ⟨s⟩
  else if p.text.toList.getLast?.all (· == '/') then ⟨p.text ++ s⟩
  else ⟨p.text ++ "/" ++ s⟩

/-- The path with `name` in the place of its file name, or after it if it has none. -/
def withFileName (p : Path) (name : String) : Path :=
  match p.fileName?, p.parent? with
  | some _, some parent => parent.join name
  | _, _ => p.join name

/-- What the characters of a path stand for. -/
inductive Spelling where
  | text
  | bytes
  deriving DecidableEq, Repr

namespace Spelling

def write : Spelling → String → String
  | text, s => s
  | bytes, s => Utf8.encode s

/-- The text that is spelled so, if there is one. -/
def read? : Spelling → String → Option String
  | text, raw => some raw
  | bytes, raw => Utf8.decode? raw

/-- The path as messages show it. -/
def shown : Spelling → Path → Path
  | text, p => p
  | bytes, p => ⟨Utf8.shown p.text⟩

/-- The file name, if it can be read. -/
def fileName? (spelling : Spelling) (p : Path) : Option String :=
  p.fileName?.bind spelling.read?

end Spelling

end Path

end DumpFlow
