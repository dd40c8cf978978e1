import DumpFlow.Path

/-!
A file system as far as directories are created in it: what stands below a working directory, and
below the directories around it. Paths are resolved piece by piece; `.` stays, `..` goes up.
-/

namespace DumpFlow.Simulation

/-- Where a place is reached from. -/
inductive Origin where
  /-- So many levels above the working directory. -/
  | above (levels : Nat)
  | root
  deriving DecidableEq, Repr

/-- The names on the way to a place, from its origin on. -/
structure Place where
  origin : Origin
  names : List String
  deriving DecidableEq, Repr

namespace Place

def working : Place := ⟨.above 0, []⟩

def child (p : Place) (name : String) : Place :=
  ⟨p.origin, p.names ++ [name]⟩

/-- There is nothing above the root. -/
def parent (p : Place) : Place :=
  match p.names, p.origin with
  | [], .above n => ⟨.above (n + 1), []⟩
  | [], .root => p
  | _ :: _, o => ⟨o, p.names.dropLast⟩

end Place

/-- Why the file system refuses. -/
inductive Refusal where
  | missing
  | taken
  | notDirectory
  | nameTooLong
  | strayNul
  deriving DecidableEq, Repr

def Refusal.message : Refusal → String
  | missing => "No such file or directory (os error 2)"
  | taken => "File exists (os error 17)"
  | notDirectory => "Not a directory (os error 20)"
  | nameTooLong => "File name too long (os error 36)"
  | strayNul => "file name contained an unexpected NUL byte"

/-- The places that have been made. Origins are directories from the start. -/
structure Directory where
  directories : List Place
  files : List Place
  deriving DecidableEq, Repr

namespace Directory

def empty : Directory := ⟨[], []⟩

instance : Inhabited Directory := ⟨empty⟩

def isDirectory (d : Directory) (p : Place) : Bool :=
  p.names.isEmpty || d.directories.contains p

def isTaken (d : Directory) (p : Place) : Bool :=
  d.isDirectory p || d.files.contains p

/-- The most bytes of a name. -/
def greatestName : Nat := 255

/-- The most bytes of a path. -/
def greatestPath : Nat := 4095

/-- One piece of a path, looked up in a place. -/
def descend (d : Directory) (p : Place) (piece : String) : Except Refusal Place :=
  if ¬ d.isDirectory p then .error .notDirectory
  else if piece = "." then .ok p
  else if piece = ".." then .ok p.parent
  else if greatestName < piece.utf8ByteSize then .error .nameTooLong
  else if d.isTaken (p.child piece) then .ok (p.child piece)
  else .error .missing

/-- The origin of a path and its pieces; repeated separators count as one. -/
def route (p : Path) : Place × List String :=
  ((if p.text.toList.head? = some '/' then ⟨.root, []⟩ else .working),
    (Path.pieces p.text.toList).filterMap fun piece =>
      if piece.isEmpty then none else some (String.ofList piece))

/-- A path that cannot be looked up at all is refused, also where it would lead somewhere. -/
def screen (p : Path) : Except Refusal Unit :=
  if p.text.toList.contains '\x00' then .error .strayNul
  else if greatestPath < p.text.utf8ByteSize then .error .nameTooLong
  else .ok ()

/-- The directory that a path leads to. -/
def resolve (d : Directory) (p : Path) : Except Refusal Place := do
  screen p
  let place ← (route p).2.foldlM d.descend (route p).1
  if d.isDirectory place then return place else throw .notDirectory

def leadsToDirectory (d : Directory) (p : Path) : Bool :=
  match d.resolve p with
  | .ok _ => true
  | .error _ => false

/-- The directory in which the last piece of a path stands, and that piece. -/
def slot (d : Directory) (p : Path) : Except Refusal (Place × String) := do
  screen p
  let (origin, pieces) := route p
  match pieces.getLast? with
  | none => throw (if p.text.isEmpty then .missing else .taken)
  | some last =>
    let place ← pieces.dropLast.foldlM d.descend origin
    if d.isDirectory place then return (place, last) else throw .notDirectory

/-- The place that is free for what a path names. -/
def vacancy (d : Directory) (p : Path) : Except Refusal Place := do
  let (place, last) ← d.slot p
  if last = "." ∨ last = ".." then throw .taken
  else if greatestName < last.utf8ByteSize then throw .nameTooLong
  else if d.isTaken (place.child last) then throw .taken
  else return place.child last

/-- A new directory whose parent is there. -/
def makeOne (d : Directory) (p : Path) : Except Refusal Directory := do
  let place ← d.vacancy p
  return { d with directories := d.directories ++ [place] }

/-- A directory, unless it is there already. -/
def ensureOne (d : Directory) (p : Path) : Except Refusal Directory :=
  match d.makeOne p with
  | .ok d' => .ok d'
  | .error refusal => if d.leadsToDirectory p then .ok d else .error refusal

/-- A directory and those above it. Of the refusals only a missing parent is made good, by making
the parent first. The directories that were made before a refusal stay. -/
def ensure (d : Directory) (p : Path) : Nat → Directory × Except Refusal Unit
  | 0 => (d, .ok ())
  | levels + 1 =>
    if p.components.isEmpty then (d, .ok ())
    else
      match d.ensureOne p with
      | .ok d' => (d', .ok ())
      | .error .missing =>
        match p.parent? with
        | none => (d, .error .missing)
        | some parent =>
          match d.ensure parent levels with
          | (d', .error refusal) => (d', .error refusal)
          | (d', .ok _) =>
            match d'.ensureOne p with
            | .ok d'' => (d'', .ok ())
            | .error refusal => (d', .error refusal)
      | .error refusal => (d, .error refusal)

/-- A directory and as many above it as its path has components. -/
def create (d : Directory) (p : Path) : Directory × Except Refusal Unit :=
  d.ensure p (p.components.length + 1)

/-- With an empty file, and the directories that it needs. -/
def withFile (d : Directory) (p : Path) : Directory :=
  let d := (d.create (p.parent?.getD ⟨""⟩)).1
  match d.vacancy p with
  | .ok place => { d with files := d.files ++ [place] }
  | .error _ => d

/-- The path of a place below the working directory, if it is there. -/
def pathBelow? (p : Place) : Option String :=
  if p.origin = .above 0 then some ("/".intercalate p.names) else none

/-- All paths below the working directory in ascending order, those of directories with a separator
at their end. -/
def listing (d : Directory) : List String :=
  (d.directories.filterMap pathBelow?).map (· ++ "/") ++ d.files.filterMap pathBelow?
    |>.mergeSort (fun a b => decide (a ≤ b))

end Directory

end DumpFlow.Simulation
